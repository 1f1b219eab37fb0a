/-! Ranges of characters, as tables of character properties list them.

The ranges of a table ascend, so a search ends at the first range that begins
beyond the character. Tables are those of Unicode 17. -/
namespace GraphQL.Text

/-- First and last code points, in ascending order. -/
abbrev Ranges := List (Nat × Nat)

def Ranges.contains : Ranges → Char → Bool
  | [], _ => false
  | (first, last) :: rest, c => first ≤ c.toNat && (c.toNat ≤ last || Ranges.contains rest c)

/-- Nothing before the first range is in a table. -/
theorem Ranges.contains_of_lt {first last : Nat} {rest : Ranges} {c : Char} (h : c.toNat < first) :
    Ranges.contains ((first, last) :: rest) c = false := by
  simp [Ranges.contains, Nat.not_le.mpr h]

end GraphQL.Text
