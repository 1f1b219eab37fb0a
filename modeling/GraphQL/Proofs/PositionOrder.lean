import GraphQL.Proofs.LineEnds
import Mathlib.Data.List.Basic
import Mathlib.Data.Prod.Lex
import Mathlib.Data.Set.Function
import Mathlib.Order.Interval.Set.Defs

/-! Positions in the order of their offsets.

At an offset further on, all the line ends have been passed that were passed before
(`passed_sublist`). If there are more of them, the line is a later one; if they are the
same, the line is the same and the offset is further from its beginning
(`Position.after_lt`). Nothing is asked of the offsets, so those between the two bytes of
a pair and those inside a character have their places in the order too. -/
namespace GraphQL.Text

namespace Position

/-- Positions in order of reading: by line, and on one line by column. -/
def key (p : Position) : ℕ ×ₗ ℕ := toLex (p.line, p.column)

theorem key_lt {p q : Position} :
    p.key < q.key ↔ p.line < q.line ∨ p.line = q.line ∧ p.column < q.column :=
  Prod.Lex.toLex_lt_toLex

end Position

theorem passed_sublist (bytes : List UInt8) {a b : Nat} (h : a ≤ b) :
    (passed 0 bytes a).Sublist (passed 0 bytes b) := by
  apply List.monotone_filter_right
  intro t ht
  simp only [decide_eq_true_eq] at ht ⊢
  exact Nat.le_trans ht h

/-- Of two offsets counted by line ends, the smaller comes first. -/
theorem Position.after_lt (bytes : List UInt8) {a b : Nat} (h : a < b) :
    (after 1 0 (passed 0 bytes a) a).key < (after 1 0 (passed 0 bytes b) b).key := by
  have hsub := passed_sublist bytes (Nat.le_of_lt h)
  have hstart := lineStart_passed_le bytes a
  rw [key_lt]
  rcases Nat.lt_or_eq_of_le hsub.length_le with hmore | hsame
  · exact .inl (Nat.add_lt_add_left hmore 1)
  · rw [hsub.eq_of_length hsame] at hstart ⊢
    exact .inr ⟨rfl, Nat.succ_lt_succ (Nat.sub_lt_sub_right hstart h)⟩

end GraphQL.Text

namespace GraphQL

open Text

namespace Source

variable (s : Source)

/-- A position counts the line ends among the bytes in front of its offset. -/
theorem positionAt_eq_passed (offset : Nat) :
    s.positionAt offset =
      .after 1 0 (passed 0 s.bytes (min offset s.size)) (min offset s.size) := by
  have h : Counts .start 0 0 s.chars (min offset s.size) (s.positionAt offset) :=
    counts_positionFrom (Nat.le_refl 0) rfl
  rw [Counts, Nat.zero_add] at h
  exact h

theorem positionAt_min_size (offset : Nat) :
    s.positionAt (min offset s.size) = s.positionAt offset := by
  simp only [positionAt_eq_passed, Nat.min_assoc, Nat.min_self]

/-- **Positions are in the order of their offsets.** Up to the end of the body an offset
further on has a later position, so different offsets have different positions; from there
on all have the position of the end. -/
theorem positionAt_strictMonoOn :
    StrictMonoOn (fun offset => (s.positionAt offset).key) (Set.Iic s.size) ∧
      Set.InjOn s.positionAt (Set.Iic s.size) ∧
      ∀ offset ∈ Set.Ici s.size, s.positionAt offset = s.positionAt s.size := by
  have hmono : StrictMonoOn (fun offset => (s.positionAt offset).key) (Set.Iic s.size) := by
    intro a ha b hb hlt
    simp only [positionAt_eq_passed, Nat.min_eq_left (Set.mem_Iic.mp ha),
      Nat.min_eq_left (Set.mem_Iic.mp hb)]
    exact Position.after_lt s.bytes hlt
  refine ⟨hmono, fun a ha b hb hab => ?_, fun offset hoffset => ?_⟩
  · exact hmono.injOn ha hb (congrArg Position.key hab)
  · rw [← s.positionAt_min_size offset, Nat.min_eq_right (Set.mem_Ici.mp hoffset)]

end Source

-- Between the bytes of the pair the first line is still running, one column behind the `\r`.
example : [1, 2, 3].map (Source.ofBody "a\r\nb").positionAt = [⟨1, 2⟩, ⟨1, 3⟩, ⟨2, 1⟩] := by decide

end GraphQL
