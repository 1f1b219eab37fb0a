import GraphQL.Text.Position

/-! The lines of a text, without their terminators, and cuts at byte lengths.

Terminators are those of `positionAt`, so line `n` of a position is entry `n - 1`
of `lines`. A text has one line more than terminators, hence at least one. -/
namespace GraphQL.Text

/-- Puts a character in front of the first line. -/
def onFirstLine (c : Char) : List (List Char) → List (List Char)
  | [] => [[c]]
  | line :: rest => (c :: line) :: rest

def lines : List Char → List (List Char)
  | [] => [[]]
  | '\r' :: '\n' :: rest => [] :: lines rest
  | c :: rest => if isBreak c then [] :: lines rest else onFirstLine c (lines rest)

theorem lines_ne_nil (text : List Char) : lines text ≠ [] := by
  fun_cases lines text
  · simp
  · simp
  · simp
  · rename_i c rest _ _
    cases lines rest <;> simp [onFirstLine]

/-- The longest piece at the front that takes at most `bytes` bytes: a cut inside a
character moves back to the character's beginning. -/
def takeBytes : Nat → List Char → List Char
  | _, [] => []
  | bytes, c :: rest =>
    if c.utf8Size ≤ bytes then c :: takeBytes (bytes - c.utf8Size) rest else []

theorem byteLength_takeBytes_le (bytes : Nat) (text : List Char) :
    byteLength (takeBytes bytes text) ≤ bytes := by
  induction text generalizing bytes with
  | nil => simp [takeBytes, byteLength]
  | cons c rest ih =>
    rw [takeBytes]
    split
    · have := ih (bytes - c.utf8Size)
      simp only [byteLength]
      omega
    · simp [byteLength]

end GraphQL.Text
