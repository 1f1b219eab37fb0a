/-! Reading UTF-8 that may be cut or damaged.

Each longest piece that begins a character but does not complete it, and each byte
that cannot begin one, is read as a replacement character. -/
namespace GraphQL.Text

/-- A character of which some bytes are still to come: the bits so far, how many
bytes remain, and the range of the next of them. -/
structure Unfinished where
  bits : Nat
  remaining : Nat
  least : Nat
  greatest : Nat

def replacement : Char := '\uFFFD'

/-- What a first byte begins: a whole character, one that needs more bytes, or none. -/
inductive Opening
  | whole (c : Char)
  | unfinished (u : Unfinished)
  | invalid

/-- Second bytes are narrowed where a shorter form, a surrogate or a value beyond
the last code point would follow. -/
def opening (b : Nat) : Opening :=
  if b < 0x80 then .whole (Char.ofNat b)
  else if 0xC2 ≤ b ∧ b ≤ 0xDF then .unfinished ⟨b - 0xC0, 1, 0x80, 0xBF⟩
  else if 0xE0 ≤ b ∧ b ≤ 0xEF then
    .unfinished ⟨b - 0xE0, 2, if b = 0xE0 then 0xA0 else 0x80, if b = 0xED then 0x9F else 0xBF⟩
  else if 0xF0 ≤ b ∧ b ≤ 0xF4 then
    .unfinished ⟨b - 0xF0, 3, if b = 0xF0 then 0x90 else 0x80, if b = 0xF4 then 0x8F else 0xBF⟩
  else .invalid

/-- The character with one more byte. -/
def Unfinished.extend (u : Unfinished) (b : Nat) : Unfinished :=
  ⟨u.bits * 0x40 + (b - 0x80), u.remaining - 1, 0x80, 0xBF⟩

def decodeFrom (before : Option Unfinished) : List UInt8 → List Char
  | [] => if before.isSome then [replacement] else []
  | byte :: rest =>
    let b := byte.toNat
    let begin (damaged : List Char) : List Char :=
      match opening b with
      | .whole c => damaged ++ c :: decodeFrom none rest
      | .unfinished u => damaged ++ decodeFrom (some u) rest
      | .invalid => damaged ++ replacement :: decodeFrom none rest
    match before with
    | none => begin []
    | some u =>
      if u.least ≤ b ∧ b ≤ u.greatest then
        if u.remaining = 1 then Char.ofNat (u.extend b).bits :: decodeFrom none rest
        else decodeFrom (some (u.extend b)) rest
      else begin [replacement]

/-- The text of some bytes. -/
def decode (bytes : List UInt8) : List Char := decodeFrom none bytes

end GraphQL.Text
