/-! Lines and columns of a text.

A line ends at `\n`, at `\r`, or at the pair `\r\n`, which counts once. Columns
count UTF-8 bytes from 1, and so do the offsets that `positionAt` turns into
positions. A terminator moves the line forward only once it has been passed
whole: between `\r` and `\n` the earlier line is still running. -/
namespace GraphQL.Text

/-- A line and a column, both counted from 1. -/
structure Position where
  line : Nat
  column : Nat
deriving DecidableEq, Repr

namespace Position

/-- Where a text begins. -/
def start : Position := ⟨1, 1⟩

/-- The beginning of the line after. -/
def nextLine (p : Position) : Position := ⟨p.line + 1, 1⟩

/-- The same line, some bytes on. -/
def advance (p : Position) (bytes : Nat) : Position := ⟨p.line, p.column + bytes⟩

def text (p : Position) : String := toString p.line ++ ":" ++ toString p.column

end Position

/-- Whether a character by itself ends a line. -/
def isBreak (c : Char) : Bool := c == '\n' || c == '\r'

/-- The UTF-8 length of a text. -/
def byteLength : List Char → Nat
  | [] => 0
  | c :: rest => c.utf8Size + byteLength rest

/-- The position `offset` bytes into a text that begins at `p`; past its end, the
position of the end. Inside a character the column counts the bytes before the
offset. -/
def positionFrom (p : Position) : List Char → Nat → Position
  | [], _ => p
  | '\r' :: '\n' :: rest, offset =>
    if offset < 2 then p.advance offset else positionFrom p.nextLine rest (offset - 2)
  | c :: rest, offset =>
    if offset < c.utf8Size then p.advance offset
    else if isBreak c then positionFrom p.nextLine rest (offset - c.utf8Size)
    else positionFrom (p.advance c.utf8Size) rest (offset - c.utf8Size)

def positionAt (text : List Char) (offset : Nat) : Position := positionFrom .start text offset

end GraphQL.Text
