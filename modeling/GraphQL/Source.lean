import GraphQL.Text.Lines

/-! Documents, and spans of bytes inside them. -/
namespace GraphQL

/-- A document and the name used when reporting on it. -/
structure Source where
  body : String
  name : String
deriving DecidableEq, Repr

namespace Source

/-- The name of documents that come without one. -/
def defaultName : String := "GraphQL request"

def ofBody (body : String) : Source := ⟨body, defaultName⟩

def chars (s : Source) : List Char := s.body.toList

/-- The length of the body in bytes. -/
def size (s : Source) : Nat := Text.byteLength s.chars

def isEmpty (s : Source) : Bool := s.chars.isEmpty

/-- The line and column of a byte offset; offsets past the end are the end's. -/
def positionAt (s : Source) (offset : Nat) : Text.Position := Text.positionAt s.chars offset

def lines (s : Source) : List (List Char) := Text.lines s.chars

end Source

/-- Byte offsets are below this: they are counted in 64 bits. -/
def offsetBound : Nat := Nat.pow 2 64

/-- A span of bytes of a document. It may reach beyond the body. -/
structure Location where
  start : Nat
  stop : Nat
  source : Source
  start_le_stop : start ≤ stop
  stop_lt : stop < offsetBound
deriving DecidableEq, Repr

namespace Location

/-- The span between two offsets, if they are in order. -/
def ofBounds? (start stop : Nat) (source : Source) : Option Location :=
  if h : start ≤ stop ∧ stop < offsetBound then some ⟨start, stop, source, h.1, h.2⟩
  else none

def length (l : Location) : Nat := l.stop - l.start

/-- The line and column of the first byte. -/
def startPosition (l : Location) : Text.Position := l.source.positionAt l.start

end Location

end GraphQL
