import GraphQL.Report
import GraphQL.Text.DisplayWidth

/-! Excerpts: a few numbered lines of a document with a caret under a column.

An excerpt shows the line of a position and its neighbours, if there are any.
Numbers are aligned to the right, to the width of the largest shown, and the caret
stands in a row of its own after the line it points into. -/
namespace GraphQL

/-- A place in a document to be shown. -/
structure Excerpt where
  source : Source
  position : Text.Position
deriving DecidableEq, Repr

namespace Excerpt

inductive Row
  /-- A line under its number. -/
  | line (number : Nat) (text : List Char)
  /-- A caret so many cells into the line above. -/
  | caret (padding : Nat)
deriving DecidableEq, Repr

/-- How many neighbours are shown on each side. -/
def neighbours : Nat := 1

/-- The name of the document and the position in it. -/
def header (e : Excerpt) : String := e.source.name ++ " (" ++ e.position.text ++ ")"

/-- The index of the line pointed into. -/
def target (e : Excerpt) : Nat := min (e.position.line - 1) (e.source.lines.length - 1)

/-- The indices of the first and the last line shown. -/
def first (e : Excerpt) : Nat := e.target - neighbours
def last (e : Excerpt) : Nat := min (e.target + neighbours) (e.source.lines.length - 1)

/-- How far into a line the caret stands: the display width of what is left of it. -/
def padding (e : Excerpt) (line : List Char) : Nat :=
  Text.displayWidth (Text.takeBytes (e.position.column - 1) line)

/-- The lines shown, with their indices. -/
def shown (e : Excerpt) : List (List Char × Nat) :=
  (e.source.lines.zipIdx.take (e.last + 1)).drop e.first

def rows (e : Excerpt) : List Row :=
  e.shown.flatMap fun (line, i) =>
    if i = e.target then [.line (i + 1) line, .caret (e.padding line)] else [.line (i + 1) line]

/-! ### Text -/

/-- The decimal digits of a line number. -/
def digits (n : Nat) : List Char := Nat.toDigits 10 n

/-- The width of the column of numbers. -/
def gutter (e : Excerpt) : Nat := (digits (e.last + 1)).length

def alignRight (width : Nat) (text : List Char) : List Char :=
  List.replicate (width - text.length) ' ' ++ text

def separator : List Char := [' ', '|', ' ']

def Row.text (gutter : Nat) : Row → List Char
  | .line number text => alignRight gutter (digits number) ++ separator ++ text
  | .caret padding => alignRight gutter [] ++ separator ++ (List.replicate padding ' ' ++ ['^'])

/-- The rows, each on a line of its own. -/
def body (e : Excerpt) : String :=
  String.ofList (e.rows.flatMap fun row => row.text e.gutter ++ ['\n'])

end Excerpt

/-- The places a report shows: those of its located nodes, each in its own document,
or else its locations in its document. -/
def Report.excerpts (r : Report) : List Excerpt :=
  match r.located with
  | [] =>
    match r.document?, r.locations? with
    | some document, some locations => locations.map fun p => ⟨document, p⟩
    | _, _ => []
  | located => located.map fun l => ⟨l.source, l.startPosition⟩

end GraphQL
