import GraphQL.Report.Excerpt

/-! Rendering a report for people: the message, then an excerpt for every place.

`Report.print` is the text on its own. What goes to a terminal is laid out a
little tighter and may be colored: `Report.pieces` is the sequence of texts and
style changes, which `plain` and `ansi` turn into characters without and with
color. -/
namespace GraphQL

namespace Report

/-- The message, and each excerpt after an empty line. -/
def print (r : Report) : String :=
  r.message ++ String.join (r.excerpts.map fun e => "\n\n" ++ e.header ++ "\n" ++ e.body)

/-! ### Styled text -/

inductive Style
  /-- Bold and red, for the message. -/
  | message
  /-- Cyan, for the headers of excerpts. -/
  | header
deriving DecidableEq, Repr

inductive Piece
  | text (s : String)
  | set (style : Style)
  | reset
deriving DecidableEq, Repr

/-- An excerpt after a line end, its header in color. -/
def excerptPieces (e : Excerpt) : List Piece :=
  [.text "\n", .set .header, .text (e.header ++ "\n"), .reset, .text e.body]

def pieces (r : Report) : List Piece :=
  [.set .message, .text r.message, .reset, .text "\n"] ++
    r.excerpts.flatMap excerptPieces ++ [.reset]

/-- The characters of a piece where there is no color. -/
def Piece.plain : Piece → String
  | .text s => s
  | _ => ""

def resetCode : String := "\x1b[0m"

/-- The codes that switch a style on, after whatever was set before. -/
def Style.ansi : Style → String
  | .message => resetCode ++ "\x1b[1m\x1b[31m"
  | .header => resetCode ++ "\x1b[36m"

def Piece.ansi : Piece → String
  | .text s => s
  | .set style => style.ansi
  | .reset => resetCode

def plain (r : Report) : String := String.join (r.pieces.map Piece.plain)

def ansi (r : Report) : String := String.join (r.pieces.map Piece.ansi)

/-! ### Terminals -/

/-- What the environment says about the terminal. -/
structure Terminal where
  term : Option String
  noColor : Option String

/-- Color needs a terminal that is named and not dumb, and no wish against it, be
it an empty one. -/
def Terminal.hasColor (t : Terminal) : Bool :=
  t.noColor.isNone && t.term.any (· != "dumb")

/-- What is written to a terminal. -/
def onTerminal (t : Terminal) (r : Report) : String := if t.hasColor then r.ansi else r.plain

end Report

end GraphQL
