import GraphQL.Source
import GraphQL.Text.Utf8

/-! Windows: a span of a document together with whole lines around it.

`Scan.run` passes over the bytes of the body once. It keeps the beginnings of the
last lines before the span, so that the window can start the wanted number of
lines earlier, and stops where enough lines after the span have ended. -/
namespace GraphQL.Source

/-- A span and the number of lines wanted before and after it. -/
structure WindowRequest where
  offset : Nat
  length : Nat
  linesBefore : Nat
  linesAfter : Nat

structure Window where
  name : String
  /-- The bytes shown. -/
  data : List UInt8
  /-- Where they begin in the body. -/
  offset : Nat
  /-- The line and the column of the beginning, from 0. -/
  line : Nat
  column : Nat
  /-- How many line ends the scan passed. -/
  lineCount : Nat
deriving DecidableEq, Repr

namespace WindowRequest

/-- The last offset of the span. -/
def last (r : WindowRequest) : Nat := r.offset + (r.length - 1)

/-- From this offset on the span has been covered. -/
def covered (r : WindowRequest) : Nat := r.offset + r.length - 1

end WindowRequest

/-- What a scan knows at a byte of the body. -/
structure Scan where
  offset : Nat
  lineCount : Nat
  line : Nat
  column : Nat
  /-- The beginnings of the last lines before the span, the earliest first. -/
  starts : List Nat
  lineStart : Nat
  /-- Lines ended after the one that holds the end of the span. -/
  linesAfter : Nat
  /-- Whether the span has been covered. -/
  covered : Bool
  /-- Whether the line that holds the end of the span has ended. -/
  spanLineEnded : Bool

namespace Scan

def start : Scan := ⟨0, 0, 0, 0, [], 0, 0, false, false⟩

/-- Remembers a line begun before the span, at most `keep` of them. -/
def remember (keep : Nat) (s : Scan) : Scan :=
  if s.starts.length < keep then { s with column := 0, starts := s.starts ++ [s.lineStart] }
  else { s with column := 0, starts := (s.starts ++ [s.lineStart]).drop 1, line := s.line + 1 }

/-- Counts a line end after the span. -/
def countAfter (s : Scan) : Scan :=
  if s.spanLineEnded then { s with column := 0, linesAfter := s.linesAfter + 1 }
  else { s with column := 0, spanLineEnded := true }

def enough (r : WindowRequest) (s : Scan) : Bool := decide (r.linesAfter ≤ s.linesAfter)

/-- The last byte of a line end: the scan after it, and whether it stops there. -/
def lineEnd (r : WindowRequest) (s : Scan) : Scan × Bool :=
  let s := { s with lineCount := s.lineCount + 1 }
  if s.offset < r.offset then ({ s.remember r.linesBefore with lineStart := s.offset + 1 }, false)
  else if r.last ≤ s.offset ∧ s.covered then
    let s := s.countAfter
    if s.enough r then (s, true) else ({ s with lineStart := s.offset + 1 }, false)
  else ({ s with lineStart := s.offset + 1 }, false)

/-- A byte inside a line. -/
def lineByte (r : WindowRequest) (s : Scan) : Scan :=
  if s.offset < r.offset then { s with column := s.column + 1 } else s

/-- Every byte: whether the span is covered now and the scan may stop. -/
def cover (r : WindowRequest) (s : Scan) : Scan × Bool :=
  if r.covered ≤ s.offset then
    let s := { s with covered := true }
    (s, s.enough r)
  else (s, false)

/-- One byte, or the two of a `\r\n` pair, of which the scan stands at the last. -/
def step (r : WindowRequest) (isEnd : Bool) (s : Scan) : Scan × Bool :=
  let (s, stop) := if isEnd then s.lineEnd r else (s.lineByte r, false)
  if stop then (s, true) else s.cover r

/-- Passes the byte the scan stands at. -/
def pass (s : Scan) : Scan := { s with offset := s.offset + 1 }

def run (r : WindowRequest) (s : Scan) : List UInt8 → Scan
  | [] => s
  | 0x0D :: 0x0A :: rest =>
    let (s, stop) := s.pass.step r true
    if stop then s.pass else run r s.pass rest
  | b :: rest =>
    let (s, stop) := s.step r (b == 0x0A || b == 0x0D)
    if stop then s.pass else run r s.pass rest

end Scan

/-- The bytes of the body. -/
def bytes (s : Source) : List UInt8 := s.chars.flatMap String.utf8EncodeChar

/-- The bytes shown, as text. -/
def Window.text (w : Window) : String := String.ofList (Text.decode w.data)

/-- The window around a span; none if the body ends before the span does. -/
def window? (s : Source) (r : WindowRequest) : Option Window :=
  let scan := Scan.start.run r s.bytes
  if scan.offset < r.covered then none
  else
    let first := scan.starts.head?.getD (if r.linesBefore = 0 then r.offset else 0)
    some
      { name := s.name
        data := (s.bytes.drop first).take (scan.offset - first)
        offset := first
        line := scan.line
        column := if r.linesBefore = 0 then scan.column else 0
        lineCount := scan.lineCount }

end GraphQL.Source
