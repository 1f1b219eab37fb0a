import GraphQL.Proofs.Boundaries
import GraphQL.Proofs.PositionOrder
import GraphQL.Report.Rendering

/-! Rendering with every step checked.

`Report.print?` prints a report by going over bytes: a position is come to by looking at
one byte after the other, lines and what stands left of a caret are pieces between byte
offsets, and the number of the last line is a difference. Each of these steps gives up
where it cannot be made: at an index behind the last byte, at an offset inside a
character, at a difference below 0. None ever does, whatever the offsets are that a report
was given, and what comes out is `Report.print` (`Report.print?_eq`). -/
namespace GraphQL

open Text

/-- A difference, unless it is below 0. -/
def difference? (a b : Nat) : Option Nat := if b ≤ a then some (a - b) else none

/-! ### Positions -/

/-- The position of an offset, by the way over the bytes of the body. -/
def Source.positionAt? (s : Source) (offset : Nat) : Option Position :=
  walk? s.bytes (min offset s.bytes.length) 0 1 0

theorem Source.positionAt?_eq (s : Source) (offset : Nat) :
    s.positionAt? offset = some (s.positionAt offset) := by
  have hlength : s.bytes.length = s.size := length_encode s.chars
  rw [positionAt?, walk?_eq (Nat.le_refl 0) (Nat.zero_le _) (Nat.min_le_right ..), hlength,
    s.positionAt_eq_passed, List.drop_zero]

/-! ### Excerpts -/

namespace Excerpt

/-- How far into a line the caret stands: the column is lowered to a boundary of the line,
and what is left of that is cut out. -/
def padding? (e : Excerpt) (line : List Char) : Option Nat := do
  let cut ← lowered? line (min (e.position.column - 1) (byteLength line))
  let left ← slice? line 0 cut
  return displayWidth left

/-- The row of a line with its index, and the caret's below it if it is the target. -/
def rowsOf? (e : Excerpt) (target : Nat) (line : List Char × Nat) : Option (List Row) :=
  if line.2 = target then do
    let padding ← e.padding? line.1
    return [.line (line.2 + 1) line.1, .caret padding]
  else return [.line (line.2 + 1) line.1]

def body? (e : Excerpt) : Option String := do
  let lines ← cutLines? e.source.chars 0 0
  let final ← difference? lines.length 1
  let target := min (e.position.line - 1) final
  let last := min (target + neighbours) final
  let rows ← ((lines.zipIdx.take (last + 1)).drop (target - neighbours)).mapM (e.rowsOf? target)
  let gutter := (digits (last + 1)).length
  return String.ofList (rows.flatten.flatMap fun row => row.text gutter ++ ['\n'])

theorem padding?_eq (e : Excerpt) (line : List Char) : e.padding? line = some (e.padding line) := by
  obtain ⟨rest, hrest⟩ := takeBytes_prefix (e.position.column - 1) line
  have hleft : slice? line 0 (byteLength (takeBytes (e.position.column - 1) line)) =
      some (takeBytes (e.position.column - 1) line) :=
    slice?_eq_some.mpr ⟨[], rest, hrest.symm, rfl, Nat.zero_add _⟩
  rw [padding?, lowered?_eq, takeBytes_min]
  show (slice? line 0 _).bind _ = _
  rw [hleft]
  rfl

/-- The rows that a line is shown in. -/
def rowsOf (e : Excerpt) (line : List Char × Nat) : List Row :=
  if line.2 = e.target then [.line (line.2 + 1) line.1, .caret (e.padding line.1)]
  else [.line (line.2 + 1) line.1]

theorem rowsOf?_eq (e : Excerpt) : e.rowsOf? e.target = fun line => pure (e.rowsOf line) := by
  funext line
  rw [rowsOf?, rowsOf]
  split
  · rw [padding?_eq]
    rfl
  · rfl

theorem body?_eq (e : Excerpt) : e.body? = some e.body := by
  have hlines : cutLines? e.source.chars 0 0 = some e.source.lines := cutLines?_eq _
  have hpos : 1 ≤ e.source.lines.length := List.length_pos_iff.mpr (lines_ne_nil _)
  have hfinal : difference? e.source.lines.length 1 = some (e.source.lines.length - 1) :=
    if_pos hpos
  have hrows : e.shown.mapM (e.rowsOf? e.target) = some (e.shown.map e.rowsOf) := by
    rw [rowsOf?_eq]
    exact List.mapM_pure
  have hflatten : (e.shown.map e.rowsOf).flatten = e.rows := List.flatMap_def.symm
  rw [body?, hlines]
  show (difference? e.source.lines.length 1).bind _ = _
  rw [hfinal]
  show (e.shown.mapM (e.rowsOf? e.target)).bind _ = _
  rw [hrows]
  show some (String.ofList ((e.shown.map e.rowsOf).flatten.flatMap _)) = _
  rw [hflatten]
  rfl

end Excerpt

/-! ### Reports -/

namespace Report

/-- The places a report shows, with the positions of its located nodes come to. -/
def excerpts? (r : Report) : Option (List Excerpt) :=
  match r.located with
  | [] =>
    match r.document?, r.locations? with
    | some document, some locations => some (locations.map fun p => ⟨document, p⟩)
    | _, _ => some []
  | located => located.mapM fun l => Excerpt.mk l.source <$> l.source.positionAt? l.start

def print? (r : Report) : Option String := do
  let excerpts ← r.excerpts?
  let texts ← excerpts.mapM fun e => ("\n\n" ++ e.header ++ "\n" ++ ·) <$> e.body?
  return r.message ++ String.join texts

theorem excerpts?_eq (r : Report) : r.excerpts? = some r.excerpts := by
  unfold excerpts? excerpts
  cases r.located with
  | nil => cases r.document? <;> cases r.locations? <;> rfl
  | cons l rest =>
    simp only [Source.positionAt?_eq]
    exact List.mapM_pure

theorem print?_eq (r : Report) : r.print? = some r.print := by
  have htexts : r.excerpts.mapM (fun e => ("\n\n" ++ e.header ++ "\n" ++ ·) <$> e.body?) =
      some (r.excerpts.map fun e => "\n\n" ++ e.header ++ "\n" ++ e.body) := by
    simp only [Excerpt.body?_eq]
    exact List.mapM_pure
  rw [print?, excerpts?_eq]
  show Option.bind (r.excerpts.mapM _) _ = _
  rw [htexts]
  rfl

/-- **A report is always printed.** Whatever facts it was made from, every step of printing
it can be made. In particular the way to a position, those in the report included, looks
up no byte behind the last; the lines of a document are cut out at boundaries; and going
down from an offset in a line, byte by byte, ends at a boundary, at 0 at the latest. -/
theorem print?_ofFacts (message : String) (facts : List Fact) :
    (ofFacts message facts).print? = some (ofFacts message facts).print ∧
      (∀ (document : Source) (offset : Nat),
        document.positionAt? offset = some (document.positionAt offset)) ∧
      (∀ document : Source, cutLines? document.chars 0 0 = some document.lines) ∧
      ∀ (line : List Char) (offset : Nat), ∃ cut ≤ offset,
        lowered? line offset = some cut ∧ isBoundary line cut = true := by
  refine ⟨print?_eq _, Source.positionAt?_eq, fun document => cutLines?_eq _, ?_⟩
  intro line offset
  exact ⟨_, byteLength_takeBytes_le offset line, lowered?_eq line offset,
    isBoundary_takeBytes offset line⟩

end Report

end GraphQL
