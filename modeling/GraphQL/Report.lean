import GraphQL.Build
import GraphQL.Text.Position

/-! Reports: errors found in a document or in the result of executing it.

A report holds what the place that found the error could tell: nodes, a document,
byte offsets, a response path. What it did not tell is derived from the nodes. The
document is the one given, or else that of the first node with a location;
positions are the offsets given, or else where the located nodes start; locations
are lines and columns of the given offsets in the document, or else of each
located node in its own document. No list among these is ever empty: an empty one
counts as none. -/
namespace GraphQL

/-- One step of a response path. -/
inductive Segment
  | key (name : String)
  | index (i : Nat)
deriving DecidableEq, Repr

def Segment.text : Segment → String
  | .key name => name
  | .index i => toString i

/-- The error underneath a report. -/
inductive Cause
  | text (message : String)
  | build (error : BuildError)
deriving DecidableEq, Repr

def Cause.message : Cause → String
  | .text message => message
  | .build error => error.message

/-- Free-form data attached to a report, by key. -/
abbrev Extensions := List (String × Json)

structure Report where
  message : String
  nodes : List Node := []
  givenSource : Option Source := none
  givenPositions : Option (List Nat) := none
  path : Option (List Segment) := none
  extensions : Option Extensions := none
  cause : Option Cause := none

namespace Report

/-! ### Making a report -/

/-- One fact told about an error. Nodes may have gaps. -/
inductive Fact
  | node (n : Option Node)
  | nodes (ns : List (Option Node))
  | source (s : Source)
  | positions (ps : List Nat)
  | path (p : List Segment)
  | extensions (e : Extensions)
  | cause (c : Cause)

/-- Takes in a fact: nodes join those before them without their gaps, everything
else takes the place of what was told before. -/
def tell (r : Report) : Fact → Report
  | .node n => { r with nodes := r.nodes ++ n.toList }
  | .nodes ns => { r with nodes := r.nodes ++ ns.filterMap id }
  | .source s => { r with givenSource := some s }
  | .positions ps => { r with givenPositions := some ps }
  | .path p => { r with path := some p }
  | .extensions e => { r with extensions := some e }
  | .cause c => { r with cause := some c }

def ofFacts (message : String) (facts : List Fact) : Report :=
  facts.foldl tell { message := message }

/-- A build error as a report. -/
def ofBuildError (e : BuildError) : Report := { message := e.message, cause := some (.build e) }

/-- The report with other extensions, or none. -/
def withExtensions (r : Report) (e : Option Extensions) : Report := { r with extensions := e }

/-! ### What follows from the facts -/

/-- A list that has something in it. -/
def nonempty? {α : Type} : List α → Option (List α)
  | [] => none
  | a :: rest => some (a :: rest)

theorem nonempty?_eq_some {α : Type} {l m : List α} :
    nonempty? l = some m ↔ l = m ∧ m ≠ [] := by
  cases l <;> simp [nonempty?]
  rintro rfl
  simp

theorem nonempty?_eq_none {α : Type} {l : List α} : nonempty? l = none ↔ l = [] := by
  cases l <;> simp [nonempty?]

theorem nonempty?_ne_some_nil {α : Type} (l : List α) : nonempty? l ≠ some [] := by
  intro h
  exact (nonempty?_eq_some.mp h).2 rfl

/-- Where the nodes are, those without a location left out. -/
def located (r : Report) : List Location := r.nodes.filterMap Node.location?

def document? (r : Report) : Option Source :=
  r.givenSource.or (r.located.head?.map (·.source))

/-- Byte offsets in the document. -/
def positions? (r : Report) : Option (List Nat) :=
  nonempty? (r.givenPositions.getD (r.located.map (·.start)))

/-- Lines and columns. -/
def locations? (r : Report) : Option (List Text.Position) :=
  match r.givenPositions.bind nonempty?, r.document? with
  | some offsets, some document => nonempty? (offsets.map document.positionAt)
  | _, _ => nonempty? (r.located.map (·.startPosition))

/-- A mark on a span of the document. -/
structure Label where
  offset : Nat
  length : Nat
deriving DecidableEq, Repr

/-- What every label says. -/
def Label.text : String := "here"

/-- The marks on the document: the given offsets, or else the nodes located in it.
Nodes of other documents are left out. -/
def labels? (r : Report) : Option (List Label) :=
  match r.document?, r.givenPositions with
  | none, _ => none
  | some _, some offsets => (nonempty? offsets).map fun offsets => offsets.map fun o => ⟨o, 0⟩
  | some document, none =>
    some ((r.located.filter fun l => l.source = document).map fun l => ⟨l.start, l.length⟩)

end Report

end GraphQL
