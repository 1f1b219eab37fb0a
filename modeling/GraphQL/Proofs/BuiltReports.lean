import GraphQL.Proofs.Printing
import GraphQL.Proofs.Provenance

/-! Reports on nodes that were built.

A fragment that carries both tokens says where its node stands: at an offset of the
document that it was built over (`Json.spot?`). A report of nothing but built nodes is
about these places, one for each such fragment and in their order, and each of them is
looked up, named and shown in its own document (`ofFacts_about`). -/
namespace GraphQL

/-- An offset of a document. -/
structure Spot where
  source : Source
  offset : Nat
deriving DecidableEq, Repr

namespace Spot

def position (s : Spot) : Text.Position := s.source.positionAt s.offset

/-- What stands above an excerpt of the place: `name (line:column)`. -/
def header (s : Spot) : String :=
  s.source.name ++ " (" ++ toString s.position.line ++ ":" ++ toString s.position.column ++ ")"

def excerpt (s : Spot) : Excerpt := ⟨s.source, s.position⟩

theorem header_excerpt (s : Spot) : s.excerpt.header = s.header := by
  simp only [Excerpt.header, Text.Position.text, header, excerpt, String.append_assoc]

end Spot

def Location.spot (l : Location) : Spot := ⟨l.source, l.start⟩

/-- Where a fragment of a document starts, if it carries both tokens. -/
def Json.spot? (source : Source) (v : Json) : Option Spot :=
  v.span?.map fun span => ⟨source, span.1⟩

namespace Report

/-! ### Nodes that were built -/

/-- A fragment of a document and the node it builds to, or a gap. -/
inductive Built : Option (Json × Source) → Option Node → Prop
  | gap : Built none none
  | node {v : Json} {source : Source} {n : Node} (built : Node.ofJson source v = .ok n) :
      Built (some (v, source)) (some n)

/-- The places of some fragments, without gaps and without fragments that have none. -/
def spots (fragments : List (Option (Json × Source))) : List Spot :=
  fragments.filterMap fun fragment => fragment.bind fun f => f.1.spot? f.2

theorem Built.spot {fragment : Option (Json × Source)} {n : Option Node} (h : Built fragment n) :
    (n.bind Node.location?).map Location.spot = fragment.bind fun f => f.1.spot? f.2 := by
  cases h with
  | gap => rfl
  | @node v source n built =>
    obtain ⟨hspan, hsource⟩ := Context.locates_build built
    show n.location?.map Location.spot = v.spot? source
    rw [Json.spot?, hspan]
    cases hl : n.location? with
    | none => rfl
    | some l =>
      have hl : l.source = source := hsource l hl
      simp only [Option.map_some, Location.spot, Location.bounds, hl]

/-- The located nodes stand where the tokens of their fragments say. -/
theorem map_spot_located {fragments : List (Option (Json × Source))} {ns : List (Option Node)}
    (h : List.Forall₂ Built fragments ns) :
    ((ns.filterMap id).filterMap Node.location?).map Location.spot = spots fragments := by
  rw [List.filterMap_filterMap, List.map_filterMap, spots]
  induction h with
  | nil => rfl
  | @cons fragment n _ _ h _ ih =>
    have hspot : ((id n).bind Node.location?).map Location.spot =
        fragment.bind fun f => f.1.spot? f.2 := h.spot
    rw [List.filterMap_cons, List.filterMap_cons, hspot, ih]

/-! ### What the report says -/

/-- A report is about some places, in their own documents. -/
structure About (r : Report) (spots : List Spot) : Prop where
  positions : r.positions? = Option.guard (· ≠ []) (spots.map (·.offset))
  document : r.document? = spots.head?.map (·.source)
  locations : r.locations? = Option.guard (· ≠ []) (spots.map (·.position))
  print : r.print = r.message ++
    String.join (spots.map fun s => "\n\n" ++ s.header ++ "\n" ++ s.excerpt.body)

theorem excerpts_of_not_given {r : Report} (h : r.givenPositions = none) :
    r.excerpts = (r.located.map Location.spot).map Spot.excerpt := by
  by_cases hlocated : r.located = []
  · have hlocations : r.locations? = none := by
      rw [locations?_of_not_given (by rw [h]; rfl), hlocated]
      rfl
    have hpositions := positions_excerpts_of_not_located hlocated
    rw [hlocations] at hpositions
    rw [hlocated, List.map_eq_nil_iff.mp hpositions]
    rfl
  · rw [excerpts_of_located hlocated, List.map_map]
    rfl

/-- Without a document and positions of its own, a report is about its located nodes. -/
theorem about_located {r : Report} (hsource : r.givenSource = none)
    (hpositions : r.givenPositions = none) : r.About (r.located.map Location.spot) where
  positions := by
    rw [positions?, hpositions, nonempty?_eq_guard, List.map_map]
    rfl
  document := by
    rw [document?, hsource, List.head?_map, Option.map_map]
    rfl
  locations := by
    rw [locations?_of_not_given (by rw [hpositions]; rfl), nonempty?_eq_guard, List.map_map]
    rfl
  print := by
    rw [print_eq, excerpts_of_not_given hpositions, List.map_map]
    simp only [Excerpt.text, Function.comp_def, Spot.header_excerpt, String.append_assoc]

/-- **A report of built nodes is about the places that their fragments' tokens give**, in
order, each in the document its fragment was built over. Where no fragment carries both
tokens there is nothing but the message. -/
theorem ofFacts_about (message : String) {facts : List Fact}
    {fragments : List (Option (Json × Source))}
    (built : List.Forall₂ Built fragments (facts.flatMap Fact.nodesTold))
    (alone : ∀ f ∈ facts, f.source? = none ∧ f.positions? = none) :
    (ofFacts message facts).About (spots fragments) ∧
      (spots fragments = [] →
        (ofFacts message facts).positions? = none ∧ (ofFacts message facts).document? = none ∧
          (ofFacts message facts).locations? = none ∧ (ofFacts message facts).print = message) := by
  have habout : (ofFacts message facts).About (spots fragments) := by
    rw [ofFacts_eq_report, ← map_spot_located built]
    exact about_located (Fact.last_eq_none fun f hf => (alone f hf).1)
      (Fact.last_eq_none fun f hf => (alone f hf).2)
  refine ⟨habout, fun hnone => ?_⟩
  have hmessage : (ofFacts message facts).message = message := (ofFacts_resolves message facts).1
  rw [hnone] at habout
  refine ⟨habout.positions, habout.document, habout.locations, ?_⟩
  rw [habout.print, hmessage]
  exact String.append_empty

/-- Nodes of two documents, with a gap and a node without a location between them. -/
theorem ofFacts_about_twoDocuments :
    let one : Source := ⟨"a\nnull", "one"⟩
    let two : Source := ⟨"null", "two"⟩
    let nullAt (start stop : Nat) : Json := .object [("kind", .string "NullValue"),
      ("loc", .object [("startToken", .nat start), ("endToken", .nat stop)])]
    let unlocated : Json := .object [("kind", .string "NullValue")]
    let nodeAt (location : Option Location) : Node := ⟨.nullValue, .node .nil location⟩
    let fragments := [some (nullAt 2 6, one), none, some (unlocated, two), some (nullAt 0 4, two)]
    let facts : List Fact :=
      [.node (some (nodeAt (some ⟨2, 6, one, by decide, by decide⟩))),
        .nodes [none, some (nodeAt none)],
        .node (some (nodeAt (some ⟨0, 4, two, by decide, by decide⟩)))]
    List.Forall₂ Built fragments (facts.flatMap Fact.nodesTold) ∧
      (∀ f ∈ facts, f.source? = none ∧ f.positions? = none) ∧
      (ofFacts "m" facts).About [⟨one, 2⟩, ⟨two, 0⟩] := by
  intro one two nullAt unlocated nodeAt fragments facts
  have built : List.Forall₂ Built fragments (facts.flatMap Fact.nodesTold) :=
    .cons (.node rfl) (.cons .gap (.cons (.node rfl) (.cons (.node rfl) .nil)))
  have alone : ∀ f ∈ facts, f.source? = none ∧ f.positions? = none := by simp [facts]
  exact ⟨built, alone, (ofFacts_about "m" built alone).1⟩

end Report

end GraphQL
