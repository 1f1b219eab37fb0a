import GraphQL.Report

/-! What a report makes of a run of facts, whatever their order and repetition.

Nodes add up, and of everything else the last that was told counts: `Told.of` says so
about a whole run, and `foldl_tell` that taking in the facts one by one comes to the
same. `ofFacts_resolves` is what is derived from it, field by field.

A field that is none says something about the facts as well. `Consistent` ties the
document, the positions and the locations of a report to each other; it holds of every
report, those with replaced extensions included (`consistent_run`). -/
namespace GraphQL.Report

/-! ### What a run of facts amounts to -/

namespace Fact

/-- The nodes a fact tells, with the gaps among them. -/
@[simp]
def nodesTold : Fact → List (Option Node)
  | .node n => [n]
  | .nodes ns => ns
  | _ => []

@[simp]
def source? : Fact → Option Source
  | .source s => some s
  | _ => none

@[simp]
def positions? : Fact → Option (List Nat)
  | .positions ps => some ps
  | _ => none

@[simp]
def path? : Fact → Option (List Segment)
  | .path p => some p
  | _ => none

@[simp]
def extensions? : Fact → Option Extensions
  | .extensions e => some e
  | _ => none

@[simp]
def cause? : Fact → Option Cause
  | .cause c => some c
  | _ => none

/-- The last that a run of facts says about something. -/
def last {α : Type} (about : Fact → Option α) (facts : List Fact) : Option α :=
  (facts.filterMap about).getLast?

theorem last_append {α : Type} (about : Fact → Option α) (a b : List Fact) :
    last about (a ++ b) = (last about b).or (last about a) := by
  rw [last, List.filterMap_append, List.getLast?_append]
  rfl

theorem last_eq_none {α : Type} {about : Fact → Option α} {facts : List Fact}
    (h : ∀ f ∈ facts, about f = none) : last about facts = none := by
  rw [last, List.filterMap_eq_nil_iff.mpr h]
  rfl

end Fact

/-- All nodes in order, without gaps, and the last of everything else. -/
structure Told where
  nodes : List Node
  source : Option Source
  positions : Option (List Nat)
  path : Option (List Segment)
  extensions : Option Extensions
  cause : Option Cause

def Told.of (facts : List Fact) : Told where
  nodes := (facts.flatMap Fact.nodesTold).filterMap id
  source := Fact.last Fact.source? facts
  positions := Fact.last Fact.positions? facts
  path := Fact.last Fact.path? facts
  extensions := Fact.last Fact.extensions? facts
  cause := Fact.last Fact.cause? facts

/-- The report of which nothing else was told. -/
def Told.report (message : String) (t : Told) : Report where
  message := message
  nodes := t.nodes
  givenSource := t.source
  givenPositions := t.positions
  path := t.path
  extensions := t.extensions
  cause := t.cause

/-- A report with more told: nodes join those it has, and the rest replaces what it has. -/
def join (r : Report) (t : Told) : Report where
  message := r.message
  nodes := r.nodes ++ t.nodes
  givenSource := t.source.or r.givenSource
  givenPositions := t.positions.or r.givenPositions
  path := t.path.or r.path
  extensions := t.extensions.or r.extensions
  cause := t.cause.or r.cause

theorem join_nothing (r : Report) : r.join (.of []) = r := by
  simp [join, Told.of, Fact.last]

/-- What is told in one go may be told in two. -/
theorem join_append (r : Report) (a b : List Fact) :
    r.join (.of (a ++ b)) = (r.join (.of a)).join (.of b) := by
  simp only [join, Told.of, Fact.last_append, List.flatMap_append, List.filterMap_append,
    List.append_assoc, Option.or_assoc]

theorem tell_eq_join (r : Report) (f : Fact) : r.tell f = r.join (.of [f]) := by
  cases f with
  | node n => cases n <;> simp [tell, join, Told.of, Fact.last]
  | _ => simp [tell, join, Told.of, Fact.last]

/-- Taking in facts one by one comes to what the run of them amounts to. -/
theorem foldl_tell (r : Report) (facts : List Fact) : facts.foldl tell r = r.join (.of facts) := by
  induction facts generalizing r with
  | nil => exact r.join_nothing.symm
  | cons f rest ih =>
    calc (f :: rest).foldl tell r
      _ = (r.tell f).join (.of rest) := ih (r.tell f)
      _ = (r.join (.of [f])).join (.of rest) := by rw [tell_eq_join]
      _ = r.join (.of (f :: rest)) := (r.join_append [f] rest).symm

theorem ofFacts_eq_report (message : String) (facts : List Fact) :
    ofFacts message facts = (Told.of facts).report message := by
  rw [ofFacts, foldl_tell]
  simp [join, Told.report]

theorem givenPositions_ofFacts (message : String) (facts : List Fact) :
    (ofFacts message facts).givenPositions = Fact.last Fact.positions? facts := by
  rw [ofFacts_eq_report]
  rfl

/-! ### What is derived -/

theorem document?_eq_none {r : Report} :
    r.document? = none ↔ r.givenSource = none ∧ r.located = [] := by
  simp [document?]

/-- The ways in which the positions and the locations of a report come about. -/
inductive Resolution (r : Report) : Prop
  /-- There is nothing to look up a position in. -/
  | nowhere (document : r.document? = none) (located : r.located = [])
      (locations : r.locations? = none)
  /-- Positions were given, and are looked up in the document. -/
  | given (ps : List Nat) (document : Source) (hps : r.givenPositions = some ps) (hne : ps ≠ [])
      (hdocument : r.document? = some document) (positions : r.positions? = some ps)
      (locations : r.locations? = some (ps.map document.positionAt))
  /-- An empty list of positions was given, which leaves the locations of the nodes. -/
  | emptied (given : r.givenPositions = some []) (positions : r.positions? = none)
      (locations : r.locations? = nonempty? (r.located.map (·.startPosition)))
  /-- No positions were given: both are left to the nodes. -/
  | nodes (given : r.givenPositions = none)
      (positions : r.positions? = nonempty? (r.located.map (·.start)))
      (locations : r.locations? = nonempty? (r.located.map (·.startPosition)))

theorem resolution (r : Report) : r.Resolution := by
  cases hgiven : r.givenPositions with
  | none => exact .nodes hgiven (by simp [positions?, hgiven]) (by simp [locations?, hgiven])
  | some ps =>
    cases ps with
    | nil =>
      refine .emptied hgiven (by simp [positions?, hgiven, nonempty?]) ?_
      simp [locations?, hgiven, nonempty?]
    | cons p ps =>
      cases hdocument : r.document? with
      | none =>
        have hlocated := (document?_eq_none.mp hdocument).2
        exact .nowhere hdocument hlocated (by simp [locations?, hdocument, hlocated, nonempty?])
      | some document =>
        refine .given (p :: ps) document hgiven (List.cons_ne_nil p ps) hdocument ?_ ?_
        · simp [positions?, hgiven, nonempty?]
        · simp [locations?, hgiven, hdocument, nonempty?]

theorem nonempty?_eq_guard {α : Type} [DecidableEq α] (l : List α) :
    nonempty? l = Option.guard (· ≠ []) l := by
  cases l <;> simp [nonempty?, Option.guard]

/-- The fields of a report, derived from what was told. -/
structure Resolves (t : Told) (r : Report) : Prop where
  nodes : r.nodes = t.nodes
  /-- The source told, or else the one of the first node that has a location. -/
  document : r.document? = t.source.or ((t.nodes.findSome? Node.location?).map (·.source))
  /-- The positions told, or else where the located nodes start. -/
  positions : r.positions? = Option.guard (· ≠ [])
    (t.positions.getD ((t.nodes.filterMap Node.location?).map (·.start)))
  /-- The positions told, if there are any, in the document, if there is one, or else
  where the located nodes start, each in its own document. -/
  locations : r.locations? =
    ((t.positions.filter (· ≠ [])).bind fun ps => r.document?.map fun d => ps.map d.positionAt).or
      (Option.guard (· ≠ [])
        ((t.nodes.filterMap Node.location?).map fun l => l.source.positionAt l.start))
  path : r.path = t.path
  extensions : r.extensions = t.extensions
  cause : r.cause = t.cause

theorem resolves_report (message : String) (t : Told) : Resolves t (t.report message) where
  nodes := rfl
  document := by rw [document?, located, List.head?_filterMap]; rfl
  positions := nonempty?_eq_guard _
  locations := by
    have hnodes : nonempty? ((t.report message).located.map (·.startPosition)) =
        Option.guard (· ≠ []) ((t.nodes.filterMap Node.location?).map fun l =>
          l.source.positionAt l.start) := nonempty?_eq_guard _
    rw [← hnodes]
    have hgiven : t.positions = (t.report message).givenPositions := rfl
    cases (t.report message).resolution with
    | nowhere document located locations => simp [document, located, locations, nonempty?]
    | given ps document hps hne hdocument _ locations =>
      simp [locations, hgiven, hps, hne, hdocument, Option.filter]
    | emptied given _ locations => simp [locations, hgiven, given, Option.filter]
    | nodes given _ locations => simp [locations, hgiven, given]
  path := rfl
  extensions := rfl
  cause := rfl

/-- **A report resolves from the nodes told and the last of everything else told**,
and two runs of facts that agree on those make the same report. -/
theorem ofFacts_resolves (message : String) (facts : List Fact) :
    (ofFacts message facts).message = message ∧
      Resolves (Told.of facts) (ofFacts message facts) ∧
      ∀ others, Told.of others = Told.of facts → ofFacts message others = ofFacts message facts := by
  simp only [ofFacts_eq_report]
  exact ⟨rfl, resolves_report message (Told.of facts), fun others h => by rw [h]⟩

/-- The same nodes, and the same last source and positions. -/
theorem ofFacts_resolves_reordered :
    let a : Node := ⟨.name, .name "a"⟩
    let b : Node := ⟨.name, .name "b"⟩
    let s : Source := ⟨"a b", "doc"⟩
    ofFacts "m" [.positions [7], .node none, .node (some a), .source s, .nodes [none, some b],
        .positions []] =
      ofFacts "m" [.nodes [some a, some b], .positions [], .source s] :=
  (ofFacts_resolves _ _).2.2 _ rfl

/-! ### What the derived fields have to do with each other -/

/-- The document the `i`-th position is looked up in: that of the report if positions
were given, and otherwise that of the `i`-th located node. -/
def consulted? (r : Report) (given : Option (List Nat)) (i : Nat) : Option Source :=
  if given.isSome then r.document? else (r.located[i]?).map (·.source)

/-- How the document, the positions and the locations of a report go together, if these
positions were given last. -/
structure Consistent (r : Report) (given : Option (List Nat)) : Prop where
  positions_ne_nil : r.positions? ≠ some []
  locations_ne_nil : r.locations? ≠ some []
  document_of_locations : r.locations?.isSome → r.document?.isSome
  length_eq : ∀ ps ls, r.positions? = some ps → r.locations? = some ls → ls.length = ps.length
  /-- Each location is that of the position at the same place. -/
  located_at : ∀ ps ls, r.positions? = some ps → r.locations? = some ls →
    ∀ i p, ps[i]? = some p →
      ∃ document, r.consulted? given i = some document ∧ ls[i]? = some (document.positionAt p)
  /-- Only an empty list of positions leaves locations on their own. -/
  no_positions : r.locations?.isSome → r.positions? = none → given = some []
  /-- Only the lack of a document leaves positions on their own. -/
  no_locations : r.positions?.isSome → r.locations? = none → r.document? = none

theorem locations?_ne_some_nil (r : Report) : r.locations? ≠ some [] := by
  intro h
  cases r.resolution with
  | nowhere _ _ locations => rw [locations] at h; cases h
  | given _ _ _ hne _ _ locations =>
    rw [locations, Option.some.injEq, List.map_eq_nil_iff] at h
    exact hne h
  | emptied _ _ locations => exact nonempty?_ne_some_nil _ (locations ▸ h)
  | nodes _ _ locations => exact nonempty?_ne_some_nil _ (locations ▸ h)

theorem locations?_of_no_document {r : Report} (h : r.document? = none) : r.locations? = none := by
  have hlocated := (document?_eq_none.mp h).2
  cases r.resolution with
  | nowhere _ _ locations => exact locations
  | given _ _ _ _ hdocument _ _ => rw [h] at hdocument; cases hdocument
  | emptied _ _ locations => rw [locations, hlocated]; rfl
  | nodes _ _ locations => rw [locations, hlocated]; rfl

/-- Without positions, it is the located nodes that have locations. -/
theorem locations?_of_not_given {r : Report} (h : r.givenPositions.getD [] = []) :
    r.locations? = nonempty? (r.located.map (·.startPosition)) := by
  cases r.resolution with
  | nowhere _ located locations => rw [locations, located]; rfl
  | given _ _ given hne _ _ _ =>
    rw [given] at h
    exact absurd h hne
  | emptied _ _ locations => exact locations
  | nodes _ _ locations => exact locations

theorem located_eq_nil {r : Report} {α : Type} {f : Location → α}
    (h : nonempty? (r.located.map f) = none) : r.located = [] :=
  List.map_eq_nil_iff.mp (nonempty?_eq_none.mp h)

/-- Positions and locations side by side: both from what was given, or both from the
located nodes. -/
theorem side_by_side {r : Report} {ps : List Nat} {ls : List Text.Position}
    (hps : r.positions? = some ps) (hls : r.locations? = some ls) :
    (∃ document, r.givenPositions = some ps ∧ r.document? = some document ∧
        ls = ps.map document.positionAt) ∨
      (r.givenPositions = none ∧ ps = r.located.map (·.start) ∧
        ls = r.located.map (·.startPosition)) := by
  cases r.resolution with
  | nowhere _ _ locations => rw [locations] at hls; cases hls
  | given _ document given _ hdocument positions locations =>
    obtain rfl := Option.some.inj (positions.symm.trans hps)
    exact .inl ⟨document, given, hdocument, Option.some.inj (hls.symm.trans locations)⟩
  | emptied _ positions _ => rw [positions] at hps; cases hps
  | nodes given positions locations =>
    have hstarts := (nonempty?_eq_some.mp (positions.symm.trans hps)).1
    have hplaces := (nonempty?_eq_some.mp (locations.symm.trans hls)).1
    exact .inr ⟨given, hstarts.symm, hplaces.symm⟩

theorem consistent (r : Report) : r.Consistent r.givenPositions where
  positions_ne_nil := nonempty?_ne_some_nil _
  locations_ne_nil := r.locations?_ne_some_nil
  document_of_locations h := by
    rw [Option.isSome_iff_ne_none] at h ⊢
    exact fun hnone => h (locations?_of_no_document hnone)
  length_eq ps ls hps hls := by
    rcases side_by_side hps hls with ⟨document, -, -, rfl⟩ | ⟨-, rfl, rfl⟩
    · exact List.length_map _
    · rw [List.length_map, List.length_map]
  located_at ps ls hps hls i p hp := by
    rcases side_by_side hps hls with ⟨document, hgiven, hdocument, rfl⟩ | ⟨hgiven, rfl, rfl⟩
    · exact ⟨document, by simp [consulted?, hgiven, hdocument], by simp [hp]⟩
    · rw [List.getElem?_map, Option.map_eq_some_iff] at hp
      obtain ⟨l, hl, rfl⟩ := hp
      exact ⟨l.source, by simp [consulted?, hgiven, hl], by simp [hl, Location.startPosition]⟩
  no_positions hls hps := by
    cases r.resolution with
    | nowhere _ _ locations => rw [locations] at hls; cases hls
    | given _ _ _ _ _ positions _ => rw [positions] at hps; cases hps
    | emptied given _ _ => exact given
    | nodes _ positions locations =>
      rw [locations, located_eq_nil (positions.symm.trans hps)] at hls
      cases hls
  no_locations hps hls := by
    cases r.resolution with
    | nowhere document _ _ => exact document
    | given _ _ _ _ _ _ locations => rw [locations] at hls; cases hls
    | emptied _ positions _ => rw [positions] at hps; cases hps
    | nodes _ positions locations =>
      rw [positions, located_eq_nil (locations.symm.trans hls)] at hps
      cases hps

/-- Other extensions leave everything else as it is, however often they are replaced. -/
theorem foldl_withExtensions (r : Report) (later : List (Option Extensions)) :
    later.foldl withExtensions r = { r with extensions := later.getLast?.getD r.extensions } := by
  induction later generalizing r with
  | nil => rfl
  | cons e rest ih =>
    rw [List.foldl_cons, ih, List.getLast?_cons]
    rfl

/-- **Document, positions and locations are consistent in every report**, after any
facts and any replacement of extensions. -/
theorem consistent_run (message : String) (facts : List Fact) (later : List (Option Extensions)) :
    (later.foldl withExtensions (ofFacts message facts)).Consistent
      (Fact.last Fact.positions? facts) := by
  rw [← givenPositions_ofFacts message facts, foldl_withExtensions]
  exact consistent _

end GraphQL.Report
