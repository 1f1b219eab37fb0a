import GraphQL.Proofs.Resolution

/-! The labels of a report and its locations.

Both are made from the positions that were given or else from the located nodes, but
labels are drawn on the report's document alone. So the places that they are drawn at are
some of the locations, in the same order (`labels_agree`): all of them where positions
were given, or where no located node is in another document; and none where an empty list
of positions was given. -/
namespace GraphQL.Report

/-- The labels drawn; none are drawn if there are none. -/
def labels (r : Report) : List Label := r.labels?.getD []

/-- Where the labels are, in the document that they are drawn on. -/
def labelled (r : Report) : List Text.Position :=
  match r.document? with
  | some document => r.labels.map fun label => document.positionAt label.offset
  | none => []

/-- The label was made from a position that was given. -/
def Label.Marks (r : Report) (label : Label) : Prop :=
  ∃ ps, r.givenPositions = some ps ∧ label.offset ∈ ps ∧ label.length = 0

/-- The label was made from a node of the report's document, and is as long as the node. -/
def Label.Covers (r : Report) (label : Label) : Prop :=
  r.givenPositions = none ∧ ∃ n ∈ r.nodes, ∃ l, n.location? = some l ∧
    r.document? = some l.source ∧ label.offset = l.start ∧ label.length = l.stop - l.start

theorem getD_nonempty? {α : Type} (l : List α) : (nonempty? l).getD [] = l := by
  cases l <;> rfl

section
variable {r : Report}

/-! ### From given positions -/

/-- Where positions were given, there is a label at each. -/
theorem labels_of_given {ps : List Nat} {document : Source}
    (hdocument : r.document? = some document) (hgiven : r.givenPositions = some ps) :
    r.labels = ps.map fun p => ⟨p, 0⟩ := by
  unfold labels labels?
  rw [hdocument, hgiven]
  cases ps <;> rfl

theorem labelled_of_given {ps : List Nat} {document : Source}
    (hdocument : r.document? = some document) (hgiven : r.givenPositions = some ps) :
    r.labelled = ps.map document.positionAt := by
  unfold labelled
  rw [hdocument, labels_of_given hdocument hgiven]
  exact List.map_map

theorem labels_of_no_document (h : r.document? = none) : r.labels = [] := by
  unfold labels labels?
  rw [h]
  rfl

theorem labelled_of_no_document (h : r.document? = none) : r.labelled = [] := by
  unfold labelled
  rw [h]

/-! ### From located nodes -/

/-- Otherwise there is a label on each located node of the document. -/
theorem labels_of_not_given (h : r.givenPositions = none) :
    r.labels = (r.located.filter fun l => r.document? = some l.source).map fun l =>
      ⟨l.start, l.length⟩ := by
  cases hdocument : r.document? with
  | none => rw [labels_of_no_document hdocument, (document?_eq_none.mp hdocument).2]; rfl
  | some document =>
    unfold labels labels?
    rw [hdocument, h]
    simp only [Option.some.injEq, eq_comm]
    rfl

/-- In its own document, a node's label is where the node starts. -/
theorem labelled_of_not_given (h : r.givenPositions = none) :
    r.labelled = (r.located.filter fun l => r.document? = some l.source).map (·.startPosition) := by
  unfold labelled
  rw [labels_of_not_given h]
  cases hdocument : r.document? with
  | none => rw [(document?_eq_none.mp hdocument).2]; rfl
  | some document =>
    show ((r.located.filter _).map _).map _ = _
    rw [List.map_map]
    refine List.map_congr_left fun l hl => ?_
    have hsource : document = l.source := by simpa using (List.mem_filter.mp hl).2
    rw [hsource]
    rfl

theorem locations_of_not_given (h : r.givenPositions = none) :
    r.locations?.getD [] = r.located.map (·.startPosition) := by
  rw [locations?_of_not_given (by rw [h]; rfl), getD_nonempty?]

/-! ### Labels and locations -/

theorem labelled_eq_locations_of_given {ps : List Nat} (h : r.givenPositions = some ps)
    (hne : ps ≠ []) : r.labelled = r.locations?.getD [] := by
  cases r.resolution with
  | nowhere document _ locations => rw [labelled_of_no_document document, locations]; rfl
  | given qs document hqs _ hdocument _ locations =>
    rw [labelled_of_given hdocument hqs, locations]
    rfl
  | emptied given _ _ => exact absurd (Option.some.inj (h.symm.trans given)) hne
  | nodes given _ _ => rw [given] at h; cases h

theorem labelled_sublist (r : Report) : r.labelled.Sublist (r.locations?.getD []) := by
  cases hgiven : r.givenPositions with
  | none =>
    rw [labelled_of_not_given hgiven, locations_of_not_given hgiven]
    exact List.filter_sublist.map _
  | some ps =>
    by_cases hne : ps = []
    · subst hne
      cases hdocument : r.document? with
      | none => rw [labelled_of_no_document hdocument]; exact List.nil_sublist _
      | some document => rw [labelled_of_given hdocument hgiven]; exact List.nil_sublist _
    · exact labelled_eq_locations_of_given hgiven hne ▸ List.Sublist.refl r.labelled

theorem labelled_eq_locations_of_located (h : r.givenPositions = none)
    (hall : ∀ l ∈ r.located, r.document? = some l.source) :
    r.labelled = r.locations?.getD [] := by
  have hfilter : (r.located.filter fun l => r.document? = some l.source) = r.located :=
    List.filter_eq_self.mpr fun l hl => by simpa using hall l hl
  rw [labelled_of_not_given h, hfilter, locations_of_not_given h]

/-- A label is made from a position or from a node. -/
theorem marks_or_covers {label : Label} (h : label ∈ r.labels) :
    label.Marks r ∨ label.Covers r := by
  cases hgiven : r.givenPositions with
  | none =>
    right
    rw [labels_of_not_given hgiven] at h
    obtain ⟨l, hl, rfl⟩ := List.mem_map.mp h
    obtain ⟨hlocated, hsource⟩ := List.mem_filter.mp hl
    obtain ⟨n, hn, hlocation⟩ := List.mem_filterMap.mp hlocated
    exact ⟨hgiven, n, hn, l, hlocation, by simpa using hsource, rfl, rfl⟩
  | some ps =>
    left
    cases hdocument : r.document? with
    | none => rw [labels_of_no_document hdocument] at h; cases h
    | some document =>
      rw [labels_of_given hdocument hgiven] at h
      obtain ⟨p, hp, rfl⟩ := List.mem_map.mp h
      exact ⟨ps, hgiven, hp, rfl⟩

end

/-- **The labels of a report are at its locations**, in order: at all of them if the last
positions given were not an empty list, and also if none were ever given and every located
node is in the report's document; at some of them in any case. A label that was made from
a node is as long as the node and in the report's document. -/
theorem labels_agree (message : String) (facts : List Fact) :
    let r := ofFacts message facts
    r.labelled.Sublist (r.locations?.getD []) ∧
      ((∃ ps, Fact.last Fact.positions? facts = some ps ∧ ps ≠ []) →
        r.labelled = r.locations?.getD []) ∧
      ((∀ f ∈ facts, f.positions? = none) → (∀ l ∈ r.located, r.document? = some l.source) →
        r.labelled = r.locations?.getD []) ∧
      ∀ label ∈ r.labels, label.Marks r ∨ label.Covers r := by
  intro r
  have hgiven : r.givenPositions = Fact.last Fact.positions? facts :=
    givenPositions_ofFacts message facts
  refine ⟨r.labelled_sublist, fun h => ?_, fun hnever hall => ?_, fun _ => marks_or_covers⟩
  · obtain ⟨ps, hps, hne⟩ := h
    exact labelled_eq_locations_of_given (hgiven.trans hps) hne
  · exact labelled_eq_locations_of_located (hgiven.trans (Fact.last_eq_none hnever)) hall

/-- Positions given beside a node of another document, and two nodes of one. -/
theorem labels_agree_oneDocument :
    let one : Source := ⟨"a\nb", "one"⟩
    let two : Source := ⟨"\nc", "two"⟩
    let name (value : String) (location : Location) : Node :=
      ⟨.name, .node (.cons (.scalar (s := .text) value) .nil) (some location)⟩
    let a := name "a" ⟨0, 1, one, by decide, by decide⟩
    let b := name "b" ⟨2, 3, one, by decide, by decide⟩
    let c := name "c" ⟨1, 2, two, by decide, by decide⟩
    let given : List Fact := [.node (some c), .positions [2, 0], .source one]
    let nodes : List Fact := [.nodes [some a, none], .node (some b)]
    (∃ ps, Fact.last Fact.positions? given = some ps ∧ ps ≠ []) ∧
      (ofFacts "m" given).labelled = [⟨2, 1⟩, ⟨1, 1⟩] ∧
      (∀ f ∈ nodes, f.positions? = none) ∧
      (∀ l ∈ (ofFacts "m" nodes).located, (ofFacts "m" nodes).document? = some l.source) ∧
      (ofFacts "m" nodes).labelled = [⟨1, 1⟩, ⟨2, 1⟩] := by
  intro one two name a b c given nodes
  have hgiven : ∃ ps, Fact.last Fact.positions? given = some ps ∧ ps ≠ [] :=
    ⟨[2, 0], rfl, by decide⟩
  have hnever : ∀ f ∈ nodes, f.positions? = none := by simp [nodes]
  have hall : ∀ l ∈ (ofFacts "m" nodes).located, (ofFacts "m" nodes).document? = some l.source := by
    decide
  have hmarked := (labels_agree "m" given).2.1 hgiven
  have hcovered := (labels_agree "m" nodes).2.2.1 hnever hall
  exact ⟨hgiven, hmarked.trans (by decide), hnever, hall, hcovered.trans (by decide)⟩

-- The node of the other document has a location of its own and no label.
example :
    let null (location : Location) : Node := ⟨.nullValue, .node .nil (some location)⟩
    let a := null ⟨0, 1, ⟨"a", "one"⟩, by decide, by decide⟩
    let b := null ⟨1, 2, ⟨"\nb", "two"⟩, by decide, by decide⟩
    let r := ofFacts "m" [.nodes [some a, some b]]
    r.labelled = [⟨1, 1⟩] ∧ r.locations? = some [⟨1, 1⟩, ⟨2, 1⟩] := by decide

end GraphQL.Report
