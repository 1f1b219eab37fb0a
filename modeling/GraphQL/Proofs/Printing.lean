import GraphQL.Proofs.Resolution
import GraphQL.Report.Rendering

/-! What is shown of a report, and where.

`print` puts an empty line of its own before every excerpt. The layout of `pieces` has
a line end there and counts on another from what stands before, so it puts one line
end less from the second excerpt on: the two texts agree on reports with one excerpt
(`plain_eq_print_iff`).

The excerpts are those of the located nodes, if there are any, whatever positions
were given. Without such nodes, or without positions, they are those of the
locations, one by one (`print_shows`). -/
namespace GraphQL

/-- The text of an excerpt. -/
def Excerpt.text (e : Excerpt) : String := e.header ++ "\n" ++ e.body

namespace Report

/-! ### The two layouts -/

theorem print_eq (r : Report) :
    r.print = r.message ++ String.join (r.excerpts.map fun e => "\n\n" ++ e.text) := by
  simp only [print, Excerpt.text, String.append_assoc]

theorem join_excerptPieces (es : List Excerpt) :
    String.join ((es.flatMap excerptPieces).map Piece.plain) =
      String.join (es.map fun e => "\n" ++ e.text) := by
  induction es with
  | nil => rfl
  | cons e rest ih =>
    simp only [List.flatMap_cons, List.map_append, String.join_append, List.map_cons,
      String.join_cons, ih]
    simp [excerptPieces, Piece.plain, Excerpt.text, String.append_assoc]

theorem plain_eq (r : Report) :
    r.plain = r.message ++ "\n" ++ String.join (r.excerpts.map fun e => "\n" ++ e.text) := by
  simp [plain, pieces, String.join_append, join_excerptPieces, Piece.plain, String.append_assoc]

theorem emptyLine_eq : "\n\n" = "\n" ++ "\n" := by decide

theorem length_lineEnd : "\n".length = 1 := by decide

/-- `print` has a line end more for every excerpt after the first, and none at the end of
a message alone. -/
theorem length_print (r : Report) : r.print.length + 1 = r.plain.length + r.excerpts.length := by
  rw [print_eq, plain_eq]
  simp only [String.length_append, String.length_join, List.map_map, length_lineEnd, emptyLine_eq]
  induction r.excerpts with
  | nil => simp
  | cons e rest ih =>
    simp only [List.map_cons, List.sum_cons, Function.comp_apply, String.length_append,
      List.length_cons, length_lineEnd] at ih ⊢
    omega

/-- **The two layouts agree on reports with one excerpt, and on no others.** -/
theorem plain_eq_print_iff (r : Report) : r.plain = r.print ↔ r.excerpts.length = 1 := by
  constructor
  · intro h
    have hlength := r.length_print
    rw [h] at hlength
    omega
  · intro h
    obtain ⟨e, he⟩ := List.length_eq_one_iff.mp h
    rw [plain_eq, print_eq, he]
    simp only [List.map_cons, List.map_nil, String.join_cons, emptyLine_eq, String.append_assoc]

/-- Two positions in one document. -/
theorem plain_ne_print_twoPositions :
    let r := ofFacts "twice" [.source ⟨"a\nb", "two.graphql"⟩, .positions [0, 2]]
    r.excerpts ≠ [] ∧ r.plain ≠ r.print := by
  decide

/-! ### The places shown -/

/-- After the message come these excerpts in this order, and nothing else. -/
def Shows (r : Report) (es : List Excerpt) : Prop :=
  r.print = r.message ++ String.join (es.map fun e => "\n\n" ++ e.text)

/-- One excerpt is shown for each of these positions, in this order. -/
def ShowsAt (r : Report) (ps : List Text.Position) : Prop :=
  ∃ es : List Excerpt, es.map (·.position) = ps ∧ r.Shows es

theorem shows_excerpts (r : Report) : r.Shows r.excerpts := r.print_eq

section
variable {r : Report}

theorem excerpts_of_located (h : r.located ≠ []) :
    r.excerpts = r.located.map fun l => ⟨l.source, l.startPosition⟩ := by
  unfold excerpts
  split
  · rename_i hnil
    exact absurd hnil h
  · rfl

/-- Without located nodes, the excerpts are those of the locations. -/
theorem positions_excerpts_of_not_located (h : r.located = []) :
    r.excerpts.map (·.position) = r.locations?.getD [] := by
  unfold excerpts
  rw [h]
  cases hdocument : r.document? with
  | none => simp [locations?_of_no_document hdocument]
  | some document => cases r.locations? <;> simp [Function.comp_def]

theorem positions_excerpts (h : r.located = [] ∨ r.givenPositions.getD [] = []) :
    r.excerpts.map (·.position) = r.locations?.getD [] := by
  by_cases hlocated : r.located = []
  · exact positions_excerpts_of_not_located hlocated
  · have hgiven := h.resolve_left hlocated
    have hlocations : r.locations? = some (r.located.map (·.startPosition)) := by
      rw [locations?_of_not_given hgiven]
      exact nonempty?_eq_some.mpr ⟨rfl, by simpa using hlocated⟩
    rw [excerpts_of_located hlocated, hlocations, List.map_map]
    rfl

end

/-- **What is shown are the locations, except where positions were given beside
located nodes**; with a located node, it is the starts of the located nodes, each in
its own document. -/
theorem print_shows (message : String) (facts : List Fact) :
    ((ofFacts message facts).located = [] ∨ (Fact.last Fact.positions? facts).getD [] = [] →
        (ofFacts message facts).ShowsAt ((ofFacts message facts).locations?.getD [])) ∧
      ((ofFacts message facts).located ≠ [] → (ofFacts message facts).Shows
        ((ofFacts message facts).located.map fun l => ⟨l.source, l.startPosition⟩)) := by
  rw [← givenPositions_ofFacts message facts]
  constructor
  · intro h
    exact ⟨_, positions_excerpts h, shows_excerpts _⟩
  · intro h
    rw [← excerpts_of_located h]
    exact shows_excerpts _

/-- Two positions without a node, and a node without positions. -/
theorem print_shows_apart :
    let document : Source := ⟨"a\nb", "doc"⟩
    let name : Node := ⟨.name, .node (.cons (.scalar (s := .text) "b") .nil)
      (some ⟨2, 3, document, by decide, by decide⟩)⟩
    (ofFacts "m" [.source document, .positions [0, 2]]).ShowsAt [⟨1, 1⟩, ⟨2, 1⟩] ∧
      (ofFacts "m" [.node (some name)]).located ≠ [] ∧
      (ofFacts "m" [.node (some name)]).Shows [⟨document, ⟨2, 1⟩⟩] :=
  ⟨(print_shows _ _).1 (.inl rfl), by decide, (print_shows _ _).2 (by decide)⟩

/-- A node with a location, and a position beside it. -/
theorem not_showsAt_positionBesideNode :
    let name : Node := ⟨.name, .node (.cons (.scalar (s := .text) "a") .nil)
      (some ⟨0, 1, ⟨"ab", "doc"⟩, by decide, by decide⟩)⟩
    let r := ofFacts "both" [.node (some name), .positions [1]]
    ¬ r.ShowsAt (r.locations?.getD []) := by
  intro name r h
  have hlocations : r.locations?.getD [] = [⟨1, 2⟩] := by rfl
  rw [hlocations] at h
  obtain ⟨es, hpositions, hshows⟩ := h
  obtain ⟨e, rfl, he⟩ := List.map_eq_singleton_iff.mp hpositions
  -- The header of an excerpt at 1:2 has a digit that the text printed is without.
  have hdigit : '2' ∈ r.print.toList := by
    have hheader : e.header = e.source.name ++ " (" ++ "1:2" ++ ")" := by
      rw [Excerpt.header, he]
      rfl
    rw [hshows]
    simp [Excerpt.text, hheader]
  have hno : '2' ∉ r.print.toList := by decide
  exact hno hdigit

end Report

end GraphQL
