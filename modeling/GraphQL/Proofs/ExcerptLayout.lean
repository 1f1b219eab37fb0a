import GraphQL.Proofs.CheckedRendering

/-! The rows of an excerpt, and how they are printed.

An excerpt cuts a run out of the lines of its document, the target and its neighbours
(`Shows`). Each of these is a row under its number, and the caret has a row below the
target (`Shows.rows`). Numbers are aligned to the width of the last, which none of the others
exceeds (`length_digits_mono`), so whatever stands to the left of the separators takes up
the same width in every row, and behind them the lines are given back as they are. No row
holds a line end of its own, so the text printed has these rows for its lines
(`body_layout`). -/
namespace GraphQL.Text

/-- Texts that are ended by `\n`, each without a line end of its own, are lines. -/
theorem lines_flatMap {rows : List (List Char)} (h : ∀ row ∈ rows, Unbroken row) :
    lines (rows.flatMap (· ++ ['\n'])) = rows ++ [[]] := by
  induction rows with
  | nil => rfl
  | cons row rest ih =>
    obtain ⟨hrow, hrest⟩ := List.forall_mem_cons.mp h
    have hend : lines ('\n' :: rest.flatMap (· ++ ['\n'])) = [] :: (rest ++ [[]]) :=
      congrArg _ (ih hrest)
    rw [List.flatMap_cons, List.append_assoc, List.singleton_append, lines_append hrow, hend,
      List.modifyHead_cons, List.append_nil]
    rfl

end GraphQL.Text

namespace GraphQL

open Text

namespace Excerpt

/-! ### Gutters -/

/-- A larger number has no fewer digits. -/
theorem length_digits_mono {m n : Nat} (h : m ≤ n) : (digits m).length ≤ (digits n).length := by
  have hpos : 0 < (digits n).length := Nat.length_toDigits_pos
  have hlt := (Nat.length_toDigits_le_iff (by decide) hpos).mp (Nat.le_refl _)
  exact (Nat.length_toDigits_le_iff (by decide) hpos).mpr (Nat.lt_of_le_of_lt h hlt)

theorem length_alignRight {width : Nat} {text : List Char} (h : text.length ≤ width) :
    (alignRight width text).length = width := by
  rw [alignRight, List.length_append, List.length_replicate]
  omega

/-! ### The lines shown -/

/-- An excerpt shows the lines `above`, the target `line` and the lines `below`. -/
structure Shows (e : Excerpt) (before above : List (List Char)) (line : List Char)
    (below after : List (List Char)) : Prop where
  lines : e.source.lines = before ++ (above ++ line :: below) ++ after
  first : before.length = e.first
  target : e.first + above.length = e.target
  last : e.target + below.length = e.last

theorem target_lt (e : Excerpt) : e.target < e.source.lines.length := by
  have hpos : 0 < e.source.lines.length := List.length_pos_iff.mpr (lines_ne_nil _)
  unfold target
  omega

/-- The line of a position is there to be shown. -/
theorem target_positionAt (s : Source) (offset : Nat) :
    (Excerpt.mk s (s.positionAt offset)).target + 1 = (s.positionAt offset).line := by
  obtain ⟨index, bytes, hp, hon⟩ := s.onLine_positionAt offset
  have hlt : index < s.lines.length := hon.index_lt
  rw [hp]
  show min index (s.lines.length - 1) + 1 = index + 1
  omega

/-- Cut in front of the target and behind it, the lines on each side are cut once more. -/
theorem exists_shows (e : Excerpt) : ∃ before above line below after,
    e.Shows before above line below after := by
  have htarget := e.target_lt
  have hfirst : e.first ≤ e.target := Nat.sub_le _ _
  have hlast : e.target ≤ e.last ∧ e.last < e.source.lines.length := by
    unfold last
    omega
  obtain ⟨up, line, down, hsplit, hup⟩ : ∃ up line down,
      e.source.lines = up ++ line :: down ∧ up.length = e.target := by
    refine ⟨e.source.lines.take e.target, e.source.lines[e.target],
      e.source.lines.drop (e.target + 1), ?_, List.length_take_of_le (Nat.le_of_lt htarget)⟩
    rw [List.getElem_cons_drop, List.take_append_drop]
  rw [hsplit, List.length_append, List.length_cons] at hlast
  refine ⟨up.take e.first, up.drop e.first, line, down.take (e.last - e.target),
    down.drop (e.last - e.target), ?_, ?_, ?_, ?_⟩
  · rw [hsplit, ← List.append_assoc, List.take_append_drop, List.append_assoc, List.cons_append,
      List.take_append_drop]
  · rw [List.length_take]
    omega
  · rw [List.length_drop]
    omega
  · rw [List.length_take]
    omega

/-- Lines under their numbers, which count up from `first`. -/
def numbered (first : Nat) (lines : List (List Char)) : List Row :=
  (lines.zipIdx first).map fun line => .line line.2 line.1

theorem numbered_succ (first : Nat) (lines : List (List Char)) :
    numbered (first + 1) lines =
      (lines.zipIdx first).map fun line => .line (line.2 + 1) line.1 := by
  rw [numbered, List.zipIdx_succ, List.map_map]
  rfl

theorem numbered_snoc (first : Nat) (lines : List (List Char)) (line : List Char) :
    numbered first (lines ++ [line]) =
      numbered first lines ++ [.line (first + lines.length) line] := by
  rw [numbered, List.zipIdx_append, List.map_append]
  rfl

theorem flatMap_rowsOf (e : Excerpt) {lines : List (List Char × Nat)}
    (h : ∀ line ∈ lines, line.2 ≠ e.target) :
    lines.flatMap e.rowsOf = lines.map fun line => .line (line.2 + 1) line.1 := by
  rw [List.map_eq_flatMap]
  exact List.flatMap_congr fun line hline => if_neg (h line hline)

section
variable {e : Excerpt} {before above below after : List (List Char)} {line : List Char}

theorem Shows.number (h : e.Shows before above line below after) :
    e.first + 1 + above.length = e.target + 1 := by
  rw [← h.target, Nat.add_right_comm]

theorem Shows.shown (h : e.Shows before above line below after) :
    e.shown = above.zipIdx e.first ++ (line, e.target) :: below.zipIdx (e.target + 1) := by
  obtain ⟨hlines, hfirst, htarget, hlast⟩ := h
  have hfront : before.zipIdx.length = e.first := List.length_zipIdx.trans hfirst
  have hshown : (before ++ (above ++ line :: below)).zipIdx.length = e.last + 1 := by
    simp only [List.length_zipIdx, List.length_append, List.length_cons]
    omega
  rw [Excerpt.shown, hlines, List.zipIdx_append, List.take_left' hshown, List.zipIdx_append,
    List.drop_left' hfront, List.zipIdx_append, List.zipIdx_cons, Nat.zero_add, hfirst, htarget]

/-- The rows are the lines shown, each under its number, and the caret's below the target. -/
theorem Shows.rows (h : e.Shows before above line below after) :
    e.rows = numbered (e.first + 1) (above ++ [line]) ++
      .caret (e.padding line) :: numbered (e.target + 2) below := by
  have habove : ∀ line ∈ above.zipIdx e.first, line.2 ≠ e.target := by
    intro line hline
    have hlt := List.snd_lt_of_mem_zipIdx hline
    have htarget := h.target
    omega
  have hbelow : ∀ line ∈ below.zipIdx (e.target + 1), line.2 ≠ e.target := by
    intro line hline
    have hle := List.le_snd_of_mem_zipIdx hline
    omega
  have hline : e.rowsOf (line, e.target) = [.line (e.target + 1) line, .caret (e.padding line)] :=
    if_pos rfl
  show e.shown.flatMap e.rowsOf = _
  rw [h.shown, List.flatMap_append, List.flatMap_cons, e.flatMap_rowsOf habove,
    e.flatMap_rowsOf hbelow, hline, numbered_snoc, h.number, numbered_succ, numbered_succ,
    List.append_assoc]
  rfl

end

/-! ### Printed rows -/

/-- Lines under their numbers, which count up from `first`, as they are printed. -/
def printed (width first : Nat) (lines : List (List Char)) : List (List Char) :=
  (lines.zipIdx first).map fun line => alignRight width (digits line.2) ++ separator ++ line.1

theorem printed_snoc (width first : Nat) (lines : List (List Char)) (line : List Char) :
    printed width first (lines ++ [line]) =
      printed width first lines ++
        [alignRight width (digits (first + lines.length)) ++ separator ++ line] := by
  rw [printed, List.zipIdx_append, List.map_append]
  rfl

/-- A caret as it is printed, so many cells behind the separator. -/
def printedCaret (width padding : Nat) : List Char :=
  List.replicate width ' ' ++ separator ++ (List.replicate padding ' ' ++ ['^'])

theorem flatMap_text_numbered (width first : Nat) (lines : List (List Char)) :
    (numbered first lines).flatMap (fun row => row.text width ++ ['\n']) =
      (printed width first lines).flatMap (· ++ ['\n']) := by
  rw [numbered, printed, List.flatMap_map, List.flatMap_map]
  rfl

theorem text_caret (width padding : Nat) :
    (Row.caret padding).text width = printedCaret width padding := by
  rw [Row.text, alignRight, List.append_nil]
  rfl

theorem separator_prefix_printedCaret (width padding : Nat) :
    separator <+: (printedCaret width padding).drop width := by
  rw [printedCaret, List.append_assoc, List.drop_left' List.length_replicate]
  exact List.prefix_append ..

/-- All numbers up to the last one shown take up the width of that one. -/
theorem length_alignRight_digits {number last : Nat} (h : number ≤ last) :
    (alignRight (digits last).length (digits number)).length = (digits last).length :=
  length_alignRight (length_digits_mono h)

section
variable {first last : Nat} {lines : List (List Char)} (h : first + lines.length ≤ last + 1)
include h

/-- Without their numbers, the lines stand behind separators. -/
theorem map_drop_printed :
    (printed (digits last).length first lines).map (·.drop (digits last).length) =
      lines.map (separator ++ ·) := by
  have hline : ∀ line ∈ lines.zipIdx first,
      (alignRight (digits last).length (digits line.2) ++ separator ++ line.1).drop
        (digits last).length = separator ++ line.1 := by
    intro line hline
    have hlt := List.snd_lt_of_mem_zipIdx hline
    rw [List.append_assoc]
    exact List.drop_left' (length_alignRight_digits (by omega))
  calc (printed (digits last).length first lines).map (·.drop (digits last).length)
    _ = (lines.zipIdx first).map fun line => separator ++ line.1 := by
      rw [printed, List.map_map]
      exact List.map_congr_left hline
    _ = ((lines.zipIdx first).map Prod.fst).map (separator ++ ·) := List.map_map.symm
    _ = lines.map (separator ++ ·) := by rw [List.zipIdx_map_fst]

theorem separator_prefix_of_mem_printed {row : List Char}
    (hrow : row ∈ printed (digits last).length first lines) :
    separator <+: row.drop (digits last).length := by
  have hmem := List.mem_map_of_mem (f := (·.drop (digits last).length)) hrow
  rw [map_drop_printed h] at hmem
  obtain ⟨line, -, hline⟩ := List.mem_map.mp hmem
  exact ⟨line, hline⟩

/-- Without their gutters, the lines are as they were. -/
theorem map_drop_gutter_printed :
    (printed (digits last).length first lines).map
      (·.drop ((digits last).length + separator.length)) = lines := by
  calc (printed (digits last).length first lines).map _
    _ = ((printed (digits last).length first lines).map (·.drop (digits last).length)).map
        (·.drop separator.length) := by
      rw [List.map_map]
      exact List.map_congr_left fun row _ => List.drop_drop.symm
    _ = lines := by
      rw [map_drop_printed h, List.map_map]
      exact List.map_id'' (fun line => List.drop_left) lines

end

/-! ### Rows as lines -/

theorem unbroken_replicate (n : Nat) : Unbroken (List.replicate n ' ') := by
  intro c hc
  rw [List.eq_of_mem_replicate hc]
  rfl

theorem unbroken_digits (number : Nat) : Unbroken (digits number) := by
  intro c hc
  have hdigit : c.isDigit = true := Nat.isDigit_of_mem_toDigits (by decide) (by decide) hc
  by_contra hbreak
  have hc : c = '\n' ∨ c = '\r' := by simpa [isBreak, or_iff_not_imp_left] using hbreak
  rcases hc with rfl | rfl <;> cases hdigit

theorem unbroken_separator : Unbroken separator := by simp [Unbroken, separator, isBreak]

theorem unbroken_printedCaret (width padding : Nat) : Unbroken (printedCaret width padding) := by
  have hcaret : Unbroken ['^'] := by simp [Unbroken, isBreak]
  exact ((unbroken_replicate width).append unbroken_separator).append
    ((unbroken_replicate padding).append hcaret)

theorem unbroken_of_mem_printed {width first : Nat} {lines : List (List Char)}
    (h : ∀ line ∈ lines, Unbroken line) : ∀ row ∈ printed width first lines, Unbroken row := by
  intro row hrow
  obtain ⟨⟨line, number⟩, hmem, rfl⟩ := List.mem_map.mp hrow
  have hnumber : Unbroken (alignRight width (digits number)) :=
    (unbroken_replicate _).append (unbroken_digits number)
  exact (hnumber.append unbroken_separator).append (h line (List.fst_mem_of_mem_zipIdx hmem))

/-! ### The text of an excerpt -/

namespace Shows

variable {e : Excerpt} {before above below after : List (List Char)} {line : List Char}

theorem body (h : e.Shows before above line below after) :
    e.body = String.ofList ((printed e.gutter (e.first + 1) (above ++ [line]) ++
      printedCaret e.gutter (e.padding line) ::
        printed e.gutter (e.target + 2) below).flatMap (· ++ ['\n'])) := by
  rw [Excerpt.body, h.rows, List.flatMap_append, List.flatMap_cons, flatMap_text_numbered,
    flatMap_text_numbered, text_caret, List.flatMap_append, List.flatMap_cons]

theorem unbroken (h : e.Shows before above line below after) :
    (∀ text ∈ above ++ [line], Unbroken text) ∧ ∀ text ∈ below, Unbroken text := by
  have hlines := unbroken_of_mem_lines e.source.chars
  have hsource : Text.lines e.source.chars = before ++ ((above ++ [line]) ++ below) ++ after := by
    rw [List.append_assoc above, List.singleton_append]
    exact h.lines
  rw [hsource, List.forall_mem_append, List.forall_mem_append, List.forall_mem_append] at hlines
  exact hlines.1.2

/-- The rows are the lines of the text, which ends behind them. -/
theorem lines_body (h : e.Shows before above line below after) :
    Text.lines e.body.toList = printed e.gutter (e.first + 1) (above ++ [line]) ++
      printedCaret e.gutter (e.padding line) :: printed e.gutter (e.target + 2) below ++ [[]] := by
  obtain ⟨hupper, hlower⟩ := h.unbroken
  rw [h.body, String.toList_ofList]
  refine lines_flatMap (List.forall_mem_append.mpr ⟨?_, List.forall_mem_cons.mpr ⟨?_, ?_⟩⟩)
  · exact unbroken_of_mem_printed hupper
  · exact unbroken_printedCaret _ _
  · exact unbroken_of_mem_printed hlower

end Shows

-- The last number has a digit more than the others, which are moved to the right.
example :
    let s := Source.ofBody "\n\n\n\n\n\n\n\n9\n10"
    (Excerpt.mk s (s.positionAt 9)).body = " 8 | \n 9 | 9\n   |  ^\n10 | 10\n" := by
  decide

end Excerpt

end GraphQL
