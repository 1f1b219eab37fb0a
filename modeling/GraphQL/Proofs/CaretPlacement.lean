import GraphQL.Proofs.ExcerptLayout
import Mathlib.Order.Bounds.Defs

/-! The place of the caret.

The line of an offset begins where the last of the line ends passed by then stops, and the
beginning has the same line, at column 1 (`Source.positionAt_lineStart`). Columns count the
bytes from there, carets the cells, so what is left of a caret is cut out of the line to be
measured. The cut is at a boundary of the body, the greatest that is beyond neither the
offset nor the line (`isGreatest_boundary`). It is the offset itself, unless that is inside
a character or between the two bytes of a line end (`Excerpt.caret_placed`). In print, the
line that holds the offset has the caret in the row below it (`Excerpt.body_caret`). -/
namespace GraphQL.Text

variable {text a b : List Char} {m n : Nat}

/-! ### Boundaries of a line -/

/-- A boundary of a text is one of what stands in front, if it is not beyond that. -/
theorem isBoundary_of_append (h : isBoundary (a ++ b) n = true) (hle : n ≤ byteLength a) :
    isBoundary a n = true := by
  rcases Nat.lt_or_eq_of_le hle with hlt | rfl
  · rw [← length_encode] at hlt
    rw [isBoundary, encode_append, List.getElem?_append_left hlt] at h
    rw [isBoundary]
    rw [List.getElem?_eq_getElem hlt] at h ⊢
    exact h
  · exact isBoundary_iff.mpr ⟨a, [], (List.append_nil a).symm, rfl⟩

theorem takeBytes_append_of_le (h : byteLength a ≤ n) (b : List Char) :
    takeBytes n (a ++ b) = a ++ takeBytes (n - byteLength a) b := by
  induction a generalizing n with
  | nil => rfl
  | cons c a ih =>
    rw [byteLength] at h
    rw [List.cons_append, takeBytes, if_pos (by omega), ih (by omega), byteLength, Nat.sub_sub]
    rfl

/-- No boundary up to an offset is beyond the cut there. -/
theorem le_byteLength_takeBytes (h : isBoundary text m = true) (hle : m ≤ n) :
    m ≤ byteLength (takeBytes n text) := by
  obtain ⟨a, b, rfl, rfl⟩ := isBoundary_iff.mp h
  rw [takeBytes_append_of_le hle, byteLength_append]
  exact Nat.le_add_right ..

/-- A cut in a piece of a text is at the last boundary that is beyond neither the offset nor
the piece. -/
theorem isGreatest_boundary (before line behind : List Char) (bytes : Nat) :
    IsGreatest {cut | isBoundary (before ++ (line ++ behind)) cut = true ∧
        cut ≤ byteLength before + bytes ∧ cut ≤ byteLength before + byteLength line}
      (byteLength before + byteLength (takeBytes bytes line)) := by
  obtain ⟨right, hleft⟩ := takeBytes_prefix bytes line
  have hsize := byteLength_append (takeBytes bytes line) right
  rw [hleft] at hsize
  refine ⟨⟨?_, ?_, by omega⟩, ?_⟩
  · refine isBoundary_iff.mpr ⟨before ++ takeBytes bytes line, right ++ behind, ?_, ?_⟩
    · rw [List.append_assoc, ← List.append_assoc (takeBytes bytes line), hleft]
    · exact byteLength_append ..
  · exact Nat.add_le_add_left (byteLength_takeBytes_le bytes line) _
  · rintro cut ⟨hcut, hoffset, hline⟩
    rcases Nat.le_total cut (byteLength before) with hle | hle
    · exact Nat.le_add_right_of_le hle
    · obtain ⟨m, rfl⟩ := Nat.exists_eq_add_of_le hle
      rw [isBoundary_append] at hcut
      have hm : isBoundary line m = true := isBoundary_of_append hcut (by omega)
      exact Nat.add_le_add_left (le_byteLength_takeBytes hm (by omega)) _

/-! ### ASCII text -/

theorem utf8Size_ascii {c : Char} (h : c.toNat < 0x80) : c.utf8Size = 1 :=
  Char.utf8Size_eq_one_iff.mpr (UInt32.le_iff_toNat_le.mpr (Nat.le_of_lt_succ h))

theorem byteLength_ascii (h : ∀ c ∈ text, c.toNat < 0x80) : byteLength text = text.length := by
  induction text with
  | nil => rfl
  | cons c rest ih =>
    obtain ⟨hc, hrest⟩ := List.forall_mem_cons.mp h
    rw [byteLength, utf8Size_ascii hc, ih hrest, List.length_cons, Nat.add_comm]

theorem takeBytes_ascii (h : ∀ c ∈ text, c.toNat < 0x80) : takeBytes n text = text.take n := by
  induction text generalizing n with
  | nil => simp [takeBytes]
  | cons c rest ih =>
    obtain ⟨hc, hrest⟩ := List.forall_mem_cons.mp h
    rw [takeBytes, utf8Size_ascii hc]
    cases n with
    | zero => rfl
    | succ n =>
      rw [if_pos (Nat.le_add_left 1 n), Nat.add_sub_cancel, ih hrest]
      rfl

/-! ### Where a line begins -/

/-- By the beginning of its line, the same line ends have been passed as by an offset. -/
theorem passed_lineStart (bytes : List UInt8) (offset : Nat) :
    passed 0 bytes (lineStart 0 (passed 0 bytes offset)) = passed 0 bytes offset :=
  passed_lineStart_of_isPrefix (passed_isPrefix 0 bytes offset)

end GraphQL.Text

namespace GraphQL

open Text

namespace Source

variable {s : Source} {offset number start : Nat} {line : List Char}

/-- The line with a number begins at an offset and has some text, and another offset is on
it: in the text, right behind it, or between the two bytes of the pair that ends it. -/
structure LineHolds (s : Source) (number start : Nat) (line : List Char) (offset : Nat) : Prop where
  begins : s.positionAt start = ⟨number, 1⟩
  entry : s.lines[number - 1]? = some line
  text : slice? s.chars start (start + byteLength line) = some line
  start_le : start ≤ offset
  reaches : offset ≤ start + byteLength line ∨
    offset = start + byteLength line + 1 ∧ InsidePair s.chars offset

/-- So many bytes in front of an offset as its column says, its line begins. -/
theorem positionAt_lineStart
    (h : start + ((s.positionAt offset).column - 1) = min offset s.size) :
    s.positionAt start = ⟨(s.positionAt offset).line, 1⟩ := by
  have hle := lineStart_passed_le s.bytes (min offset s.size)
  have hpassed := passed_lineStart s.bytes (min offset s.size)
  rw [positionAt_eq_passed] at h ⊢
  have hstart : start = lineStart 0 (passed 0 s.bytes (min offset s.size)) := by
    simp only [Position.after] at h
    omega
  have hmin : min start s.size = start := by omega
  rw [positionAt_eq_passed, hmin, hstart, hpassed, Position.after, Nat.sub_self]
  rfl

/-- Every offset is on the line of its position. -/
theorem exists_lineHolds (s : Source) (offset : Nat) : ∃ start line,
    s.LineHolds (s.positionAt offset).line start line (min offset s.size) ∧
      start + ((s.positionAt offset).column - 1) = min offset s.size := by
  obtain ⟨index, bytes, hp, hon⟩ := s.onLine_positionAt offset
  obtain ⟨before, rest, hsplit, hline, hstart, hbound⟩ := hon
  have hcolumn : byteLength before + ((s.positionAt offset).column - 1) = min offset s.size := by
    rw [hp]
    exact hstart
  obtain ⟨behind, hbehind⟩ : restOfLine rest <+: rest := List.takeWhile_prefix _
  refine ⟨byteLength before, restOfLine rest, ⟨?_, ?_, ?_, ?_, ?_⟩, hcolumn⟩
  · exact positionAt_lineStart hcolumn
  · rw [hp]
    exact hline
  · exact slice?_eq_some.mpr ⟨before, behind, by rw [hbehind, hsplit], rfl, rfl⟩
  · omega
  · exact hbound.imp (fun h => by omega) fun h => ⟨by omega, h.2⟩

/-- What stands on a line in front of an offset reaches to the last boundary that is beyond
neither the offset nor the text of the line. -/
theorem LineHolds.isGreatest (h : s.LineHolds number start line offset) :
    let left := takeBytes (offset - start) line
    IsGreatest {cut | isBoundary s.chars cut = true ∧ cut ≤ offset ∧
        cut ≤ start + byteLength line} (start + byteLength left) ∧
      slice? s.chars start (start + byteLength left) = some left := by
  intro left
  obtain ⟨before, behind, hsplit, rfl, -⟩ := slice?_eq_some.mp h.text
  obtain ⟨right, hleft⟩ := takeBytes_prefix (offset - byteLength before) line
  have hgreatest := isGreatest_boundary before line behind (offset - byteLength before)
  rw [← hsplit, Nat.add_sub_cancel' h.start_le] at hgreatest
  refine ⟨hgreatest, slice?_eq_some.mpr ⟨before, right ++ behind, ?_, rfl, rfl⟩⟩
  rw [hsplit, ← List.append_assoc left, hleft]

end Source

namespace Excerpt

variable {e : Excerpt} {line : List Char}

theorem Shows.getElem?_target {before above below after : List (List Char)}
    (h : e.Shows before above line below after) : e.source.lines[e.target]? = some line := by
  have htarget : e.target = (before ++ above).length := by
    rw [List.length_append, h.first, h.target]
  rw [h.lines, htarget, ← List.append_assoc, List.append_assoc, List.cons_append,
    List.getElem?_append_right (Nat.le_refl _), Nat.sub_self, List.getElem?_cons_zero]

theorem caret_not_mem_numbered (padding first : Nat) (lines : List (List Char)) :
    .caret padding ∉ numbered first lines := by
  intro h
  obtain ⟨line, -, hline⟩ := List.mem_map.mp h
  cases hline

/-- There is one caret, right below the target. -/
theorem rows_of_target (e : Excerpt) (h : e.source.lines[e.target]? = some line) : ∃ above below,
    e.rows = above ++ .line (e.target + 1) line :: .caret (e.padding line) :: below ∧
      ∀ padding, .caret padding ∉ above ++ below := by
  obtain ⟨before, above, target, below, after, hshows⟩ := e.exists_shows
  cases hshows.getElem?_target.symm.trans h
  refine ⟨numbered (e.first + 1) above, numbered (e.target + 2) below, ?_, fun padding hmem => ?_⟩
  · rw [hshows.rows, numbered_snoc, hshows.number, List.append_assoc]
    rfl
  · rcases List.mem_append.mp hmem with hmem | hmem <;>
      exact caret_not_mem_numbered padding _ _ hmem

/-- In print, too, the caret is right below the target, behind a gutter of the same width. -/
theorem lines_of_target (e : Excerpt) (h : e.source.lines[e.target]? = some line) :
    (alignRight e.gutter (digits (e.target + 1))).length = e.gutter ∧
      ∃ upper lower, lines e.body.toList =
        upper ++ (alignRight e.gutter (digits (e.target + 1)) ++ separator ++ line) ::
          printedCaret e.gutter (e.padding line) :: lower := by
  obtain ⟨before, above, target, below, after, hshows⟩ := e.exists_shows
  cases hshows.getElem?_target.symm.trans h
  have hlast : e.target ≤ e.last := hshows.last ▸ Nat.le_add_right ..
  refine ⟨length_alignRight_digits (Nat.succ_le_succ hlast), printed e.gutter (e.first + 1) above,
    printed e.gutter (e.target + 2) below ++ [[]], ?_⟩
  rw [hshows.lines_body, printed_snoc, hshows.number]
  simp only [List.append_assoc, List.cons_append, List.nil_append]

/-- The target of an offset is the line that holds it, and what is left of the caret is cut
out of that line at the offset. -/
theorem target_holds (s : Source) (offset : Nat) :
    let o := min offset s.size
    let e : Excerpt := ⟨s, s.positionAt offset⟩
    ∃ start line,
      s.LineHolds (e.target + 1) start line o ∧
      start + (e.position.column - 1) = o ∧
      s.lines[e.target]? = some line ∧
      e.padding line = displayWidth (takeBytes (o - start) line) := by
  intro o e
  obtain ⟨start, line, hholds, hcolumn⟩ := s.exists_lineHolds offset
  have hnumber : e.target + 1 = (s.positionAt offset).line := target_positionAt s offset
  rw [← hnumber] at hholds
  refine ⟨start, line, hholds, hcolumn, hholds.entry, ?_⟩
  have hbytes : e.position.column - 1 = o - start := by
    show (s.positionAt offset).column - 1 = min offset s.size - start
    omega
  rw [padding, hbytes]

/-- **The caret points at the offset.** It stands below the line that holds the offset, and
nowhere else. As many cells are left free as the text takes that reaches from the beginning
of the line to the last boundary beyond neither the offset nor the line. Where an offset is
a boundary and does not part a pair, this is the offset itself. -/
theorem caret_placed (s : Source) (offset : Nat) :
    let o := min offset s.size
    let p := s.positionAt offset
    ∃ start line cut left above below,
      s.LineHolds p.line start line o ∧
      IsGreatest {b | isBoundary s.chars b = true ∧ b ≤ o ∧ b ≤ start + byteLength line} cut ∧
      slice? s.chars start cut = some left ∧
      (Excerpt.mk s p).rows = above ++ .line p.line line :: .caret (displayWidth left) :: below ∧
      (∀ padding, .caret padding ∉ above ++ below) ∧
      (isBoundary s.chars o = true → ¬ InsidePair s.chars o → cut = o) := by
  intro o p
  obtain ⟨start, line, hholds, -, htarget, hpadding⟩ := target_holds s offset
  obtain ⟨above, below, hrows, hcaret⟩ := rows_of_target ⟨s, p⟩ htarget
  have hnumber : (Excerpt.mk s p).target + 1 = p.line := target_positionAt s offset
  rw [hnumber] at hholds hrows
  obtain ⟨hgreatest, hleft⟩ := hholds.isGreatest
  refine ⟨start, line, _, _, above, below, hholds, hgreatest, hleft, ?_, hcaret, ?_⟩
  · rw [hrows, hpadding]
  · intro hcut hpair
    have hle : o ≤ start + byteLength line := hholds.reaches.resolve_right fun h => hpair h.2
    exact Nat.le_antisymm hgreatest.1.2.1 (hgreatest.2 ⟨hcut, Nat.le_refl o, hle⟩)

-- The first character takes three bytes and two cells, and the caret never points into it.
example :
    let s := Source.ofBody "名 x\r\n"
    [0, 2, 3, 4, 6].map (fun offset => (Excerpt.mk s (s.positionAt offset)).rows[1]?) =
      [0, 0, 2, 3, 4].map fun padding => some (.caret padding) := by
  decide

/-- **In print, the caret is below the offset.** In the text of the excerpt the line that holds
the offset stands under its number, and the caret in the row below, both behind gutters of
one width. As many cells are left free behind the caret's separator as the text takes that
reaches from the beginning of the line to the last boundary beyond neither the offset nor
the line. -/
theorem body_caret (s : Source) (offset : Nat) :
    let o := min offset s.size
    let p := s.positionAt offset
    let width := (Excerpt.mk s p).gutter
    ∃ start line cut left upper lower,
      s.LineHolds p.line start line o ∧
      IsGreatest {b | isBoundary s.chars b = true ∧ b ≤ o ∧ b ≤ start + byteLength line} cut ∧
      slice? s.chars start cut = some left ∧
      (alignRight width (digits p.line)).length = width ∧
      lines (Excerpt.mk s p).body.toList =
        upper ++ (alignRight width (digits p.line) ++ separator ++ line) ::
          printedCaret width (displayWidth left) :: lower := by
  intro o p width
  obtain ⟨start, line, hholds, -, htarget, hpadding⟩ := target_holds s offset
  obtain ⟨hgutter, upper, lower, hlines⟩ := lines_of_target ⟨s, p⟩ htarget
  have hnumber : (Excerpt.mk s p).target + 1 = p.line := target_positionAt s offset
  rw [hnumber] at hholds hgutter hlines
  obtain ⟨hgreatest, hleft⟩ := hholds.isGreatest
  exact ⟨start, line, _, _, upper, lower, hholds, hgreatest, hleft, hgutter, hpadding ▸ hlines⟩

/-- In an ASCII document the caret is printed in the column of the offset, unless that is
between the two bytes of a line end. -/
theorem body_caret_ascii (s : Source) (offset : Nat) (hascii : ∀ c ∈ s.chars, c.toNat < 0x80)
    (hpair : ¬ InsidePair s.chars (min offset s.size)) :
    let p := s.positionAt offset
    let width := (Excerpt.mk s p).gutter
    ∃ line upper lower,
      s.lines[p.line - 1]? = some line ∧
      lines (Excerpt.mk s p).body.toList =
        upper ++ (alignRight width (digits p.line) ++ separator ++ line) ::
          printedCaret width (p.column - 1) :: lower := by
  intro p width
  obtain ⟨start, line, hholds, hcolumn, htarget, hpadding⟩ := target_holds s offset
  obtain ⟨-, upper, lower, hlines⟩ := lines_of_target ⟨s, p⟩ htarget
  have hnumber : (Excerpt.mk s p).target + 1 = p.line := target_positionAt s offset
  have hline : ∀ c ∈ line, c.toNat < 0x80 := by
    obtain ⟨before, behind, hsplit, -, -⟩ := slice?_eq_some.mp hholds.text
    intro c hc
    exact hascii c (by simp [hsplit, hc])
  have hreaches := hholds.reaches.resolve_right fun h => hpair h.2
  rw [byteLength_ascii hline] at hreaches
  have hwidth : (Excerpt.mk s p).padding line = p.column - 1 := by
    rw [hpadding, takeBytes_ascii hline, displayWidth_ascii _ fun c hc =>
      hline c (List.mem_of_mem_take hc), List.length_take]
    show min (min offset s.size - start) line.length = (s.positionAt offset).column - 1
    have hoffset : start + ((s.positionAt offset).column - 1) = min offset s.size := hcolumn
    omega
  rw [hnumber] at hholds hlines
  exact ⟨line, upper, lower, hholds.entry, hwidth ▸ hlines⟩

end Excerpt

end GraphQL
