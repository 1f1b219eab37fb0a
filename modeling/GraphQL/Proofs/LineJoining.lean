import GraphQL.Proofs.Boundaries

/-! Lines and the line ends between them.

Nothing of a text is lost among its lines: they are what stands between its line ends, so
the lines with the bytes of the line ends in between are the bytes of the text
(`interleave_lines`). Nor is a line lost that was put into a text. Texts that are put
together from lines split into the same lines again, except where a `\r`, an empty line and
a `\n` follow each other: these two line ends have become one (`Joined.lines_eq_iff`). -/
namespace GraphQL.Text

/-! ### Pieces and what stands between them -/

section
variable {α : Type}

/-- Pieces with separators in between. -/
def interleave : List (List α) → List (List α) → List α
  | [], _ => []
  | piece :: pieces, [] => piece ++ interleave pieces []
  | piece :: pieces, separator :: separators =>
    piece ++ (separator ++ interleave pieces separators)

theorem interleave_modifyHead (front : List α) {pieces : List (List α)} (h : pieces ≠ [])
    (separators : List (List α)) :
    interleave (pieces.modifyHead (front ++ ·)) separators =
      front ++ interleave pieces separators := by
  cases pieces with
  | nil => exact absurd rfl h
  | cons piece pieces =>
    cases separators <;> simp only [List.modifyHead_cons, interleave, List.append_assoc]

end

/-! ### The lines of a text and its line ends -/

/-- The bytes of a line end. -/
def Terminator.slice (bytes : List UInt8) (t : Terminator) : List UInt8 :=
  bytes.extract t.start t.stop

/-- The bytes between those of two pieces of a text. -/
theorem slice_encode (front piece rest : List Char) :
    Terminator.slice (encode (front ++ (piece ++ rest)))
      ⟨byteLength front, byteLength front + byteLength piece⟩ = encode piece := by
  rw [Terminator.slice, List.extract_eq_take_drop, Nat.add_sub_cancel_left, encode_append,
    encode_append, ← length_encode, ← length_encode, List.drop_left, List.take_left]

theorem length_lines (text : List Char) (i : Nat) :
    (lines text).length = (terminators i (encode text)).length + 1 := by
  fun_induction lines text generalizing i with
  | case1 => rfl
  | case2 rest ih =>
    have hend := (LineEnd.pair rest).terminators_encode i
    rw [List.length_cons, ih, ← List.length_cons, ← hend]
    rfl
  | case3 c rest alone hbreak ih =>
    have hend := (LineEnd.single hbreak alone).terminators_encode i
    rw [List.length_cons, ih, ← List.length_cons, ← hend]
    rfl
  | case4 c rest alone hbreak ih =>
    rw [onFirstLine_eq_modifyHead c (lines_ne_nil rest), List.length_modifyHead, ih,
      terminators_encode_cons (by simpa using hbreak)]

/-- The lines of a text and the line ends found among its bytes are all of it. -/
theorem interleave_lines (front text : List Char) :
    interleave ((lines text).map encode)
      ((terminators (byteLength front) (encode text)).map (·.slice (encode (front ++ text)))) =
        encode text := by
  -- A line end cuts off a line without text, and the rest is found behind it.
  have hend {e rest : List Char} (he : LineEnd e rest) (front : List Char)
      (ih : ∀ front, interleave ((lines rest).map encode)
        ((terminators (byteLength front) (encode rest)).map (·.slice (encode (front ++ rest)))) =
          encode rest) :
      interleave (([] :: lines rest).map encode)
        ((terminators (byteLength front) (encode (e ++ rest))).map
          (·.slice (encode (front ++ (e ++ rest))))) = encode (e ++ rest) := by
    have hrest := ih (front ++ e)
    rw [byteLength_append, List.append_assoc] at hrest
    rw [he.terminators_encode, List.map_cons, List.map_cons, interleave, slice_encode, hrest,
      encode_append]
    rfl
  fun_induction lines text generalizing front with
  | case1 => rfl
  | case2 rest ih => exact hend (.pair rest) front ih
  | case3 c rest alone hbreak ih => exact hend (.single hbreak alone) front ih
  | case4 c rest alone hbreak ih =>
    have hc : isBreak c = false := by simpa using hbreak
    have hrest := ih (front ++ [c])
    rw [List.append_assoc, List.singleton_append, byteLength_append] at hrest
    have hmap (ls : List (List Char)) : (ls.modifyHead (c :: ·)).map encode =
        (ls.map encode).modifyHead (String.utf8EncodeChar c ++ ·) := by
      cases ls <;> rfl
    have hne : (lines rest).map encode ≠ [] := by simp [lines_ne_nil]
    rw [onFirstLine_eq_modifyHead c (lines_ne_nil rest), hmap, interleave_modifyHead _ hne,
      terminators_encode_cons hc]
    exact congrArg (String.utf8EncodeChar c ++ ·) hrest

/-! ### Texts put together from lines -/

/-- The line ends there are. -/
inductive LineBreak
  | lf | cr | crlf
deriving DecidableEq, Repr

def LineBreak.chars : LineBreak → List Char
  | .lf => ['\n']
  | .cr => ['\r']
  | .crlf => ['\r', '\n']

/-- A text is put together from some lines, with line ends in between. -/
structure Joined (ls : List (List Char)) (breaks : List LineBreak) (text : List Char) : Prop where
  length : ls.length = breaks.length + 1
  unbroken : ∀ line ∈ ls, Unbroken line
  text : text = interleave ls (breaks.map LineBreak.chars)

/-- Between some `\r` and the `\n` after it there is nothing but an empty line. -/
def Merges (ls : List (List Char)) (breaks : List LineBreak) : Prop :=
  ∃ i, breaks[i]? = some .cr ∧ ls[i + 1]? = some [] ∧ breaks[i + 1]? = some .lf

theorem merges_cons {line : List Char} {ls : List (List Char)} {b : LineBreak}
    {breaks : List LineBreak} :
    Merges (line :: ls) (b :: breaks) ↔
      b = .cr ∧ ls.head? = some [] ∧ breaks.head? = some .lf ∨ Merges ls breaks := by
  rw [List.head?_eq_getElem?, List.head?_eq_getElem?]
  constructor
  · intro h
    obtain ⟨i, hcr, hempty, hlf⟩ := h
    cases i with
    | zero => exact .inl ⟨by simpa using hcr, by simpa using hempty, by simpa using hlf⟩
    | succ i => exact .inr ⟨i, by simpa using hcr, by simpa using hempty, by simpa using hlf⟩
  · intro h
    rcases h with ⟨rfl, hempty, hlf⟩ | ⟨i, hcr, hempty, hlf⟩
    · exact ⟨0, rfl, by simpa using hempty, by simpa using hlf⟩
    · exact ⟨i + 1, by simpa using hcr, by simpa using hempty, by simpa using hlf⟩

namespace Joined

variable {ls : List (List Char)} {breaks : List LineBreak} {text : List Char}

/-- Behind the first line end there is a text put together from the lines left. -/
theorem exists_rest {b : LineBreak} (h : Joined ls (b :: breaks) text) : ∃ line later rest,
    ls = line :: later ∧ Unbroken line ∧ Joined later breaks rest ∧
      text = line ++ (b.chars ++ rest) := by
  obtain ⟨hlength, hunbroken, rfl⟩ := h
  cases ls with
  | nil => cases hlength
  | cons line later =>
    obtain ⟨hline, hlater⟩ := List.forall_mem_cons.mp hunbroken
    exact ⟨line, later, _, rfl, hline, ⟨Nat.succ.inj hlength, hlater, rfl⟩, rfl⟩

theorem eq_singleton (h : Joined ls [] text) : ls = [text] ∧ Unbroken text := by
  obtain ⟨hlength, hunbroken, rfl⟩ := h
  obtain ⟨line, rfl⟩ := List.length_eq_one_iff.mp hlength
  have htext : interleave [line] ([].map LineBreak.chars) = line := List.append_nil line
  rw [htext]
  exact ⟨rfl, hunbroken line (List.mem_singleton_self line)⟩

/-- A text begins with `\n` only if its first line is empty and ends there. -/
theorem head?_eq_lf (h : Joined ls breaks text) :
    text.head? = some '\n' ↔ ls.head? = some [] ∧ breaks.head? = some .lf := by
  -- The first line has no line end inside, so the text begins with one only behind it.
  have hbegins {line : List Char} (hline : Unbroken line) (hne : line ≠ []) (rest : List Char) :
      (line ++ rest).head? ≠ some '\n' := by
    obtain ⟨c, cs, rfl⟩ := List.exists_cons_of_ne_nil hne
    intro hc
    have hbreak := hline c (List.mem_cons_self ..)
    rw [Option.some.inj hc] at hbreak
    cases hbreak
  cases breaks with
  | nil =>
    obtain ⟨rfl, htext⟩ := h.eq_singleton
    refine iff_of_false ?_ (by simp)
    by_cases hne : text = []
    · simp [hne]
    · simpa using hbegins htext hne []
  | cons b breaks =>
    obtain ⟨line, later, rest, rfl, hline, -, rfl⟩ := h.exists_rest
    by_cases hne : line = []
    · subst hne
      cases b <;> simp [LineBreak.chars]
    · refine iff_of_false (hbegins hline hne _) (by simp [hne])

end Joined

theorem lineEnd_lf (text : List Char) : LineEnd ['\n'] text := by
  refine .single rfl fun _ hcr => ?_
  simp at hcr

/-- A `\r` in front of a text that begins with `\n` becomes part of the line end there, -/
theorem lines_cr_lf (text : List Char) : lines ('\r' :: '\n' :: text) = lines ('\n' :: text) :=
  (lineEnd_lf text).lines_append.symm

/-- and in any other case a line end stays one. -/
theorem LineBreak.lineEnd (b : LineBreak) {text : List Char}
    (h : ¬ (b = .cr ∧ text.head? = some '\n')) : LineEnd b.chars text := by
  cases b with
  | lf => exact lineEnd_lf text
  | cr =>
    refine .single rfl fun r _ hr => h ⟨rfl, ?_⟩
    rw [hr]
    rfl
  | crlf => exact .pair text

/-- A line end in front of a text that does not merge with it cuts one line off. -/
theorem lines_break {line : List Char} (hline : Unbroken line) {b : LineBreak} {text : List Char}
    (h : ¬ (b = .cr ∧ text.head? = some '\n')) :
    lines (line ++ (b.chars ++ text)) = line :: lines text := by
  rw [lines_append hline, (b.lineEnd h).lines_append, List.modifyHead_cons, List.append_nil]

/-- One that merges with the text cuts none off. -/
theorem lines_merged {line : List Char} (hline : Unbroken line) {text : List Char}
    (h : text.head? = some '\n') :
    lines (line ++ (LineBreak.cr.chars ++ text)) = (lines text).modifyHead (line ++ ·) := by
  obtain ⟨rest, rfl⟩ := List.head?_eq_some_iff.mp h
  exact (lines_append hline _).trans (congrArg _ (lines_cr_lf rest))

namespace Joined

variable {ls : List (List Char)} {breaks : List LineBreak} {text : List Char}

/-- A text never has more lines than it was put together from. -/
theorem length_lines_le (h : Joined ls breaks text) : (lines text).length ≤ ls.length := by
  induction breaks generalizing ls text with
  | nil =>
    obtain ⟨rfl, htext⟩ := h.eq_singleton
    have hlines := lines_append htext []
    rw [List.append_nil] at hlines
    simp [hlines, lines]
  | cons b breaks ih =>
    obtain ⟨line, later, rest, rfl, hline, hrest, rfl⟩ := h.exists_rest
    have hle := ih hrest
    by_cases hmerged : b = .cr ∧ rest.head? = some '\n'
    · obtain ⟨rfl, hlf⟩ := hmerged
      rw [lines_merged hline hlf, List.length_modifyHead]
      exact Nat.le_succ_of_le hle
    · rw [lines_break hline hmerged]
      exact Nat.succ_le_succ hle

/-- A text splits into the lines that it was put together from unless two line ends merge. -/
theorem lines_eq_iff (h : Joined ls breaks text) : lines text = ls ↔ ¬ Merges ls breaks := by
  induction breaks generalizing ls text with
  | nil =>
    obtain ⟨rfl, htext⟩ := h.eq_singleton
    have hlines := lines_append htext []
    rw [List.append_nil] at hlines
    simp [hlines, lines, Merges]
  | cons b breaks ih =>
    obtain ⟨line, later, rest, rfl, hline, hrest, rfl⟩ := h.exists_rest
    rw [merges_cons, ← hrest.head?_eq_lf]
    by_cases hmerged : b = .cr ∧ rest.head? = some '\n'
    · refine iff_of_false (fun hlines => ?_) (fun hno => hno (.inl hmerged))
      obtain ⟨rfl, hlf⟩ := hmerged
      have hle := hrest.length_lines_le
      have hlength := congrArg List.length hlines
      rw [lines_merged hline hlf, List.length_modifyHead, List.length_cons] at hlength
      omega
    · rw [lines_break hline hmerged, List.cons_inj_right, ih hrest, or_iff_right hmerged]

end Joined

end GraphQL.Text

namespace GraphQL

open Text

/-- **Splitting a body into lines loses nothing.** No line has a line end inside, there is
one line more than line ends, and with the bytes of the line ends in between the lines are
the body again. If the body was put together from lines, these are its lines, unless a `\r`
in front of an empty line met a `\n` behind it. -/
theorem Source.lines_lossless (s : Source) :
    cutLines? s.chars 0 0 = some s.lines ∧
      (∀ line ∈ s.lines, Unbroken line) ∧
      s.lines.length = (terminators 0 s.bytes).length + 1 ∧
      interleave (s.lines.map encode) ((terminators 0 s.bytes).map (·.slice s.bytes)) = s.bytes ∧
      ∀ ls breaks, Joined ls breaks s.chars → (s.lines = ls ↔ ¬ Merges ls breaks) :=
  ⟨cutLines?_eq s.chars, unbroken_of_mem_lines s.chars, length_lines s.chars 0,
    interleave_lines [] s.chars, fun _ _ h => h.lines_eq_iff⟩

/-- An empty line between a `\r` and a pair, and one behind the last line end. -/
theorem Source.lines_lossless_emptyLines :
    let s : Source := ⟨"a\r\r\né\n", "doc"⟩
    let ls := ["a", "", "é", ""].map String.toList
    let breaks : List LineBreak := [.cr, .crlf, .lf]
    Joined ls breaks s.chars ∧ ¬ Merges ls breaks ∧ s.lines = ls := by
  intro s ls breaks
  have hunbroken : ∀ line ∈ ls, Unbroken line := by simp [ls, Unbroken, isBreak]
  have hjoined : Joined ls breaks s.chars := ⟨rfl, hunbroken, by decide⟩
  have hmerges : ¬ Merges ls breaks := by
    rintro ⟨i, hcr, -, hlf⟩
    rcases i with _ | _ | _ | i <;> simp [breaks] at hcr hlf
  exact ⟨hjoined, hmerges, ((lines_lossless s).2.2.2.2 ls breaks hjoined).mpr hmerges⟩

-- Three empty lines with a `\r` and a `\n` in between are two with a pair.
example : (Source.ofBody "\r\n").lines = [[], []] := by decide

end GraphQL
