import GraphQL.Report.Excerpt

/-! The number of a line and the lines of a text.

`positionFrom` counts lines on its way to an offset, and `lines` cuts the whole text
with no offset in sight. Both see the same line ends: an offset that is given line `n`
lies in entry `n - 1` of `lines`, and its column counts the bytes from where that line
begins (`OnLine`).

The two stay in step from any place on. `Scans` says so of a scan that starts inside a
line, behind its beginning `begun`; one lemma follows each way the scan can go on, and
`scans_positionFrom` the whole of it. -/
namespace GraphQL.Text

/-! ### Bytes -/

theorem byteLength_append (a b : List Char) : byteLength (a ++ b) = byteLength a + byteLength b := by
  induction a with
  | nil => simp [byteLength]
  | cons c rest ih =>
    simp only [List.cons_append, byteLength, ih]
    omega

theorem byteLength_pair (text : List Char) :
    byteLength ('\r' :: '\n' :: text) = 2 + byteLength text := byteLength_append ['\r', '\n'] text

/-- Line ends that are no pair are one byte long. -/
theorem utf8Size_of_isBreak {c : Char} (h : isBreak c = true) : c.utf8Size = 1 := by
  have hc : c = '\n' ∨ c = '\r' := by simpa [isBreak] using h
  rcases hc with rfl | rfl <;> decide

/-- Bytes beyond a piece in front are counted behind it. -/
theorem min_byteLength_append {front : List Char} {offset : Nat} (h : byteLength front ≤ offset)
    (text : List Char) :
    min offset (byteLength (front ++ text)) =
      byteLength front + min (offset - byteLength front) (byteLength text) := by
  rw [byteLength_append]
  omega

/-! ### Lines and line ends -/

/-- A text without a line end. -/
def Unbroken (text : List Char) : Prop := ∀ c ∈ text, isBreak c = false

theorem Unbroken.append {a b : List Char} (ha : Unbroken a) (hb : Unbroken b) : Unbroken (a ++ b) :=
  List.forall_mem_append.mpr ⟨ha, hb⟩

theorem Unbroken.snoc {text : List Char} (h : Unbroken text) {c : Char} (hc : isBreak c = false) :
    Unbroken (text ++ [c]) := by
  intro d hd
  rcases List.mem_append.mp hd with hd | hd
  · exact h d hd
  · rw [List.mem_singleton.mp hd, hc]

/-- What a text begins with, up to a line end or to its own end. -/
def restOfLine (text : List Char) : List Char := text.takeWhile fun c => !isBreak c

theorem restOfLine_append {begun : List Char} (h : Unbroken begun) (text : List Char) :
    restOfLine (begun ++ text) = begun ++ restOfLine text :=
  List.takeWhile_append_of_pos fun c hc => by simp [h c hc]

theorem restOfLine_break {c : Char} (h : isBreak c = true) (text : List Char) :
    restOfLine (c :: text) = [] := by simp [restOfLine, h]

theorem restOfLine_cons {c : Char} (h : isBreak c = false) (text : List Char) :
    restOfLine (c :: text) = c :: restOfLine text := by simp [restOfLine, h]

theorem onFirstLine_eq_modifyHead (c : Char) {ls : List (List Char)} (h : ls ≠ []) :
    onFirstLine c ls = ls.modifyHead (c :: ·) := by
  cases ls with
  | nil => exact absurd rfl h
  | cons line rest => rfl

theorem lines_cons {c : Char} (h : isBreak c = false) (text : List Char) :
    lines (c :: text) = (lines text).modifyHead (c :: ·) := by
  have alone : ∀ r, c = '\r' → text = '\n' :: r → False := by
    intro r hc
    subst hc
    cases h
  rw [lines.eq_3 c text alone, if_neg (by simp [h]), onFirstLine_eq_modifyHead c (lines_ne_nil text)]

/-- A piece of a line in front of a text belongs to the text's first line. -/
theorem lines_append {begun : List Char} (h : Unbroken begun) (text : List Char) :
    lines (begun ++ text) = (lines text).modifyHead (begun ++ ·) := by
  induction begun with
  | nil =>
    show lines text = (lines text).modifyHead id
    rw [List.modifyHead_id, id]
  | cons c rest ih =>
    have hc : isBreak c = false := h c (List.mem_cons_self ..)
    have hrest := ih fun d hd => h d (List.mem_cons_of_mem c hd)
    rw [List.cons_append, lines_cons hc, hrest, List.modifyHead_modifyHead]
    rfl

/-- The first line is what stands in front of the first line end. -/
theorem lines_getElem?_zero (text : List Char) : (lines text)[0]? = some (restOfLine text) := by
  fun_induction lines text with
  | case1 => rfl
  | case2 rest => rfl
  | case3 c rest _ hbreak => rw [restOfLine_break hbreak, List.getElem?_cons_zero]
  | case4 c rest _ hbreak ih =>
    rw [onFirstLine_eq_modifyHead c (lines_ne_nil rest), List.getElem?_modifyHead_zero, ih,
      restOfLine_cons (by simpa using hbreak)]
    rfl

/-- No line has a line end inside. -/
theorem unbroken_of_mem_lines (text : List Char) : ∀ line ∈ lines text, Unbroken line := by
  fun_induction lines text with
  | case1 => simp [Unbroken]
  | case2 rest ih => exact List.forall_mem_cons.mpr ⟨List.forall_mem_nil _, ih⟩
  | case3 c rest _ hbreak ih => exact List.forall_mem_cons.mpr ⟨List.forall_mem_nil _, ih⟩
  | case4 c rest _ hbreak ih =>
    cases h : lines rest with
    | nil => exact absurd h (lines_ne_nil rest)
    | cons line later =>
      rw [h] at ih
      obtain ⟨hline, hlater⟩ := List.forall_mem_cons.mp ih
      have hc : isBreak c = false := by simpa using hbreak
      exact List.forall_mem_cons.mpr ⟨List.forall_mem_cons.mpr ⟨hc, hline⟩, hlater⟩

/-- A line end in front of a text: a pair, or a character that has no partner there. -/
inductive LineEnd : List Char → List Char → Prop
  | pair (text : List Char) : LineEnd ['\r', '\n'] text
  | single {c : Char} {text : List Char} (isBreak : isBreak c = true)
      (alone : ∀ r, c = '\r' → text = '\n' :: r → False) : LineEnd [c] text

theorem LineEnd.lines_append {e text : List Char} (h : LineEnd e text) :
    lines (e ++ text) = [] :: lines text := by
  cases h with
  | pair => rfl
  | @single c _ hbreak alone => exact (lines.eq_3 c text alone).trans (if_pos hbreak)

/-- Between the `\r` and the `\n` of one line end. -/
def InsidePair (text : List Char) (offset : Nat) : Prop :=
  ∃ before after, text = before ++ '\r' :: '\n' :: after ∧ offset = byteLength before + 1

theorem InsidePair.append {text : List Char} {offset : Nat} (h : InsidePair text offset)
    (front : List Char) : InsidePair (front ++ text) (byteLength front + offset) := by
  obtain ⟨before, after, rfl, rfl⟩ := h
  refine ⟨front ++ before, after, by simp, ?_⟩
  rw [byteLength_append]
  omega

/-! ### The line of an offset -/

/-- An offset is so many bytes behind the beginning of the line with an index, and that
line goes on from its beginning to the next line end. The offset may be one byte behind
the line, but only inside a line end of two bytes. -/
inductive OnLine (text : List Char) (offset index bytes : Nat) : Prop
  | intro (before rest : List Char) (split : text = before ++ rest)
      (line : (lines text)[index]? = some (restOfLine rest))
      (start : byteLength before + bytes = offset)
      (bound : bytes ≤ byteLength (restOfLine rest) ∨
        bytes = byteLength (restOfLine rest) + 1 ∧ InsidePair text offset)

namespace OnLine

variable {text begun : List Char} {offset index bytes : Nat}

theorem first (h : offset ≤ byteLength (restOfLine text) ∨
      offset = byteLength (restOfLine text) + 1 ∧ InsidePair text offset) :
    OnLine text offset 0 offset := by
  refine .intro [] text rfl (lines_getElem?_zero text) ?_ h
  simp [byteLength]

/-- With a line in front of the text, the line that holds the offset is one further on. -/
theorem next {e : List Char} (h : OnLine text offset index bytes) (he : LineEnd e text)
    (hbegun : Unbroken begun) :
    OnLine (begun ++ (e ++ text)) (byteLength begun + (byteLength e + offset)) (index + 1) bytes := by
  obtain ⟨before, rest, hsplit, hline, hstart, hbound⟩ := h
  refine .intro (begun ++ e ++ before) rest ?_ ?_ ?_ ?_
  · simp [hsplit]
  · rw [Text.lines_append hbegun, he.lines_append, List.modifyHead_cons, List.getElem?_cons_succ,
      hline]
  · simp only [byteLength_append]
    omega
  · exact hbound.imp id fun h => ⟨h.1, (h.2.append e).append begun⟩

theorem index_lt (h : OnLine text offset index bytes) : index < (lines text).length := by
  obtain ⟨_, _, _, hline, _, _⟩ := h
  exact (List.getElem?_eq_some_iff.mp hline).1

end OnLine

/-! ### Scanning for an offset -/

/-- From `p`, which stands behind the beginning `begun` of a line, over `offset` bytes of
the text to `q`: on to the line that `q` counts to, and as far into it as `q` says. -/
def Scans (p : Position) (begun text : List Char) (offset : Nat) (q : Position) : Prop :=
  ∃ index bytes, q = ⟨p.line + index, bytes + 1⟩ ∧
    OnLine (begun ++ text) (byteLength begun + min offset (byteLength text)) index bytes

namespace Scans

variable {p q : Position} {begun text : List Char} {offset : Nat}

/-- The offset is reached on the line begun, or inside the pair at its end. -/
theorem stop (hcolumn : p.column = byteLength begun + 1) (hbegun : Unbroken begun)
    (hle : offset ≤ byteLength text)
    (h : offset ≤ byteLength (restOfLine text) ∨
      offset = byteLength (restOfLine text) + 1 ∧ InsidePair text offset) :
    Scans p begun text offset (p.advance offset) := by
  refine ⟨0, byteLength begun + offset, ?_, ?_⟩
  · rw [Position.advance, hcolumn, Nat.add_right_comm]
    rfl
  · rw [Nat.min_eq_left hle]
    apply OnLine.first
    rw [restOfLine_append hbegun, byteLength_append]
    rcases h with h | ⟨h, hinside⟩
    · left
      omega
    · exact .inr ⟨by omega, hinside.append begun⟩

/-- The text is at its end. -/
theorem done (hcolumn : p.column = byteLength begun + 1) (hbegun : Unbroken begun) :
    Scans p begun [] offset p := by
  have hstop : Scans p begun [] 0 (p.advance 0) :=
    stop hcolumn hbegun (Nat.zero_le _) (.inl (Nat.zero_le _))
  obtain ⟨index, bytes, hp, hon⟩ := hstop
  refine ⟨index, bytes, hp, ?_⟩
  have hmin : min offset (byteLength []) = min 0 (byteLength []) := by simp [byteLength]
  rw [hmin]
  exact hon

/-- A line end is passed. -/
theorem lineEnd {e : List Char} (he : LineEnd e text) (hbegun : Unbroken begun)
    (hle : byteLength e ≤ offset) (h : Scans p.nextLine [] text (offset - byteLength e) q) :
    Scans p begun (e ++ text) offset q := by
  obtain ⟨index, bytes, rfl, hon⟩ := h
  refine ⟨index + 1, bytes, ?_, ?_⟩
  · rw [Position.nextLine, Nat.add_right_comm, Nat.add_assoc]
  · have htext : OnLine text (min (offset - byteLength e) (byteLength text)) index bytes := by
      simpa [byteLength] using hon
    rw [min_byteLength_append hle]
    exact htext.next he hbegun

/-- A character of the line is passed. -/
theorem inLine {c : Char} (hle : c.utf8Size ≤ offset)
    (h : Scans (p.advance c.utf8Size) (begun ++ [c]) text (offset - c.utf8Size) q) :
    Scans p begun (c :: text) offset q := by
  obtain ⟨index, bytes, hq, hon⟩ := h
  refine ⟨index, bytes, hq, ?_⟩
  have hpassed : byteLength [c] ≤ offset := hle
  have hmin : min offset (byteLength (c :: text)) =
      byteLength [c] + min (offset - c.utf8Size) (byteLength text) :=
    min_byteLength_append hpassed text
  rw [List.append_assoc, byteLength_append, Nat.add_assoc, ← hmin] at hon
  exact hon

end Scans

/-- A scan from inside a line ends on the line that it counts to, as far in as its column
says. -/
theorem scans_positionFrom (p : Position) (text : List Char) (offset : Nat) (begun : List Char)
    (hcolumn : p.column = byteLength begun + 1) (hbegun : Unbroken begun) :
    Scans p begun text offset (positionFrom p text offset) := by
  fun_induction positionFrom p text offset generalizing begun with
  | case1 p offset => exact .done hcolumn hbegun
  | case2 p rest offset hlt =>
    have hsize := byteLength_pair rest
    have hline : restOfLine ('\r' :: '\n' :: rest) = [] := restOfLine_break rfl _
    refine .stop hcolumn hbegun (by omega) ?_
    rw [hline]
    by_cases hzero : offset = 0
    · left
      omega
    · right
      have hone : offset = 1 := by omega
      exact ⟨hone, [], rest, rfl, hone⟩
  | case3 p rest offset hle ih =>
    have hpassed : byteLength ['\r', '\n'] ≤ offset := Nat.not_lt.mp hle
    exact .lineEnd (.pair rest) hbegun hpassed (ih [] rfl (List.forall_mem_nil _))
  | case4 p c rest offset alone hlt =>
    refine .stop hcolumn hbegun (Nat.le_add_right_of_le (Nat.le_of_lt hlt)) (.inl ?_)
    by_cases hbreak : isBreak c = true
    · have hsize := utf8Size_of_isBreak hbreak
      omega
    · rw [restOfLine_cons (by simpa using hbreak)]
      exact Nat.le_add_right_of_le (Nat.le_of_lt hlt)
  | case5 p c rest offset alone hle hbreak ih =>
    have hpassed : byteLength [c] ≤ offset := Nat.not_lt.mp hle
    exact .lineEnd (.single hbreak alone) hbegun hpassed (ih [] rfl (List.forall_mem_nil _))
  | case6 p c rest offset alone hle hbreak ih =>
    have hsnoc : Unbroken (begun ++ [c]) := hbegun.snoc (by simpa using hbreak)
    have hadvance : (p.advance c.utf8Size).column = byteLength (begun ++ [c]) + 1 := by
      simp only [Position.advance, hcolumn, byteLength_append, byteLength]
      omega
    exact .inLine (Nat.not_lt.mp hle) (ih _ hadvance hsnoc)

/-- A scan that reaches the end of the text ends on its last line. -/
theorem line_positionFrom_of_le (p : Position) (text : List Char) (offset : Nat)
    (h : byteLength text ≤ offset) :
    (positionFrom p text offset).line + 1 = p.line + (lines text).length := by
  have hnext (p : Position) (n : Nat) : p.nextLine.line + n = p.line + (n + 1) :=
    Nat.add_right_comm p.line 1 n
  fun_induction positionFrom p text offset with
  | case1 p offset => rfl
  | case2 p rest offset hlt =>
    have hsize := byteLength_pair rest
    omega
  | case3 p rest offset hle ih =>
    have hsize := byteLength_pair rest
    have hlines : lines ('\r' :: '\n' :: rest) = [] :: lines rest := (LineEnd.pair rest).lines_append
    rw [ih (by omega), hnext, hlines, List.length_cons]
  | case4 p c rest offset alone hlt =>
    simp only [byteLength] at h
    omega
  | case5 p c rest offset alone hle hbreak ih =>
    have hlines : lines (c :: rest) = [] :: lines rest := (LineEnd.single hbreak alone).lines_append
    simp only [byteLength] at h
    rw [ih (by omega), hnext, hlines, List.length_cons]
  | case6 p c rest offset alone hle hbreak ih =>
    have hlines := lines_cons (by simpa using hbreak) rest
    simp only [byteLength] at h
    rw [ih (by omega), hlines, List.length_modifyHead]
    rfl

end GraphQL.Text

namespace GraphQL

open Text

/-- The line and the column of an offset lead to it. -/
theorem Source.onLine_positionAt (s : Source) (offset : Nat) : ∃ index bytes,
    s.positionAt offset = ⟨index + 1, bytes + 1⟩ ∧
      OnLine s.chars (min offset s.size) index bytes := by
  obtain ⟨index, bytes, hp, hon⟩ :=
    scans_positionFrom .start s.chars offset [] rfl (List.forall_mem_nil _)
  refine ⟨index, bytes, hp.trans (congrArg (Position.mk · _) (Nat.add_comm 1 index)), ?_⟩
  simpa [byteLength, size] using hon

/-- **The position of an offset names the line that holds it.** Its line is one of the
body's, so an excerpt shows that line and no other as its target; its column counts the
bytes from where the line begins; and the end of the body is on the last line. -/
theorem Source.positionAt_onLine (s : Source) (offset : Nat) :
    let p := s.positionAt offset
    1 ≤ p.line ∧ p.line ≤ s.lines.length ∧ (Excerpt.mk s p).target = p.line - 1 ∧
      1 ≤ p.column ∧ OnLine s.chars (min offset s.size) (p.line - 1) (p.column - 1) ∧
      (s.positionAt s.size).line = s.lines.length := by
  intro p
  obtain ⟨index, bytes, hp, hon⟩ :=
    scans_positionFrom .start s.chars offset [] rfl (List.forall_mem_nil _)
  have hon : OnLine s.chars (min offset s.size) index bytes := by
    simpa [byteLength, size] using hon
  have hline : p.line = 1 + index := congrArg Position.line hp
  have hcolumn : p.column = bytes + 1 := congrArg Position.column hp
  have hlt : index < s.lines.length := hon.index_lt
  have hend := line_positionFrom_of_le .start s.chars s.size (Nat.le_refl _)
  refine ⟨by omega, by omega, ?_, by omega, ?_, ?_⟩
  · show min (p.line - 1) (s.lines.length - 1) = p.line - 1
    omega
  · have hindex : p.line - 1 = index := by omega
    have hbytes : p.column - 1 = bytes := by omega
    rw [hindex, hbytes]
    exact hon
  · exact Nat.add_right_cancel (hend.trans (Nat.add_comm 1 _))

-- The line `a` is one byte long, and offset 2 is two bytes behind its beginning.
example : (Source.ofBody "a\r\nb").positionAt 2 = ⟨1, 3⟩ := by decide

end GraphQL
