import GraphQL.Proofs.PositionOrder
import GraphQL.Source.Window

/-! Windows and positions.

A scan passes over a body once and finds where a window begins and on which line, while a
position counts all the line ends in front of one offset. They number the lines alike
(`Source.window?_shows`).

`Scan.Knows` says what a scan has come to know at a byte: of the lines begun in front of the
span, how many are no longer kept, where the others begin, and how far along its line the
scan is. A line end in front of the span puts one more line to those kept; whatever comes
behind the beginning of the span leaves them alone (`Knows.step_end`), so a run knows in the
end what the line ends in front of the span come to (`Knows.run`).

Only the column could be lost again, as a line end behind the span sets it back. A scan for
no lines after the span never gets there: it stops at the byte that covers the span
(`Steps.goesOn`). -/
namespace GraphQL

open Text

namespace Text

/-! ### Where lines begin -/

/-- Where the lines begin that some line ends end. -/
def begins (ts : List Terminator) : List Nat :=
  (List.range ts.length).map fun j => lineStart 0 (ts.take j)

theorem length_begins (ts : List Terminator) : (begins ts).length = ts.length := by
  simp [begins]

theorem getElem?_begins {ts : List Terminator} {j : Nat} (h : j < ts.length) :
    (begins ts)[j]? = some (lineStart 0 (ts.take j)) := by
  simp [begins, h]

theorem begins_concat (ts : List Terminator) (t : Terminator) :
    begins (ts ++ [t]) = begins ts ++ [lineStart 0 ts] := by
  have hfront : ∀ j ∈ List.range ts.length,
      lineStart 0 ((ts ++ [t]).take j) = lineStart 0 (ts.take j) := by
    intro j hj
    rw [List.take_append_of_le_length (Nat.le_of_lt (List.mem_range.mp hj))]
  rw [begins, List.length_append, List.length_singleton, List.range_succ, List.map_append,
    List.map_congr_left hfront, List.map_singleton, List.take_left]
  rfl

theorem lineStart_concat (ts : List Terminator) (t : Terminator) :
    lineStart 0 (ts ++ [t]) = t.stop := by
  rw [lineStart, List.getLast?_concat]
  rfl

/-- A line end in front counts if it is passed whole. -/
theorem passed_cons_append {i stop offset : Nat} {bytes rest : List UInt8}
    (h : terminators i bytes = ⟨i, stop⟩ :: terminators stop rest) :
    passed i bytes offset =
      (if stop ≤ offset then [⟨i, stop⟩] else []) ++ passed stop rest offset := by
  rw [passed_cons h]
  split
  · rfl
  · next hle => exact (passed_eq_nil (Nat.le_of_not_le hle) rest).symm

end Text

namespace Source

theorem WindowRequest.covered_le {r : WindowRequest} {n : Nat} :
    r.covered ≤ n ↔ r.offset + r.length ≤ n + 1 :=
  Nat.sub_le_iff_le_add

namespace Scan

variable {r : WindowRequest} {s : Scan} {bytes : List UInt8} {ts : List Terminator} {i : Nat}

/-! ### One step -/

/-- What a step, or a part of one, does: it stays at its byte, it stops only where that
covers the span, and it does not go on from there if no lines after the span are wanted. -/
structure Steps (r : WindowRequest) (s : Scan) (out : Scan × Bool) : Prop where
  offset : out.1.offset = s.offset
  stops : out.2 = true → r.covered ≤ s.offset
  goesOn : out.2 = false → r.linesAfter = 0 → s.covered = false → out.1.covered = false

/-- What goes on and leaves both fields as they are. -/
theorem Steps.of_kept {t : Scan} (hoffset : t.offset = s.offset)
    (hcovered : t.covered = s.covered) : Steps r s (t, false) where
  offset := hoffset
  stops hstop := absurd hstop Bool.false_ne_true
  goesOn _ _ hopen := hcovered.trans hopen

theorem Steps.trans {t : Scan} {out : Scan × Bool} (h : Steps r s (t, false))
    (h' : Steps r t out) : Steps r s out where
  offset := h'.offset.trans h.offset
  stops hstop := h.offset ▸ h'.stops hstop
  goesOn hgo hnone hopen := h'.goesOn hgo hnone (h.goesOn rfl hnone hopen)

theorem steps_lineByte (r : WindowRequest) (s : Scan) : Steps r s (s.lineByte r, false) := by
  unfold lineByte
  split <;> exact .of_kept rfl rfl

theorem steps_lineEnd (r : WindowRequest) (s : Scan) : Steps r s (s.lineEnd r) := by
  have hremember (keep : Nat) (t : Scan) :
      (t.remember keep).offset = t.offset ∧ (t.remember keep).covered = t.covered := by
    unfold remember
    split <;> exact ⟨rfl, rfl⟩
  have hcount (t : Scan) : t.countAfter.offset = t.offset ∧ t.countAfter.covered = t.covered := by
    unfold countAfter
    split <;> exact ⟨rfl, rfl⟩
  unfold lineEnd
  dsimp only
  split
  · exact .of_kept (hremember _ _).1 (hremember _ _).2
  · split
    · next hlast =>
      have hcovered : r.covered ≤ s.offset := by
        have hle := hlast.1
        unfold WindowRequest.last at hle
        unfold WindowRequest.covered
        omega
      split <;> exact ⟨(hcount _).1, fun _ => hcovered, fun _ _ hopen => (hcount _).2.trans hopen⟩
    · exact .of_kept rfl rfl

theorem steps_cover (r : WindowRequest) (s : Scan) : Steps r s (s.cover r) := by
  unfold cover
  split
  · next hcovered =>
    refine ⟨rfl, fun _ => hcovered, fun hgo hnone _ => ?_⟩
    simp [enough, hnone] at hgo
  · exact .of_kept rfl rfl

theorem steps_step (r : WindowRequest) (isEnd : Bool) (s : Scan) : Steps r s (s.step r isEnd) := by
  have hfirst : Steps r s (if isEnd then s.lineEnd r else (s.lineByte r, false)) := by
    split
    · exact steps_lineEnd r s
    · exact steps_lineByte r s
  unfold step
  generalize (if isEnd then s.lineEnd r else (s.lineByte r, false)) = out at hfirst ⊢
  obtain ⟨t, stop⟩ := out
  cases stop with
  | false => exact hfirst.trans (steps_cover r t)
  | true => exact hfirst

theorem cover_fst (r : WindowRequest) (s : Scan) :
    ∃ c, (s.cover r).1 = { s with covered := c } := by
  unfold cover
  split
  · exact ⟨true, rfl⟩
  · exact ⟨s.covered, rfl⟩

/-- Whether the span is covered is noted last, and changes nothing else. -/
theorem step_fst (r : WindowRequest) (isEnd : Bool) (s : Scan) : ∃ c, (s.step r isEnd).1 =
    { (if isEnd then (s.lineEnd r).1 else s.lineByte r) with covered := c } := by
  unfold step
  cases isEnd with
  | false => exact cover_fst r (s.lineByte r)
  | true =>
    simp only [if_true]
    split
    · exact ⟨_, rfl⟩
    · exact cover_fst r (s.lineEnd r).1

/-! ### What a scan knows -/

/-- What a scan knows at the offset `i`, where `ts` are the line ends that it has passed and
that stop no later than the span begins. -/
structure Knows (r : WindowRequest) (bytes : List UInt8) (ts : List Terminator) (i : Nat)
    (s : Scan) : Prop where
  /-- The lines begun by then that are not among the last. -/
  line : s.line = ts.length - r.linesBefore
  starts : s.starts = (begins ts).drop s.line
  /-- Behind the beginning of the span nothing reads it. -/
  lineStart : i ≤ r.offset → s.lineStart = Text.lineStart 0 ts
  start_le : Text.lineStart 0 ts ≤ i
  /-- A pair that the span parts is passed in one step, so its `\r` is not counted. -/
  column : r.linesAfter = 0 → ¬ PartsPair bytes r.offset →
    s.column = min i r.offset - Text.lineStart 0 ts

theorem knows_start (r : WindowRequest) (bytes : List UInt8) :
    start.Knows r bytes [] start.offset where
  line := (Nat.zero_sub r.linesBefore).symm
  starts := rfl
  lineStart _ := rfl
  start_le := Nat.le_refl 0
  column _ _ := by simp [start]

/-- Only four of the fields are asked about. -/
theorem Knows.congr {s' : Scan} (h : s.Knows r bytes ts i) (hline : s'.line = s.line)
    (hstarts : s'.starts = s.starts) (hlineStart : s'.lineStart = s.lineStart)
    (hcolumn : s'.column = s.column) : s'.Knows r bytes ts i where
  line := hline.trans h.line
  starts := by rw [hstarts, hline, h.starts]
  lineStart hi := hlineStart.trans (h.lineStart hi)
  start_le := h.start_le
  column hnone hclear := hcolumn.trans (h.column hnone hclear)

/-- The line remembered is kept, in the place of the first one kept if there is no room. -/
theorem Knows.remember (h : s.Knows r bytes ts i) (hi : i ≤ r.offset) :
    (s.remember r.linesBefore).line = ts.length + 1 - r.linesBefore ∧
      (s.remember r.linesBefore).starts =
        (begins ts ++ [Text.lineStart 0 ts]).drop (ts.length + 1 - r.linesBefore) ∧
      (s.remember r.linesBefore).column = 0 := by
  have hlength : s.starts.length = ts.length - s.line := by
    rw [h.starts, List.length_drop, length_begins]
  have hline := h.line
  have hdrop : (begins ts ++ [Text.lineStart 0 ts]).drop s.line = s.starts ++ [s.lineStart] := by
    rw [List.drop_append_of_le_length (by rw [length_begins]; omega), h.starts, h.lineStart hi]
  unfold Scan.remember
  split
  · next hroom =>
    have hzero : ts.length + 1 - r.linesBefore = s.line := by omega
    rw [hzero]
    exact ⟨rfl, hdrop.symm, rfl⟩
  · next hfull =>
    have hsucc : ts.length + 1 - r.linesBefore = s.line + 1 := by omega
    rw [hsucc, ← List.drop_drop, hdrop]
    exact ⟨rfl, rfl, rfl⟩

/-- A line end in front of the span begins a line that may be among the last. -/
theorem Knows.lineEnd_front (h : s.Knows r bytes ts i) (hi : i ≤ s.offset)
    (hfront : s.offset < r.offset) (start : Nat) :
    (s.lineEnd r).1.Knows r bytes (ts ++ [⟨start, s.offset + 1⟩]) (s.offset + 1) := by
  have hcounted : { s with lineCount := s.lineCount + 1 }.Knows r bytes ts i :=
    h.congr rfl rfl rfl rfl
  obtain ⟨hline, hstarts, hcolumn⟩ := hcounted.remember (by omega)
  rw [lineEnd, if_pos hfront]
  constructor
  case line =>
    rw [List.length_append, List.length_singleton]
    exact hline
  case starts =>
    rw [begins_concat]
    exact hstarts.trans (congrArg (List.drop · _) hline.symm)
  case lineStart => exact fun _ => (lineStart_concat ts ⟨start, s.offset + 1⟩).symm
  case start_le => exact Nat.le_of_eq (lineStart_concat ..)
  case column =>
    intro _ _
    rw [lineStart_concat, Nat.min_eq_left hfront, Nat.sub_self]
    exact hcolumn

/-- Behind the beginning of the span no line is remembered, and the column is not set back
before the span has been covered. -/
theorem lineEnd_behind (hbehind : r.offset ≤ s.offset) :
    (s.lineEnd r).1.line = s.line ∧ (s.lineEnd r).1.starts = s.starts ∧
      (s.covered = false → (s.lineEnd r).1.column = s.column) := by
  rw [lineEnd, if_neg (Nat.not_lt.mpr hbehind)]
  split
  · next hcovered =>
    have hkept (t : Scan) : t.countAfter.line = t.line ∧ t.countAfter.starts = t.starts := by
      unfold countAfter
      split <;> exact ⟨rfl, rfl⟩
    have hcolumn (t : Scan) (hopen : s.covered = false) : t.column = s.column :=
      Bool.noConfusion (hcovered.2.symm.trans hopen)
    dsimp only
    split <;> exact ⟨(hkept _).1, (hkept _).2, hcolumn _⟩
  · exact ⟨rfl, rfl, fun _ => rfl⟩

theorem Knows.lineEnd_behind (h : s.Knows r bytes ts i) (hi : i ≤ s.offset)
    (hbehind : r.offset ≤ s.offset) (hclear : r.offset ≤ i ∨ PartsPair bytes r.offset)
    (hopen : r.linesAfter = 0 → s.covered = false) :
    (s.lineEnd r).1.Knows r bytes ts (s.offset + 1) := by
  obtain ⟨hline, hstarts, hcolumn⟩ := Scan.lineEnd_behind hbehind
  have hstart := h.start_le
  constructor
  case line => exact hline.trans h.line
  case starts => rw [hstarts, hline, h.starts]
  case lineStart => omega
  case start_le => omega
  case column =>
    intro hnone hparts
    have hle := hclear.resolve_right hparts
    rw [hcolumn (hopen hnone), h.column hnone hparts]
    omega

theorem Knows.lineByte (h : s.Knows r bytes ts s.offset) :
    (s.lineByte r).Knows r bytes ts (s.offset + 1) := by
  have hstart := h.start_le
  unfold Scan.lineByte
  split
  · next hfront =>
    refine ⟨h.line, h.starts, fun _ => h.lineStart (Nat.le_of_lt hfront),
      Nat.le_succ_of_le hstart, fun hnone hparts => ?_⟩
    have hcolumn := h.column hnone hparts
    simp only
    omega
  · next hbehind =>
    refine ⟨h.line, h.starts, fun hle => absurd hle hbehind,
      Nat.le_succ_of_le hstart, fun hnone hparts => ?_⟩
    have hcolumn := h.column hnone hparts
    omega

/-- At the last byte of a line end that begins at `i`. -/
theorem Knows.step_end (h : s.Knows r bytes ts i) (hi : i ≤ s.offset)
    (hclear : s.offset < r.offset ∨ r.offset ≤ i ∨ PartsPair bytes r.offset)
    (hopen : r.linesAfter = 0 → s.covered = false) :
    (s.step r true).1.Knows r bytes
      (ts ++ if s.offset + 1 ≤ r.offset then [⟨i, s.offset + 1⟩] else []) (s.offset + 1) := by
  obtain ⟨c, hstep⟩ := step_fst r true s
  rw [hstep]
  split
  · next hfront => exact (h.lineEnd_front hi hfront i).congr rfl rfl rfl rfl
  · next hbehind =>
    rw [List.append_nil]
    have hclear := hclear.resolve_left hbehind
    exact (h.lineEnd_behind hi (Nat.not_lt.mp hbehind) hclear hopen).congr rfl rfl rfl rfl

theorem Knows.step_byte (h : s.Knows r bytes ts s.offset) :
    (s.step r false).1.Knows r bytes ts (s.offset + 1) := by
  obtain ⟨c, hstep⟩ := step_fst r false s
  rw [hstep]
  exact h.lineByte.congr rfl rfl rfl rfl

/-! ### A run -/

/-- Passing a pair adds its line end to those in front of the span, if it is one of them, -/
theorem Knows.pass_pair {rest : List UInt8} (h : s.Knows r bytes ts s.offset)
    (hopen : r.linesAfter = 0 → s.covered = false)
    (hrest : bytes.drop s.offset = 0x0D :: 0x0A :: rest) :
    ∃ us, passed s.offset (0x0D :: 0x0A :: rest) r.offset =
        us ++ passed (s.offset + 2) rest r.offset ∧
      (s.pass.step r true).1.Knows r bytes (ts ++ us) (s.offset + 2) := by
  have hparts : PartsPair bytes (s.offset + 1) := by
    have hcr : (bytes.drop s.offset)[0]? = some 0x0D := by rw [hrest]; rfl
    have hlf : (bytes.drop s.offset)[1]? = some 0x0A := by rw [hrest]; rfl
    rw [List.getElem?_drop] at hcr hlf
    exact ⟨hlf, s.offset, rfl, hcr⟩
  have hpass : s.pass.Knows r bytes ts s.offset := h.congr rfl rfl rfl rfl
  refine ⟨_, passed_cons_append rfl, hpass.step_end (Nat.le_succ s.offset) ?_ hopen⟩
  rcases Nat.lt_trichotomy (s.offset + 1) r.offset with hlt | heq | hgt
  · exact .inl hlt
  · exact .inr (.inr (heq ▸ hparts))
  · exact .inr (.inl (Nat.le_of_lt_succ hgt))

/-- and so does passing a byte that begins no pair. -/
theorem Knows.pass_byte {b : UInt8} {rest : List UInt8} (h : s.Knows r bytes ts s.offset)
    (hopen : r.linesAfter = 0 → s.covered = false)
    (halone : ∀ rest', b = 0x0D → rest = 0x0A :: rest' → False) :
    ∃ us, passed s.offset (b :: rest) r.offset = us ++ passed (s.offset + 1) rest r.offset ∧
      (s.step r (b == 0x0A || b == 0x0D)).1.Knows r bytes (ts ++ us) (s.offset + 1) := by
  have hstep := terminators.eq_3 s.offset b rest halone
  by_cases hbreak : b = 0x0D ∨ b = 0x0A
  · have hend : (b == 0x0A || b == 0x0D) = true := by simpa using hbreak.symm
    rw [hend]
    rw [if_pos hbreak] at hstep
    refine ⟨_, passed_cons_append hstep, h.step_end (Nat.le_refl s.offset) ?_ hopen⟩
    exact (Nat.lt_or_ge s.offset r.offset).imp_right .inl
  · have hbyte : (b == 0x0A || b == 0x0D) = false := by simpa using fun h => hbreak (Or.symm h)
    rw [hbyte]
    rw [if_neg hbreak] at hstep
    refine ⟨[], ?_, ?_⟩
    · rw [passed, hstep]
      rfl
    · rw [List.append_nil]
      exact h.step_byte

theorem Knows.pass {next : Nat} (h : s.Knows r bytes ts next) (hnext : s.offset + 1 = next) :
    s.pass.Knows r bytes ts s.pass.offset := by
  subst hnext
  exact h.congr rfl rfl rfl rfl

/-- Behind a byte that covers the span no line end counts. -/
theorem Knows.stop {us : List Terminator} {next : Nat} (h : s.Knows r bytes (ts ++ us) next)
    (hnext : s.offset + 1 = next) (hcovered : r.covered ≤ s.offset) (rest : List UInt8) :
    s.pass.Knows r bytes (ts ++ (us ++ passed next rest r.offset)) s.pass.offset := by
  have hle : r.offset ≤ next := by
    have hspan := WindowRequest.covered_le.mp hcovered
    omega
  rw [passed_eq_nil hle, List.append_nil]
  exact h.pass hnext

/-- Up to its end a run has passed all the line ends in front of the span. -/
theorem Knows.run {rest : List UInt8} (h : s.Knows r bytes ts s.offset)
    (hopen : r.linesAfter = 0 → s.covered = false) (hrest : bytes.drop s.offset = rest) :
    (s.run r rest).Knows r bytes (ts ++ passed s.offset rest r.offset) (s.run r rest).offset := by
  fun_induction Scan.run r s rest generalizing ts with
  | case1 s => exact (List.append_nil ts).symm ▸ h
  | case2 s rest t hstep =>
    obtain ⟨us, hpassed, hknows⟩ := h.pass_pair hopen hrest
    have hsteps := steps_step r true s.pass
    rw [hstep] at hknows hsteps
    rw [hpassed]
    exact hknows.stop (congrArg (· + 1) hsteps.offset) (hsteps.offset ▸ hsteps.stops rfl) rest
  | case3 s rest t stop hstep hgo ih =>
    obtain ⟨us, hpassed, hknows⟩ := h.pass_pair hopen hrest
    have hsteps := steps_step r true s.pass
    rw [hstep] at hknows hsteps
    have hnext : t.pass.offset = s.offset + 2 := congrArg (· + 1) hsteps.offset
    rw [hpassed, ← List.append_assoc, ← hnext]
    refine ih (hknows.pass hnext) (fun hnone => ?_) ?_
    · exact hsteps.goesOn (Bool.eq_false_of_not_eq_true hgo) hnone (hopen hnone)
    · rw [hnext, ← List.drop_drop, hrest]
      rfl
  | case4 s b rest halone t hstep =>
    obtain ⟨us, hpassed, hknows⟩ := h.pass_byte hopen halone
    have hsteps := steps_step r (b == 0x0A || b == 0x0D) s
    rw [hstep] at hknows hsteps
    rw [hpassed]
    exact hknows.stop (congrArg (· + 1) hsteps.offset) (hsteps.offset ▸ hsteps.stops rfl) rest
  | case5 s b rest halone t stop hstep hgo ih =>
    obtain ⟨us, hpassed, hknows⟩ := h.pass_byte hopen halone
    have hsteps := steps_step r (b == 0x0A || b == 0x0D) s
    rw [hstep] at hknows hsteps
    have hnext : t.pass.offset = s.offset + 1 := congrArg (· + 1) hsteps.offset
    rw [hpassed, ← List.append_assoc, ← hnext]
    refine ih (hknows.pass hnext) (fun hnone => ?_) ?_
    · exact hsteps.goesOn (Bool.eq_false_of_not_eq_true hgo) hnone (hopen hnone)
    · rw [hnext, ← List.drop_drop, hrest]
      rfl

/-- A run stays inside the bytes, and ends at their end or where the span is covered. -/
theorem run_ends (r : WindowRequest) (s : Scan) (rest : List UInt8) :
    (s.run r rest).offset ≤ s.offset + rest.length ∧
      ((s.run r rest).offset = s.offset + rest.length ∨
        r.offset + r.length ≤ (s.run r rest).offset) := by
  fun_induction Scan.run r s rest with
  | case1 s => exact ⟨Nat.le_refl _, .inl rfl⟩
  | case2 s rest t hstep =>
    have hsteps : Steps r s.pass (t, true) := hstep ▸ steps_step r true s.pass
    have hnext : t.pass.offset = s.offset + 2 := congrArg (· + 1) hsteps.offset
    have hspan : r.offset + r.length ≤ s.offset + 2 :=
      WindowRequest.covered_le.mp (hsteps.stops rfl)
    simp only [List.length_cons]
    omega
  | case3 s rest t stop hstep hgo ih =>
    have hsteps : Steps r s.pass (t, stop) := hstep ▸ steps_step r true s.pass
    have hnext : t.pass.offset = s.offset + 2 := congrArg (· + 1) hsteps.offset
    simp only [List.length_cons]
    omega
  | case4 s b rest halone t hstep =>
    have hsteps : Steps r s (t, true) := hstep ▸ steps_step r (b == 0x0A || b == 0x0D) s
    have hnext : t.pass.offset = s.offset + 1 := congrArg (· + 1) hsteps.offset
    have hspan : r.offset + r.length ≤ s.offset + 1 :=
      WindowRequest.covered_le.mp (hsteps.stops rfl)
    simp only [List.length_cons]
    omega
  | case5 s b rest halone t stop hstep hgo ih =>
    have hsteps : Steps r s (t, stop) := hstep ▸ steps_step r (b == 0x0A || b == 0x0D) s
    have hnext : t.pass.offset = s.offset + 1 := congrArg (· + 1) hsteps.offset
    simp only [List.length_cons]
    omega

/-- The first of the lines kept is the one that as many line ends lead to as are not kept. -/
theorem Knows.first (h : s.Knows r bytes ts i) :
    s.starts.head?.getD (if r.linesBefore = 0 then r.offset else 0) =
      if r.linesBefore = 0 then r.offset else Text.lineStart 0 (ts.take s.line) := by
  have hline := h.line
  rw [h.starts, List.head?_drop]
  rcases Nat.lt_or_ge s.line ts.length with hlt | hge
  · have hwanted : r.linesBefore ≠ 0 := by omega
    rw [getElem?_begins hlt, if_neg hwanted, if_neg hwanted]
    rfl
  · rw [List.getElem?_eq_none (by rw [length_begins]; exact hge), Option.getD_none]
    split
    · rfl
    · have hnone : ts = [] := List.eq_nil_of_length_eq_zero (by omega)
      rw [hnone, List.take_nil]
      rfl

end Scan

/-! ### Windows -/

variable {s : Source} {r : WindowRequest}

/-- What a window shows of a body. -/
structure Window.Shows (s : Source) (r : WindowRequest) (w : Window) : Prop where
  name : w.name = s.name
  /-- The bytes shown are those of the body from where the window begins. -/
  data : ∃ before after, s.bytes = before ++ (w.data ++ after) ∧ before.length = w.offset
  /-- The window begins no later than the span, and reaches to its end or that of the body. -/
  begins : w.offset ≤ r.offset
  reaches : min (r.offset + r.length) s.size ≤ w.offset + w.data.length
  line : w.line + 1 = (s.positionAt w.offset).line
  /-- With lines before the span the window begins where a line does, -/
  wholeLines : 0 < r.linesBefore → (s.positionAt w.offset).column = 1 ∧ w.column = 0
  /-- and with no lines around the span, the column is that of the span. -/
  column : r.linesBefore = 0 → r.linesAfter = 0 → ¬ PartsPair s.bytes r.offset →
    w.column + 1 = (s.positionAt r.offset).column

/-- Where some of the first lines end before an offset, the next one begins. -/
theorem positionAt_lineStart_take {offset : Nat} (h : offset ≤ s.size) (n : Nat) :
    let ts := (passed 0 s.bytes offset).take n
    lineStart 0 ts ≤ offset ∧ s.positionAt (lineStart 0 ts) = ⟨ts.length + 1, 1⟩ := by
  intro ts
  have hle : lineStart 0 ts ≤ offset :=
    lineStart_le fun t ht => stop_le_of_mem_passed t (List.mem_of_mem_take ht)
  have hpassed : passed 0 s.bytes (lineStart 0 ts) = ts :=
    passed_lineStart_of_isPrefix ((List.take_prefix n _).trans (passed_isPrefix 0 s.bytes offset))
  refine ⟨hle, ?_⟩
  rw [positionAt_eq_passed, Nat.min_eq_left (Nat.le_trans hle h), hpassed, Position.after,
    Nat.sub_self, Nat.add_comm]

/-- A window begins no later than the span, and with lines before it where a line does. -/
theorem Scan.Knows.begins {scan : Scan} {i : Nat}
    (hknows : scan.Knows r s.bytes (passed 0 s.bytes r.offset) i) (h : r.offset ≤ s.size) :
    let first := scan.starts.head?.getD (if r.linesBefore = 0 then r.offset else 0)
    first ≤ r.offset ∧ scan.line + 1 = (s.positionAt first).line ∧
      (0 < r.linesBefore → (s.positionAt first).column = 1) := by
  intro first
  have hfirst : first = _ := hknows.first
  have hline := hknows.line
  rcases Nat.eq_zero_or_pos r.linesBefore with hzero | hpos
  · rw [if_pos hzero] at hfirst
    rw [hfirst, positionAt_eq_passed, Nat.min_eq_left h, hline, hzero]
    exact ⟨Nat.le_refl _, Nat.add_comm _ 1, fun hpos => absurd hpos (Nat.lt_irrefl 0)⟩
  · rw [if_neg (Nat.ne_of_gt hpos)] at hfirst
    obtain ⟨hle, hposition⟩ := positionAt_lineStart_take h scan.line
    rw [hfirst, hposition, List.length_take, Nat.min_eq_left (by omega)]
    exact ⟨hle, rfl, fun _ => rfl⟩

/-- The bytes between two offsets stand in the body from the first one on. -/
theorem exists_piece {bytes : List UInt8} {first last : Nat} (h : first ≤ last)
    (hlast : last ≤ bytes.length) :
    let data := (bytes.drop first).take (last - first)
    first + data.length = last ∧
      ∃ before after, bytes = before ++ (data ++ after) ∧ before.length = first := by
  refine ⟨?_, bytes.take first, (bytes.drop first).drop (last - first), ?_, ?_⟩
  · rw [List.length_take, List.length_drop]
    omega
  · rw [List.take_append_drop, List.take_append_drop]
  · exact List.length_take_of_le (Nat.le_trans h hlast)

/-- The scan of a body ends inside it, and in front of its end only behind the span. -/
theorem scan_ends (s : Source) (r : WindowRequest) :
    let scan := Scan.start.run r s.bytes
    scan.offset ≤ s.size ∧ (scan.offset = s.size ∨ r.offset + r.length ≤ scan.offset) := by
  have hsize : s.bytes.length = s.size := length_encode s.chars
  have hends := Scan.run_ends r Scan.start s.bytes
  rw [hsize] at hends
  simpa [Scan.start] using hends

/-- There is a window unless the span goes beyond the body by two bytes or more. -/
theorem isSome_window? (s : Source) (r : WindowRequest) :
    (s.window? r).isSome ↔ r.offset + r.length ≤ s.size + 1 := by
  obtain ⟨hle, hend⟩ := scan_ends s r
  unfold window?
  dsimp only
  split
  · next hshort =>
    have hspan := mt WindowRequest.covered_le.mpr (Nat.not_le.mpr hshort)
    refine iff_of_false Bool.false_ne_true ?_
    omega
  · next hcovered =>
    have hspan := WindowRequest.covered_le.mp (Nat.not_lt.mp hcovered)
    refine iff_of_true rfl ?_
    omega

/-- **Windows and positions number lines alike.** A span that begins in the body has a
window, if it does not go beyond the body by two bytes or more. The window shows a piece of
the body that holds all of the span that is in the body. The line reported is the one that
the window begins on, counted from 0, and so is the column where lines before the span are
shown; where no lines are, it is the column of the span. -/
theorem window?_shows (h : r.offset ≤ s.size) :
    ((s.window? r).isSome ↔ r.offset + r.length ≤ s.size + 1) ∧
      ∀ w, s.window? r = some w → w.Shows s r := by
  refine ⟨isSome_window? s r, fun w hw => ?_⟩
  obtain ⟨hle, hend⟩ := scan_ends s r
  have hknows : Scan.Knows r s.bytes (passed 0 s.bytes r.offset) _ (Scan.start.run r s.bytes) :=
    (Scan.knows_start r s.bytes).run (fun _ => rfl) List.drop_zero
  unfold window? at hw
  generalize Scan.start.run r s.bytes = scan at hle hend hknows hw
  obtain ⟨hbegins, hline, hcolumn⟩ := hknows.begins h
  dsimp only at hw
  generalize scan.starts.head?.getD _ = first at hbegins hline hcolumn hw
  have hsize : s.bytes.length = s.size := length_encode s.chars
  have hfirst : first ≤ scan.offset := by omega
  obtain ⟨hreaches, hdata⟩ := exists_piece hfirst (hsize ▸ hle)
  split at hw
  · cases hw
  · cases hw
    constructor
    case name => rfl
    case data => exact hdata
    case begins => exact hbegins
    case reaches =>
      dsimp only
      omega
    case line => exact hline
    case wholeLines => exact fun hpos => ⟨hcolumn hpos, if_neg (Nat.ne_of_gt hpos)⟩
    case column =>
      intro hbefore hafter hparts
      rw [positionAt_eq_passed, Nat.min_eq_left h]
      simp only [hbefore, if_true]
      rw [hknows.column hafter hparts, Nat.min_eq_right (by omega)]
      rfl

/-- Two lines in front of the span, the first of them behind a pair. -/
theorem window?_shows_afterPair :
    let s := Source.ofBody "a\r\nbc\n\nd"
    let w : Window := ⟨s.name, s.bytes.drop 3, 3, 1, 0, 3⟩
    7 ≤ s.size ∧ s.window? ⟨7, 1, 2, 0⟩ = some w ∧ w.Shows s ⟨7, 1, 2, 0⟩ :=
  ⟨by decide, by decide, (window?_shows (by decide)).2 _ (by decide)⟩

-- Between the bytes of a pair the column stays where the text of the line ends.
example :
    let s := Source.ofBody "a\r\nb"
    ((s.window? ⟨2, 0, 0, 0⟩).map (·.column), (s.positionAt 2).column) = (some 1, 3) := by
  decide

end Source

end GraphQL
