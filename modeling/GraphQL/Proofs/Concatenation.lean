import GraphQL.Proofs.LineNumbers

/-! Positions in a text that is put together from pieces.

What a scan knows of the text behind it is the position it has come to: over the rest it
goes on as if the text began there (`positionFrom_append`), and what follows the rest does
not matter to it (`positionFrom_append_right`). A text that begins at a position has its
own positions behind that one (`positionFrom_behind`). Put together, the position of an
offset in a piece decides its position in the whole.

A seam between a `\r` and a `\n` is the exception (`JoinsPair`): what ended a line in each
piece is one line end in the whole. -/
namespace GraphQL.Text

/-! ### Positions behind positions -/

namespace Position

/-- Where a position of a text is when the text begins at `p`: on the first line the
columns go on from that of `p`, and the lines go on from that of `p`. -/
def behind (p q : Position) : Position :=
  if q.line = 1 then ⟨p.line, p.column + q.column - 1⟩ else ⟨p.line + q.line - 1, q.column⟩

/-- A position as there are in texts: lines and columns are counted from 1. -/
structure Counted (q : Position) : Prop where
  line : 1 ≤ q.line
  column : 1 ≤ q.column

theorem counted_start : start.Counted := ⟨Nat.le_refl 1, Nat.le_refl 1⟩

theorem counted_nextLine (q : Position) : q.nextLine.Counted :=
  ⟨Nat.le_add_left 1 q.line, Nat.le_refl 1⟩

theorem behind_start (p : Position) : p.behind start = p := rfl

namespace Counted

variable {q : Position} (h : q.Counted)
include h

theorem advance (bytes : Nat) : (q.advance bytes).Counted :=
  ⟨h.line, Nat.le_add_right_of_le h.column⟩

theorem behind_advance (p : Position) (bytes : Nat) :
    p.behind (q.advance bytes) = (p.behind q).advance bytes := by
  have hcolumn := h.column
  unfold behind Position.advance
  by_cases hline : q.line = 1
  · simp only [hline, if_true, mk.injEq, true_and]
    omega
  · simp only [hline, if_false]

theorem behind_nextLine (p : Position) : p.behind q.nextLine = (p.behind q).nextLine := by
  have hpos := h.line
  have hlater : q.line + 1 ≠ 1 := by omega
  unfold behind nextLine
  by_cases hline : q.line = 1
  · simp [hline]
  · simp only [hline, hlater, if_false, mk.injEq, and_true]
    omega

end Counted

end Position

/-- A text that begins at a position has its own positions behind that one. -/
theorem positionFrom_behind (p : Position) {q : Position} (h : q.Counted) (text : List Char)
    (offset : Nat) :
    positionFrom (p.behind q) text offset = p.behind (positionFrom q text offset) := by
  fun_induction positionFrom q text offset with
  | case1 q offset => rfl
  | case2 q rest offset hlt => rw [positionFrom, if_pos hlt, h.behind_advance]
  | case3 q rest offset hle ih =>
    rw [positionFrom, if_neg hle, ← h.behind_nextLine, ih q.counted_nextLine]
  | case4 q c rest offset alone hlt =>
    rw [positionFrom.eq_3 _ _ c rest alone, if_pos hlt, h.behind_advance]
  | case5 q c rest offset alone hle hbreak ih =>
    rw [positionFrom.eq_3 _ _ c rest alone, if_neg hle, if_pos hbreak, ← h.behind_nextLine,
      ih q.counted_nextLine]
  | case6 q c rest offset alone hle hbreak ih =>
    rw [positionFrom.eq_3 _ _ c rest alone, if_neg hle, if_neg hbreak, ← h.behind_advance,
      ih (h.advance _)]

/-! ### Seams -/

/-- The last character of one text and the first of the next are one line end. -/
def JoinsPair (a b : List Char) : Prop := a.getLast? = some '\r' ∧ b.head? = some '\n'

instance (a b : List Char) : Decidable (JoinsPair a b) := inferInstanceAs (Decidable (_ ∧ _))

theorem JoinsPair.append {a b : List Char} (h : JoinsPair a b) (front : List Char) :
    JoinsPair (front ++ a) b := by
  refine ⟨?_, h.2⟩
  rw [List.getLast?_append, h.1]
  rfl

section
variable {e text rest : List Char}

/-- A line end stays one, whatever is put behind the text, unless that makes it a pair. -/
theorem LineEnd.append (h : LineEnd e text) (hseam : text = [] → ¬ JoinsPair e rest) :
    LineEnd e (text ++ rest) := by
  cases h with
  | pair => exact .pair _
  | @single c _ hbreak alone =>
    refine .single hbreak fun r hcr hr => ?_
    cases text with
    | nil =>
      have hrest : rest = '\n' :: r := hr
      exact hseam rfl ⟨congrArg some hcr, congrArg List.head? hrest⟩
    | cons d text =>
      obtain ⟨rfl, -⟩ := List.cons.inj hr
      exact alone text hcr rfl

/-! ### Steps of a scan -/

theorem LineEnd.positionFrom_append (h : LineEnd e text) (p : Position) (offset : Nat) :
    positionFrom p (e ++ text) (byteLength e + offset) = positionFrom p.nextLine text offset := by
  cases h with
  | pair =>
    have hsize : byteLength ['\r', '\n'] = 2 := by decide
    rw [hsize, List.cons_append, List.cons_append, List.nil_append, positionFrom,
      if_neg (by omega), Nat.add_sub_cancel_left]
  | @single c _ hbreak alone =>
    have hsize : byteLength [c] = c.utf8Size := rfl
    rw [hsize, List.cons_append, List.nil_append, positionFrom.eq_3 _ _ c text alone,
      if_neg (by omega), if_pos hbreak, Nat.add_sub_cancel_left]

theorem positionFrom_cons {c : Char} (hc : isBreak c = false) (p : Position) (text : List Char)
    (offset : Nat) :
    positionFrom p (c :: text) (c.utf8Size + offset) =
      positionFrom (p.advance c.utf8Size) text offset := by
  have alone : ∀ r, c = '\r' → text = '\n' :: r → False := by
    intro r hcr
    subst hcr
    cases hc
  rw [positionFrom.eq_3 _ _ c text alone, if_neg (by omega), if_neg (by simp [hc]),
    Nat.add_sub_cancel_left]

/-- Nothing behind the character in which a scan stops matters to it. -/
theorem positionFrom_of_lt {c : Char} {offset : Nat} (h : offset < c.utf8Size) (p : Position)
    (text : List Char) : positionFrom p (c :: text) offset = p.advance offset := by
  by_cases hpair : ∃ r, c = '\r' ∧ text = '\n' :: r
  · obtain ⟨r, rfl, rfl⟩ := hpair
    have hsize : offset < 1 := h
    rw [positionFrom, if_pos (by omega)]
  · have alone : ∀ r, c = '\r' → text = '\n' :: r → False := fun r hc hr => hpair ⟨r, hc, hr⟩
    rw [positionFrom.eq_3 _ _ c text alone, if_pos h]

end

/-! ### Scans over seams -/

/-- Over the rest of a text a scan goes on as if the text began where it has come to. -/
theorem positionFrom_append (p : Position) {a b : List Char} (h : ¬ JoinsPair a b) (offset : Nat) :
    positionFrom p (a ++ b) (byteLength a + offset) =
      positionFrom (positionFrom p a (byteLength a)) b offset := by
  -- A line end of `a` is one of the whole, and leads both scans to the next line.
  have hend {e rest : List Char} (he : LineEnd e rest) (h : ¬ JoinsPair (e ++ rest) b)
      (ih : ∀ p, positionFrom p (rest ++ b) (byteLength rest + offset) =
        positionFrom (positionFrom p rest (byteLength rest)) b offset) (p : Position) :
      positionFrom p (e ++ rest ++ b) (byteLength (e ++ rest) + offset) =
        positionFrom (positionFrom p (e ++ rest) (byteLength (e ++ rest))) b offset := by
    have he' : LineEnd e (rest ++ b) := he.append fun hnil hj => h (by simpa [hnil] using hj)
    rw [List.append_assoc, byteLength_append, Nat.add_assoc, he'.positionFrom_append,
      he.positionFrom_append, ih]
  fun_induction lines a generalizing p with
  | case1 => simp [byteLength, positionFrom]
  | case2 rest ih =>
    have hrest : ¬ JoinsPair rest b := fun hj => h (hj.append ['\r', '\n'])
    exact hend (.pair rest) h (fun p => ih p hrest) p
  | case3 c rest alone hbreak ih =>
    have hrest : ¬ JoinsPair rest b := fun hj => h (hj.append [c])
    exact hend (.single hbreak alone) h (fun p => ih p hrest) p
  | case4 c rest alone hbreak ih =>
    have hrest : ¬ JoinsPair rest b := fun hj => h (hj.append [c])
    have hc : isBreak c = false := by simpa using hbreak
    have hzero := positionFrom_cons hc p rest (byteLength rest)
    rw [List.cons_append, byteLength, Nat.add_assoc, positionFrom_cons hc, hzero, ih _ hrest]

/-- What is put behind a text changes no position in it, but for that of its end if a pair
is made there. -/
theorem positionFrom_append_right (p : Position) {b t : List Char} {offset : Nat}
    (hle : offset ≤ byteLength b) (h : offset = byteLength b → ¬ JoinsPair b t) :
    positionFrom p (b ++ t) offset = positionFrom p b offset := by
  fun_induction positionFrom p b offset with
  | case1 p offset =>
    have hzero : offset = 0 := Nat.le_zero.mp hle
    rw [hzero]
    cases t with
    | nil => rfl
    | cons c t => exact positionFrom_of_lt c.utf8Size_pos p t
  | case2 p rest offset hlt => exact if_pos hlt
  | case3 p rest offset hlt ih =>
    have hsize := byteLength_pair rest
    have hend := ih (by omega) fun hrest hj => h (by omega) (hj.append ['\r', '\n'])
    exact (if_neg hlt).trans hend
  | case4 p c rest offset alone hlt => exact positionFrom_of_lt hlt p (rest ++ t)
  | case5 p c rest offset alone hlt hbreak ih =>
    simp only [byteLength] at hle h
    obtain ⟨n, rfl⟩ := Nat.exists_eq_add_of_le (Nat.not_lt.mp hlt)
    rw [Nat.add_sub_cancel_left] at ih ⊢
    have he : LineEnd [c] (rest ++ t) := (LineEnd.single hbreak alone).append fun hnil => by
      subst hnil
      exact h (by simp only [byteLength] at hle ⊢; omega)
    have hend := ih (by omega) fun hrest hj => h (by omega) (hj.append [c])
    exact (he.positionFrom_append p n).trans hend
  | case6 p c rest offset alone hlt hbreak ih =>
    simp only [byteLength] at hle h
    obtain ⟨n, rfl⟩ := Nat.exists_eq_add_of_le (Nat.not_lt.mp hlt)
    rw [Nat.add_sub_cancel_left] at ih ⊢
    have hline := ih (by omega) fun hrest hj => h (by omega) (hj.append [c])
    exact (positionFrom_cons (by simpa using hbreak) p (rest ++ t) n).trans hline

/-- A pair that is made at the end of a text takes back the line that began there. -/
theorem positionFrom_joinsPair (p : Position) {b t : List Char} (h : JoinsPair b t) :
    positionFrom p (b ++ t) (byteLength b) ≠ positionFrom p b (byteLength b) := by
  obtain ⟨hb, ht⟩ := h
  obtain ⟨front, rfl⟩ := List.getLast?_eq_some_iff.mp hb
  obtain ⟨rest, rfl⟩ := List.head?_eq_some_iff.mp ht
  have hseam (r : List Char) : ¬ JoinsPair front ('\r' :: r) := by simp [JoinsPair]
  generalize hq : positionFrom p front (byteLength front) = q
  have hpair : positionFrom p (front ++ ['\r'] ++ '\n' :: rest) (byteLength (front ++ ['\r'])) =
      q.advance 1 := by
    rw [byteLength_append, List.append_assoc, List.singleton_append,
      positionFrom_append p (hseam _), hq]
    rfl
  have hsingle : positionFrom p (front ++ ['\r']) (byteLength (front ++ ['\r'])) = q.nextLine := by
    rw [byteLength_append, positionFrom_append p (hseam []), hq]
    rfl
  rw [hpair, hsingle]
  intro heq
  exact Nat.succ_ne_self q.line (congrArg Position.line heq).symm

end GraphQL.Text

namespace GraphQL

open Text

namespace Source

variable (p b t : Source) (name : String)

/-- **A position in a piece is behind that of the end of what stands in front.** This is so
unless a pair is made at the seam in front of the piece, or at one right behind the offset;
and only a pair made there lets what follows an offset change its position. -/
theorem positionAt_append {offset : Nat} (h : offset ≤ b.size) :
    (¬ JoinsPair p.chars (b.chars ++ t.chars) → ¬ (offset = b.size ∧ JoinsPair b.chars t.chars) →
      (Source.mk (p.body ++ b.body ++ t.body) name).positionAt (p.size + offset) =
        (p.positionAt p.size).behind (b.positionAt offset)) ∧
      ((Source.mk (b.body ++ t.body) name).positionAt offset = b.positionAt offset ↔
        ¬ (offset = b.size ∧ JoinsPair b.chars t.chars)) := by
  have hright (q : Position) (hend : ¬ (offset = b.size ∧ JoinsPair b.chars t.chars)) :
      positionFrom q (b.chars ++ t.chars) offset = positionFrom q b.chars offset :=
    positionFrom_append_right q h fun ho hj => hend ⟨ho, hj⟩
  have htwo : (Source.mk (b.body ++ t.body) name).positionAt offset =
      positionFrom .start (b.chars ++ t.chars) offset := by
    simp only [positionAt, Text.positionAt, chars, String.toList_append]
  constructor
  · intro hseam hend
    calc (Source.mk (p.body ++ b.body ++ t.body) name).positionAt (p.size + offset)
        = positionFrom .start (p.chars ++ (b.chars ++ t.chars)) (byteLength p.chars + offset) := by
          simp only [positionAt, Text.positionAt, chars, size, String.toList_append,
            List.append_assoc]
      _ = positionFrom (p.positionAt p.size) (b.chars ++ t.chars) offset :=
          positionFrom_append .start hseam offset
      _ = positionFrom (p.positionAt p.size) b.chars offset := hright _ hend
      _ = positionFrom ((p.positionAt p.size).behind .start) b.chars offset := by
          rw [Position.behind_start]
      _ = (p.positionAt p.size).behind (b.positionAt offset) :=
          positionFrom_behind _ Position.counted_start b.chars offset
  · rw [htwo]
    constructor
    · intro heq hend
      obtain ⟨rfl, hj⟩ := hend
      exact positionFrom_joinsPair .start hj heq
    · exact hright .start

/-- A piece with a pair, between a line end and another pair. -/
theorem positionAt_append_pairs :
    let p : Source := ⟨"a\n", "p"⟩
    let b : Source := ⟨"é\r\nbc", "b"⟩
    let t : Source := ⟨"\r\n", "t"⟩
    5 ≤ b.size ∧ ¬ JoinsPair p.chars (b.chars ++ t.chars) ∧
      ¬ (5 = b.size ∧ JoinsPair b.chars t.chars) ∧
      (Source.mk (p.body ++ b.body ++ t.body) "whole").positionAt (p.size + 5) = ⟨3, 2⟩ := by
  intro p b t
  have hsize : 5 ≤ b.size := by decide
  have hseam : ¬ JoinsPair p.chars (b.chars ++ t.chars) := by decide
  have hend : ¬ (5 = b.size ∧ JoinsPair b.chars t.chars) := by decide
  have happend := (positionAt_append p b t "whole" hsize).1 hseam hend
  exact ⟨hsize, hseam, hend, happend.trans (by decide)⟩

end Source

end GraphQL
