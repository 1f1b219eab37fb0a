import GraphQL.Proofs.LineNumbers
import GraphQL.Source.Window

/-! The line ends among the bytes of a text, and the position of an offset.

`terminators` finds the line ends from left to right: the pairs, and every `\r` and `\n`
that is no part of one (`mem_terminators`). An offset is on the line that begins after
those passed whole, and its column counts the bytes from there (`Position.after`).

Two ways to a position come to that. `positionFrom` goes over characters, and a line end
among these is one among their bytes (`counts_positionFrom`). `walk?` goes over the bytes
by their index; it would give up on an index behind the last byte or on a line that
begins behind the offset, and does neither (`walk?_eq`). -/
namespace GraphQL.Text

/-! ### Line ends among bytes -/

/-- The bytes that a line end takes up, from `start` on and up to `stop`. -/
structure Terminator where
  start : Nat
  stop : Nat
deriving DecidableEq, Repr

/-- The line ends among some bytes, the first of which has offset `i`. -/
def terminators (i : Nat) : List UInt8 → List Terminator
  | [] => []
  | 0x0D :: 0x0A :: rest => ⟨i, i + 2⟩ :: terminators (i + 2) rest
  | b :: rest =>
    if b = 0x0D ∨ b = 0x0A then ⟨i, i + 1⟩ :: terminators (i + 1) rest
    else terminators (i + 1) rest

/-- Where the line end stops that begins with the byte `b` at an index, if one does. -/
def terminatorEnd? (bytes : List UInt8) (i : Nat) (b : UInt8) : Option Nat :=
  if b = 0x0D ∧ bytes[i + 1]? = some 0x0A then some (i + 2)
  else if b = 0x0D ∨ b = 0x0A then some (i + 1)
  else none

/-- Where the search goes on from an index with the byte `b`. -/
def afterByte (bytes : List UInt8) (i : Nat) (b : UInt8) : Nat :=
  (terminatorEnd? bytes i b).getD (i + 1)

theorem lt_terminatorEnd? {bytes : List UInt8} {i stop : Nat} {b : UInt8}
    (h : terminatorEnd? bytes i b = some stop) : i < stop := by
  unfold terminatorEnd? at h
  split at h
  · cases h
    omega
  · split at h <;> cases h
    omega

theorem lt_afterByte (bytes : List UInt8) (i : Nat) (b : UInt8) : i < afterByte bytes i b := by
  unfold afterByte
  cases h : terminatorEnd? bytes i b with
  | none => exact Nat.lt_succ_self i
  | some stop => exact lt_terminatorEnd? h

/-- From an index on there are the line end that begins there, if one does, and those
from where the search goes on. -/
theorem terminators_drop {bytes : List UInt8} {i : Nat} {b : UInt8} (h : bytes[i]? = some b) :
    terminators i (bytes.drop i) =
      ((terminatorEnd? bytes i b).map (Terminator.mk i)).toList ++
        terminators (afterByte bytes i b) (bytes.drop (afterByte bytes i b)) := by
  obtain ⟨hlt, hb⟩ := List.getElem?_eq_some_iff.mp h
  have hdrop : bytes.drop i = b :: bytes.drop (i + 1) := by
    rw [List.drop_eq_getElem_cons hlt, hb]
  unfold afterByte terminatorEnd?
  by_cases hpair : b = 0x0D ∧ bytes[i + 1]? = some 0x0A
  · obtain ⟨rfl, hnext⟩ := hpair
    obtain ⟨hlt', hnext'⟩ := List.getElem?_eq_some_iff.mp hnext
    rw [if_pos ⟨rfl, hnext⟩, hdrop, List.drop_eq_getElem_cons hlt', hnext']
    rfl
  · have halone : ∀ rest, b = 0x0D → bytes.drop (i + 1) = 0x0A :: rest → False := by
      intro rest hcr hrest
      apply hpair
      rw [← List.head?_drop, hrest]
      exact ⟨hcr, rfl⟩
    rw [if_neg hpair, hdrop, terminators.eq_3 i b _ halone]
    split <;> rfl

theorem terminators_drop_none {bytes : List UInt8} {i : Nat} {b : UInt8}
    (hb : bytes[i]? = some b) (hstop : terminatorEnd? bytes i b = none) :
    terminators i (bytes.drop i) = terminators (i + 1) (bytes.drop (i + 1)) := by
  rw [terminators_drop hb, afterByte, hstop]
  rfl

theorem terminators_drop_some {bytes : List UInt8} {i stop : Nat} {b : UInt8}
    (hb : bytes[i]? = some b) (hstop : terminatorEnd? bytes i b = some stop) :
    terminators i (bytes.drop i) = ⟨i, stop⟩ :: terminators stop (bytes.drop stop) := by
  rw [terminators_drop hb, afterByte, hstop]
  rfl

theorem le_start_of_mem {i : Nat} {bytes : List UInt8} :
    ∀ t ∈ terminators i bytes, i ≤ t.start ∧ t.start < t.stop := by
  have hnext {i n : Nat} {ts : List Terminator} (h : ∀ t ∈ ts, i + n ≤ t.start ∧ t.start < t.stop) :
      ∀ t ∈ ts, i ≤ t.start ∧ t.start < t.stop :=
    fun t ht => ⟨Nat.le_trans (Nat.le_add_right i n) (h t ht).1, (h t ht).2⟩
  fun_induction terminators i bytes with
  | case1 => simp
  | case2 i rest ih => exact List.forall_mem_cons.mpr ⟨⟨Nat.le_refl i, by simp⟩, hnext ih⟩
  | case3 i b rest _ _ ih => exact List.forall_mem_cons.mpr ⟨⟨Nat.le_refl i, by simp⟩, hnext ih⟩
  | case4 i b rest _ _ ih => exact hnext ih

/-- The line ends are found in order, and none overlaps the next. -/
theorem pairwise_terminators (i : Nat) (bytes : List UInt8) :
    (terminators i bytes).Pairwise fun t u => t.stop ≤ u.start := by
  fun_induction terminators i bytes with
  | case1 => exact .nil
  | case2 i rest ih => exact .cons (fun t ht => (le_start_of_mem t ht).1) ih
  | case3 i b rest _ _ ih => exact .cons (fun t ht => (le_start_of_mem t ht).1) ih
  | case4 i b rest _ _ ih => exact ih

/-- A line end is a pair, a `\r` that no `\n` follows, or a `\n` that follows no `\r`. -/
inductive IsTerminator (bytes : List UInt8) : Terminator → Prop
  | pair {i : Nat} (cr : bytes[i]? = some 0x0D) (lf : bytes[i + 1]? = some 0x0A) :
      IsTerminator bytes ⟨i, i + 2⟩
  | cr {i : Nat} (cr : bytes[i]? = some 0x0D) (alone : bytes[i + 1]? ≠ some 0x0A) :
      IsTerminator bytes ⟨i, i + 1⟩
  | lf {i : Nat} (lf : bytes[i]? = some 0x0A) (alone : ∀ j, j + 1 = i → bytes[j]? ≠ some 0x0D) :
      IsTerminator bytes ⟨i, i + 1⟩

/-- Behind the `\r` of a pair and in front of its `\n`. -/
def PartsPair (bytes : List UInt8) (i : Nat) : Prop :=
  bytes[i]? = some 0x0A ∧ ∃ j, j + 1 = i ∧ bytes[j]? = some 0x0D

/-- A line end begins wherever one can be read, but for the second byte of a pair. -/
theorem isTerminator_iff {bytes : List UInt8} {t : Terminator} :
    IsTerminator bytes t ↔ ¬ PartsPair bytes t.start ∧
      ∃ b, bytes[t.start]? = some b ∧ terminatorEnd? bytes t.start b = some t.stop := by
  constructor
  · intro h
    cases h with
    | pair cr lf => simp [PartsPair, terminatorEnd?, cr, lf]
    | cr cr alone => simp [PartsPair, terminatorEnd?, cr, alone]
    | lf lf alone =>
      refine ⟨fun ⟨_, j, hj, hcr⟩ => alone j hj hcr, 0x0A, lf, ?_⟩
      simp [terminatorEnd?]
  · intro h
    obtain ⟨i, stop⟩ := t
    obtain ⟨hparts, b, hb, hstop⟩ := h
    simp only at hparts hb hstop
    unfold terminatorEnd? at hstop
    split at hstop
    · next hpair =>
      cases hstop
      exact .pair (hpair.1 ▸ hb) hpair.2
    · next hpair =>
      split at hstop
      · next hbreak =>
        cases hstop
        rcases hbreak with rfl | rfl
        · exact .cr hb fun hlf => hpair ⟨rfl, hlf⟩
        · exact .lf hb fun j hj hcr => hparts ⟨hb, j, hj, hcr⟩
      · cases hstop

section
variable {bytes : List UInt8} {i : Nat} {b : UInt8} (h : bytes[i]? = some b)
include h

/-- The search never goes on between the two bytes of a pair, -/
theorem not_partsPair_afterByte : ¬ PartsPair bytes (afterByte bytes i b) := by
  intro hparts
  obtain ⟨hlf, j, hj, hcr⟩ := hparts
  unfold afterByte terminatorEnd? at hlf hj
  by_cases hpair : b = 0x0D ∧ bytes[i + 1]? = some 0x0A
  · rw [if_pos hpair] at hj
    have hji : j = i + 1 := by simpa using hj
    rw [hji, hpair.2] at hcr
    cases hcr
  · have hstep : (if b = 0x0D ∨ b = 0x0A then some (i + 1) else none).getD (i + 1) = i + 1 := by
      split <;> rfl
    rw [if_neg hpair, hstep] at hlf hj
    have hji : j = i := by omega
    rw [hji, h] at hcr
    exact hpair ⟨Option.some.inj hcr, hlf⟩

/-- and skips nothing else. -/
theorem partsPair_of_lt_afterByte {j : Nat} (hij : i < j) (hj : j < afterByte bytes i b) :
    PartsPair bytes j := by
  unfold afterByte terminatorEnd? at hj
  by_cases hpair : b = 0x0D ∧ bytes[i + 1]? = some 0x0A
  · rw [if_pos hpair, Option.getD_some] at hj
    have hji : j = i + 1 := by omega
    exact ⟨hji ▸ hpair.2, i, hji.symm, hpair.1 ▸ h⟩
  · rw [if_neg hpair] at hj
    split at hj <;> simp only [Option.getD_some, Option.getD_none] at hj <;> omega

end

/-- The line ends found from an index on are all there are from there on. -/
theorem mem_terminators_drop {bytes : List UInt8} {t : Terminator} (i : Nat)
    (hparts : ¬ PartsPair bytes i) :
    t ∈ terminators i (bytes.drop i) ↔ i ≤ t.start ∧ IsTerminator bytes t := by
  -- The search passes a pair in one step, so the induction is on how many bytes are left.
  induction hn : bytes.length - i using Nat.strongRecOn generalizing i with
  | ind n ih =>
    cases h : bytes[i]? with
    | none =>
      have hle : bytes.length ≤ i := List.getElem?_eq_none_iff.mp h
      rw [List.drop_eq_nil_of_le hle, isTerminator_iff]
      refine iff_of_false List.not_mem_nil fun ht => ?_
      obtain ⟨hi, -, b, hb, -⟩ := ht
      rw [List.getElem?_eq_none (Nat.le_trans hle hi)] at hb
      cases hb
    | some b =>
      have hlt : i < bytes.length := (List.getElem?_eq_some_iff.mp h).1
      have hnext := lt_afterByte bytes i b
      have hrest := ih _ (by omega) (afterByte bytes i b) (not_partsPair_afterByte h) rfl
      have hhere (hi : t.start = i) :
          IsTerminator bytes t ↔ terminatorEnd? bytes i b = some t.stop := by
        rw [isTerminator_iff, hi, h]
        simp [hparts]
      have hlater (ht : IsTerminator bytes t) (hi : i < t.start) : afterByte bytes i b ≤ t.start :=
        Nat.not_lt.mp fun hj => (isTerminator_iff.mp ht).1 (partsPair_of_lt_afterByte h hi hj)
      have hsplit : t ∈ terminators i (bytes.drop i) ↔
          (t.start = i ∧ terminatorEnd? bytes i b = some t.stop) ∨
            t ∈ terminators (afterByte bytes i b) (bytes.drop (afterByte bytes i b)) := by
        obtain ⟨start, stop⟩ := t
        rw [terminators_drop h, List.mem_append, Option.mem_toList]
        simp only [Option.map_eq_some_iff, Terminator.mk.injEq]
        refine or_congr_left ⟨fun ht => ?_, fun ht => ⟨stop, ht.2, ht.1.symm, rfl⟩⟩
        obtain ⟨_, hstop, hi, rfl⟩ := ht
        exact ⟨hi.symm, hstop⟩
      rw [hsplit, hrest]
      constructor
      · intro ht
        rcases ht with ⟨hi, hstop⟩ | ⟨hi, ht⟩
        · exact ⟨Nat.le_of_eq hi.symm, (hhere hi).mpr hstop⟩
        · exact ⟨by omega, ht⟩
      · intro ht
        rcases Nat.lt_or_eq_of_le ht.1 with hi | hi
        · exact .inr ⟨hlater ht.2 hi, ht.2⟩
        · exact .inl ⟨hi.symm, (hhere hi.symm).mp ht.2⟩

theorem mem_terminators {bytes : List UInt8} {t : Terminator} :
    t ∈ terminators 0 bytes ↔ IsTerminator bytes t := by
  have hparts : ¬ PartsPair bytes 0 := by
    rintro ⟨-, j, hj, -⟩
    omega
  simpa using mem_terminators_drop (t := t) 0 hparts

/-! ### Positions counted by line ends -/

/-- The line ends that have been passed whole at an offset; the first byte has offset `i`. -/
def passed (i : Nat) (bytes : List UInt8) (offset : Nat) : List Terminator :=
  (terminators i bytes).filter (·.stop ≤ offset)

/-- Where the line begins that some line ends lead to, from a line that began at `begun`. -/
def lineStart (begun : Nat) (ts : List Terminator) : Nat := (ts.getLast?.map (·.stop)).getD begun

/-- The position of an offset on the line that some line ends lead to. -/
def Position.after (line begun : Nat) (ts : List Terminator) (offset : Nat) : Position :=
  ⟨line + ts.length, offset - lineStart begun ts + 1⟩

theorem Position.after_cons (line begun : Nat) (t : Terminator) (ts : List Terminator)
    (offset : Nat) : after line begun (t :: ts) offset = after (line + 1) t.stop ts offset := by
  have hlength : line + (t :: ts).length = line + 1 + ts.length := by
    rw [List.length_cons]
    omega
  have hstart : lineStart begun (t :: ts) = lineStart t.stop ts := by
    rw [lineStart, lineStart, List.getLast?_cons]
    cases ts.getLast? <;> rfl
  rw [after, after, hlength, hstart]

theorem passed_eq_nil {i offset : Nat} (h : offset ≤ i) (bytes : List UInt8) :
    passed i bytes offset = [] := by
  refine List.filter_eq_nil_iff.mpr fun t ht => ?_
  obtain ⟨hstart, hstop⟩ := le_start_of_mem t ht
  simp only [decide_eq_true_eq]
  omega

/-- A line end in front counts if it is passed whole, and otherwise none behind it does. -/
theorem passed_cons {i stop offset : Nat} {bytes rest : List UInt8}
    (h : terminators i bytes = ⟨i, stop⟩ :: terminators stop rest) :
    passed i bytes offset = if stop ≤ offset then ⟨i, stop⟩ :: passed stop rest offset else [] := by
  rw [passed, h, List.filter_cons]
  by_cases hle : stop ≤ offset
  · rw [if_pos hle, if_pos (decide_eq_true hle)]
    rfl
  · rw [if_neg hle, if_neg (by simpa using hle)]
    exact passed_eq_nil (Nat.le_of_not_le hle) rest

/-- A line does not begin beyond an offset that no line end goes beyond. -/
theorem lineStart_le {ts : List Terminator} {offset : Nat} (h : ∀ t ∈ ts, t.stop ≤ offset) :
    lineStart 0 ts ≤ offset := by
  unfold lineStart
  cases hlast : ts.getLast? with
  | none => exact Nat.zero_le offset
  | some last => exact h last (List.mem_of_getLast? hlast)

theorem stop_le_of_mem_passed {i offset : Nat} {bytes : List UInt8} :
    ∀ t ∈ passed i bytes offset, t.stop ≤ offset :=
  fun _ ht => of_decide_eq_true (List.mem_filter.mp ht).2

theorem lineStart_passed_le (bytes : List UInt8) (offset : Nat) :
    lineStart 0 (passed 0 bytes offset) ≤ offset :=
  lineStart_le stop_le_of_mem_passed

/-- The line ends passed are the first ones. -/
theorem passed_isPrefix (i : Nat) (bytes : List UInt8) (offset : Nat) :
    passed i bytes offset <+: terminators i bytes := by
  have hcons {t : Terminator} {ts us : List Terminator} (h : ts <+: us) (p : Prop) [Decidable p] :
      (if p then t :: ts else []) <+: t :: us := by
    split
    · exact (List.prefix_cons_inj t).mpr h
    · exact List.nil_prefix
  fun_induction terminators i bytes with
  | case1 => exact List.prefix_rfl
  | case2 i rest ih =>
    have hstep : terminators i (0x0D :: 0x0A :: rest) = ⟨i, i + 2⟩ :: terminators (i + 2) rest :=
      rfl
    rw [passed_cons hstep]
    exact hcons ih _
  | case3 i b rest alone hbreak ih =>
    have hstep := (terminators.eq_3 i b rest alone).trans (if_pos hbreak)
    rw [passed_cons hstep]
    exact hcons ih _
  | case4 i b rest alone hbreak ih =>
    have hstep := (terminators.eq_3 i b rest alone).trans (if_neg hbreak)
    rw [passed, hstep]
    exact ih

/-- Of line ends in order the last stops last. -/
theorem stop_le_lineStart {ts : List Terminator} (h : ts.Pairwise fun t u => t.stop ≤ u.start)
    (hlt : ∀ t ∈ ts, t.start < t.stop) : ∀ t ∈ ts, t.stop ≤ lineStart 0 ts := by
  intro t ht
  obtain ⟨last, hlast⟩ : ∃ last, ts.getLast? = some last :=
    Option.isSome_iff_exists.mp (List.getLast?_isSome.mpr (List.ne_nil_of_mem ht))
  obtain ⟨front, rfl⟩ := List.getLast?_eq_some_iff.mp hlast
  rw [lineStart, hlast]
  rcases List.mem_append.mp ht with ht | ht
  · have hle := (List.pairwise_append.mp h).2.2 t ht last (List.mem_singleton_self last)
    exact Nat.le_trans hle (Nat.le_of_lt (hlt last List.mem_concat_self))
  · rw [List.mem_singleton.mp ht]
    exact Nat.le_refl last.stop

/-- Where some of the first line ends lead to, just these have been passed. -/
theorem passed_lineStart_of_isPrefix {bytes : List UInt8} {ts : List Terminator}
    (h : ts <+: terminators 0 bytes) : passed 0 bytes (lineStart 0 ts) = ts := by
  obtain ⟨later, hsplit⟩ := h
  have hpairwise := pairwise_terminators 0 bytes
  have hlt : ∀ t ∈ terminators 0 bytes, t.start < t.stop := fun t ht => (le_start_of_mem t ht).2
  rw [← hsplit] at hpairwise hlt
  obtain ⟨hfront, -, hlater⟩ := List.pairwise_append.mp hpairwise
  have hkept : ∀ t ∈ ts, t.stop ≤ lineStart 0 ts :=
    stop_le_lineStart hfront fun t ht => hlt t (List.mem_append_left later ht)
  have hdropped : ∀ t ∈ later, lineStart 0 ts < t.stop := fun t ht =>
    Nat.lt_of_le_of_lt (lineStart_le fun u hu => hlater u hu t ht)
      (hlt t (List.mem_append_right ts ht))
  rw [passed, ← hsplit, List.filter_append,
    List.filter_eq_self.mpr fun t ht => decide_eq_true (hkept t ht),
    List.filter_eq_nil_iff.mpr fun t ht => by simpa using hdropped t ht, List.append_nil]

/-! ### Going over the characters -/

/-- A byte below 0x80 stands for nothing but its own character. -/
theorem toNat_of_mem_utf8EncodeChar {c : Char} {b : UInt8} (hb : b ∈ String.utf8EncodeChar c)
    (hlt : b.toNat < 0x80) : c.toNat = b.toNat := by
  have hc : c.val.toNat = c.toNat := rfl
  simp only [String.utf8EncodeChar, hc] at hb
  split at hb
  · simp only [List.mem_singleton] at hb
    rw [hb, UInt8.toNat_ofNat']
    omega
  · split at hb
    · simp only [List.mem_cons, List.not_mem_nil, or_false] at hb
      rcases hb with rfl | rfl <;> rw [UInt8.toNat_ofNat'] at hlt <;> omega
    · split at hb <;> simp only [List.mem_cons, List.not_mem_nil, or_false] at hb
      · rcases hb with rfl | rfl | rfl <;> rw [UInt8.toNat_ofNat'] at hlt <;> omega
      · rcases hb with rfl | rfl | rfl | rfl <;> rw [UInt8.toNat_ofNat'] at hlt <;> omega

theorem eq_of_mem_utf8EncodeChar {c d : Char} {b : UInt8} (hb : b ∈ String.utf8EncodeChar c)
    (hd : d.toNat = b.toNat) (hlt : b.toNat < 0x80) : c = d :=
  Char.toNat_inj.mp ((toNat_of_mem_utf8EncodeChar hb hlt).trans hd.symm)

/-- No byte of a character that ends no line looks like a line end. -/
theorem ne_break_of_mem {c : Char} (h : isBreak c = false) :
    ∀ b ∈ String.utf8EncodeChar c, b ≠ 0x0D ∧ b ≠ 0x0A := by
  intro b hb
  constructor
  · rintro rfl
    have hc : c = '\r' := eq_of_mem_utf8EncodeChar hb (by decide) (by decide)
    rw [hc] at h
    cases h
  · rintro rfl
    have hc : c = '\n' := eq_of_mem_utf8EncodeChar hb (by decide) (by decide)
    rw [hc] at h
    cases h

/-- Bytes that look like no line end may be skipped. -/
theorem terminators_append {front : List UInt8} (h : ∀ b ∈ front, b ≠ 0x0D ∧ b ≠ 0x0A) (i : Nat)
    (rest : List UInt8) : terminators i (front ++ rest) = terminators (i + front.length) rest := by
  induction front generalizing i with
  | nil => rfl
  | cons b front ih =>
    obtain ⟨⟨hcr, hlf⟩, hfront⟩ := List.forall_mem_cons.mp h
    rw [List.cons_append, terminators.eq_3 i b _ fun _ hb _ => hcr hb, if_neg (by simp [hcr, hlf]),
      ih hfront, List.length_cons, Nat.add_assoc, Nat.add_comm 1]

/-- The bytes of a text. -/
def encode (text : List Char) : List UInt8 := text.flatMap String.utf8EncodeChar

theorem length_encode (text : List Char) : (encode text).length = byteLength text := by
  induction text with
  | nil => rfl
  | cons c rest ih =>
    rw [encode, List.flatMap_cons, List.length_append, String.length_utf8EncodeChar, byteLength,
      ← ih]
    rfl

theorem terminators_encode_cons {c : Char} (h : isBreak c = false) (i : Nat) (text : List Char) :
    terminators i (encode (c :: text)) = terminators (i + c.utf8Size) (encode text) := by
  rw [encode, List.flatMap_cons, terminators_append (ne_break_of_mem h),
    String.length_utf8EncodeChar]
  rfl

/-- A text whose bytes begin with that of `\n` begins with it. -/
theorem eq_cons_of_encode {text : List Char} {bytes : List UInt8}
    (h : encode text = 0x0A :: bytes) : ∃ rest, text = '\n' :: rest := by
  cases text with
  | nil => cases h
  | cons c rest =>
    rw [encode, List.flatMap_cons] at h
    have hsize := c.utf8Size_pos
    rw [← String.length_utf8EncodeChar] at hsize
    have hb : 0x0A ∈ String.utf8EncodeChar c := by
      obtain ⟨b, bs, hc⟩ := List.exists_cons_of_length_pos hsize
      rw [hc, List.cons_append] at h
      rw [hc, (List.cons.inj h).1]
      exact List.mem_cons_self ..
    exact ⟨rest, by rw [eq_of_mem_utf8EncodeChar (d := '\n') hb (by decide) (by decide)]⟩

/-- A line end in front of a text, pair or not, is one in front of its bytes. -/
theorem LineEnd.terminators_encode {e text : List Char} (h : LineEnd e text) (i : Nat) :
    terminators i (encode (e ++ text)) =
      ⟨i, i + byteLength e⟩ :: terminators (i + byteLength e) (encode text) := by
  cases h with
  | pair => rfl
  | @single c _ hbreak alone =>
    have hc : c = '\n' ∨ c = '\r' := by simpa [isBreak] using hbreak
    have halone : ∀ bytes, c = '\r' → encode text = 0x0A :: bytes → False := by
      intro bytes hcr hbytes
      obtain ⟨rest, hrest⟩ := eq_cons_of_encode hbytes
      exact alone rest hcr hrest
    rcases hc with rfl | rfl
    · rfl
    · exact terminators.eq_3 i 0x0D (encode text) fun bytes _ => halone bytes rfl

theorem passed_encode_cons {c : Char} (h : isBreak c = false) (i : Nat) (text : List Char)
    (offset : Nat) :
    passed i (encode (c :: text)) offset = passed (i + c.utf8Size) (encode text) offset := by
  rw [passed, passed, terminators_encode_cons h]

theorem LineEnd.passed_encode {e text : List Char} (h : LineEnd e text) (i offset : Nat) :
    passed i (encode (e ++ text)) offset =
      if i + byteLength e ≤ offset then
        ⟨i, i + byteLength e⟩ :: passed (i + byteLength e) (encode text) offset
      else [] := passed_cons (h.terminators_encode i)

/-- A position counts the line ends of a text that begins at offset `i`, on a line that
began at `begun`: from `p` over `bytes` bytes to `q`. -/
def Counts (p : Position) (begun i : Nat) (text : List Char) (bytes : Nat) (q : Position) : Prop :=
  q = .after p.line begun (passed i (encode text) (i + bytes)) (i + bytes)

namespace Counts

variable {p q : Position} {begun i bytes : Nat} {text : List Char}

/-- No line end is passed, and the column counts on. -/
theorem stop (hbegun : begun ≤ i) (hcolumn : p.column = i - begun + 1)
    (hpassed : passed i (encode text) (i + bytes) = []) :
    Counts p begun i text bytes (p.advance bytes) := by
  have hsum : p.column + bytes = i + bytes - begun + 1 := by omega
  rw [Counts, hpassed, Position.advance, hsum]
  rfl

/-- A line end is passed. -/
theorem lineEnd {e : List Char} (he : LineEnd e text)
    (h : Counts p.nextLine (i + byteLength e) (i + byteLength e) text bytes q) :
    Counts p begun i (e ++ text) (byteLength e + bytes) q := by
  have hle : i + byteLength e ≤ i + (byteLength e + bytes) := by omega
  rw [Counts, he.passed_encode, if_pos hle, Position.after_cons, ← Nat.add_assoc]
  exact h

/-- A character of the line is passed. -/
theorem inLine {c : Char} (hc : isBreak c = false)
    (h : Counts (p.advance c.utf8Size) begun (i + c.utf8Size) text bytes q) :
    Counts p begun i (c :: text) (c.utf8Size + bytes) q := by
  rw [Counts, passed_encode_cons hc, ← Nat.add_assoc]
  exact h

end Counts

/-- A scan over characters counts the line ends among their bytes. -/
theorem counts_positionFrom {p : Position} {text : List Char} {offset i begun : Nat}
    (hbegun : begun ≤ i) (hcolumn : p.column = i - begun + 1) :
    Counts p begun i text (min offset (byteLength text)) (positionFrom p text offset) := by
  fun_induction positionFrom p text offset generalizing i begun with
  | case1 p offset =>
    have hmin : min offset (byteLength []) = 0 := Nat.min_zero offset
    rw [hmin]
    exact .stop hbegun hcolumn rfl
  | case2 p rest offset hlt =>
    have hsize := byteLength_pair rest
    rw [Nat.min_eq_left (by omega)]
    refine .stop hbegun hcolumn (((LineEnd.pair rest).passed_encode i _).trans (if_neg ?_))
    exact Nat.not_le.mpr (Nat.add_lt_add_left hlt i)
  | case3 p rest offset hle ih =>
    have hpassed : byteLength ['\r', '\n'] ≤ offset := Nat.not_lt.mp hle
    have hmin := min_byteLength_append hpassed rest
    refine hmin ▸ .lineEnd (.pair rest) (ih (Nat.le_refl _) ?_)
    rw [Nat.sub_self]
    rfl
  | case4 p c rest offset alone hlt =>
    have hmin : min offset (byteLength (c :: rest)) = offset :=
      Nat.min_eq_left (Nat.le_add_right_of_le (Nat.le_of_lt hlt))
    rw [hmin]
    refine .stop hbegun hcolumn ?_
    by_cases hbreak : isBreak c = true
    · refine ((LineEnd.single hbreak alone).passed_encode i _).trans (if_neg ?_)
      exact Nat.not_le.mpr (Nat.add_lt_add_left hlt i)
    · rw [passed_encode_cons (by simpa using hbreak)]
      exact passed_eq_nil (by omega) _
  | case5 p c rest offset alone hle hbreak ih =>
    have hpassed : byteLength [c] ≤ offset := Nat.not_lt.mp hle
    have hmin := min_byteLength_append hpassed rest
    refine hmin ▸ .lineEnd (.single hbreak alone) (ih (Nat.le_refl _) ?_)
    rw [Nat.sub_self]
    rfl
  | case6 p c rest offset alone hle hbreak ih =>
    have hpassed : byteLength [c] ≤ offset := Nat.not_lt.mp hle
    have hmin : min offset (byteLength (c :: rest)) =
        c.utf8Size + min (offset - c.utf8Size) (byteLength rest) := min_byteLength_append hpassed rest
    rw [hmin]
    refine .inLine (by simpa using hbreak) (ih (Nat.le_add_right_of_le hbegun) ?_)
    show p.column + c.utf8Size = i + c.utf8Size - begun + 1
    omega

/-! ### Going over the bytes -/

/-- The column of an offset, unless the line begins behind it. -/
def column? (lineStart offset : Nat) : Option Nat :=
  if lineStart ≤ offset then some (offset - lineStart + 1) else none

/-- The position of an offset, from index `i` of the bytes on, on a line that began at
`lineStart`. A byte is looked up before anything is made of it, and there is no position
if it is not there. -/
def walk? (bytes : List UInt8) (offset i line lineStart : Nat) : Option Position :=
  if i < offset then
    match bytes[i]? with
    | none => none
    | some b =>
      match _h : terminatorEnd? bytes i b with
      | none => walk? bytes offset (i + 1) line lineStart
      | some stop =>
        if offset < stop then (column? lineStart offset).map (Position.mk line)
        else walk? bytes offset stop (line + 1) stop
  else (column? lineStart offset).map (Position.mk line)
termination_by offset - i
decreasing_by
  · omega
  · have := lt_terminatorEnd? _h
    omega

theorem column?_eq {begun offset : Nat} (h : begun ≤ offset) (line : Nat) :
    (column? begun offset).map (Position.mk line) = some (.after line begun [] offset) := by
  rw [column?, if_pos h]
  rfl

/-- The way over the bytes never looks beyond the last, and comes to a position. -/
theorem walk?_eq {bytes : List UInt8} {offset i line begun : Nat} (hbegun : begun ≤ i)
    (hi : i ≤ offset) (hoffset : offset ≤ bytes.length) :
    walk? bytes offset i line begun =
      some (.after line begun (passed i (bytes.drop i) offset) offset) := by
  fun_induction walk? bytes offset i line begun with
  | case1 i line begun hlt hnone =>
    have hle := List.getElem?_eq_none_iff.mp hnone
    omega
  | case2 i line begun hlt b hb hstop ih =>
    rw [ih (by omega) (by omega), passed, passed, terminators_drop_none hb hstop]
  | case3 i line begun hlt b hb stop hstop hle =>
    rw [passed_cons (terminators_drop_some hb hstop), if_neg (by omega), column?_eq (by omega)]
  | case4 i line begun hlt b hb stop hstop hle ih =>
    rw [passed_cons (terminators_drop_some hb hstop), if_pos (by omega), Position.after_cons,
      ih (Nat.le_refl _) (by omega)]
  | case5 i line begun hge => rw [passed_eq_nil (by omega), column?_eq (by omega)]

end GraphQL.Text

namespace GraphQL

open Text

/-- **A position is counted by line ends.** The line ends found among the bytes of a body
are its pairs and the line ends that are no part of one, each once and in order. The line of an offset is one more than
the number of those that end by then, its column counts from where the last of them ends,
and nothing is looked up beyond the body on the way there. -/
theorem Source.positionAt_eq_after (s : Source) (offset : Nat) :
    let o := min offset s.bytes.length
    let ended := (terminators 0 s.bytes).filter (·.stop ≤ o)
    let lineStart := (ended.getLast?.map (·.stop)).getD 0
    (∀ t, t ∈ terminators 0 s.bytes ↔ IsTerminator s.bytes t) ∧
      (terminators 0 s.bytes).Pairwise (fun t u => t.stop ≤ u.start) ∧
      lineStart ≤ o ∧ s.positionAt offset = ⟨1 + ended.length, o - lineStart + 1⟩ ∧
      walk? s.bytes o 0 1 0 = some (s.positionAt offset) := by
  intro o ended lineStart
  have hlength : s.bytes.length = byteLength s.chars := length_encode s.chars
  have hposition : s.positionAt offset = ⟨1 + ended.length, o - lineStart + 1⟩ := by
    have h : Counts .start 0 0 s.chars (min offset (byteLength s.chars)) (s.positionAt offset) :=
      counts_positionFrom (Nat.le_refl 0) rfl
    rw [← hlength] at h
    unfold Counts at h
    rw [Nat.zero_add] at h
    exact h
  refine ⟨fun t => mem_terminators, pairwise_terminators 0 s.bytes, lineStart_passed_le s.bytes o,
    hposition, ?_⟩
  rw [hposition]
  exact walk?_eq (Nat.le_refl 0) (Nat.zero_le o) (Nat.min_le_right ..)

-- A pair, and a line end behind it that has no partner left.
example : terminators 0 (Source.ofBody "a\r\n\n").bytes = [⟨1, 3⟩, ⟨3, 4⟩] := by decide

end GraphQL
