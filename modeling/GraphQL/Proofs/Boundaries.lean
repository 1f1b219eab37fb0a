import GraphQL.Proofs.LineEnds

/-! Cuts of a text between its characters.

A byte offset is a boundary of a text unless it is inside a character or beyond the end,
and the byte there tells which it is (`isBoundary_iff`). `splitBytes?` cuts a text at its
boundaries and nowhere else (`splitBytes?_eq_some`), and `slice?` gives the piece between
two of them (`slice?_eq_some`). Where there is no boundary, the next one below is found by
going down byte by byte, which ends at the cut that `takeBytes` makes and never below the
beginning (`lowered?_eq`).

Lines are such pieces. `cutLines?` goes over the bytes of a text by their index, and would
give up on an index behind the last byte or on a line that does not begin and end at a
boundary. The bytes of a line end belong to no other character, so it gives up on neither
(`cutLines?_eq`). -/
namespace GraphQL.Text

/-! ### Pieces between boundaries -/

/-- What stands in front of a byte offset and what stands behind it, if the offset is a
boundary. -/
def splitBytes? : Nat → List Char → Option (List Char × List Char)
  | bytes, [] => if bytes = 0 then some ([], []) else none
  | bytes, c :: rest =>
    if bytes = 0 then some ([], c :: rest)
    else if c.utf8Size ≤ bytes then
      (splitBytes? (bytes - c.utf8Size) rest).map fun pieces => (c :: pieces.1, pieces.2)
    else none

/-- The piece of a text between two byte offsets, if both are boundaries and in order. -/
def slice? (text : List Char) (start stop : Nat) : Option (List Char) :=
  if start ≤ stop then do
    let front ← splitBytes? start text
    let piece ← splitBytes? (stop - start) front.2
    return piece.1
  else none

variable {text a b : List Char} {n : Nat}

theorem splitBytes?_append (a b : List Char) :
    splitBytes? (byteLength a) (a ++ b) = some (a, b) := by
  induction a with
  | nil => cases b <;> rfl
  | cons c a ih =>
    have hpos := c.utf8Size_pos
    rw [List.cons_append, byteLength, splitBytes?, if_neg (by omega), if_pos (by omega),
      Nat.add_sub_cancel_left, ih]
    rfl

theorem splitBytes?_eq_some :
    splitBytes? n text = some (a, b) ↔ text = a ++ b ∧ byteLength a = n := by
  constructor
  · intro h
    fun_induction splitBytes? n text generalizing a with
    | case1 =>
      cases h
      exact ⟨rfl, rfl⟩
    | case2 => cases h
    | case3 c rest =>
      cases h
      exact ⟨rfl, rfl⟩
    | case4 n c rest _ hle ih =>
      obtain ⟨⟨front, behind⟩, hsplit, hpieces⟩ := Option.map_eq_some_iff.mp h
      cases hpieces
      obtain ⟨rfl, hsize⟩ := ih hsplit
      refine ⟨rfl, ?_⟩
      rw [byteLength, hsize]
      omega
    | case5 => cases h
  · rintro ⟨rfl, rfl⟩
    exact splitBytes?_append a b

theorem slice?_eq_some {start stop : Nat} {piece : List Char} :
    slice? text start stop = some piece ↔
      ∃ a b, text = a ++ (piece ++ b) ∧ byteLength a = start ∧
        byteLength a + byteLength piece = stop := by
  unfold slice?
  constructor
  · intro h
    split at h
    · next hle =>
      obtain ⟨⟨a, rest⟩, hfront, h⟩ := Option.bind_eq_some_iff.mp h
      obtain ⟨⟨piece, b⟩, hpiece, h⟩ := Option.bind_eq_some_iff.mp h
      cases h
      obtain ⟨rfl, ha⟩ := splitBytes?_eq_some.mp hfront
      obtain ⟨rfl, hsize⟩ := splitBytes?_eq_some.mp hpiece
      refine ⟨a, b, rfl, ha, ?_⟩
      rw [ha, hsize]
      omega
    · cases h
  · intro h
    obtain ⟨a, b, rfl, rfl, rfl⟩ := h
    rw [if_pos (Nat.le_add_right ..), splitBytes?_append, Nat.add_sub_cancel_left]
    show (splitBytes? (byteLength piece) (piece ++ b)).bind _ = _
    rw [splitBytes?_append]
    rfl

/-! ### Boundaries among the bytes -/

/-- Whether a character begins at a byte offset, as the byte there says, or the text ends. -/
def isBoundary (text : List Char) (offset : Nat) : Bool :=
  match (encode text)[offset]? with
  | some b => decide b.IsUTF8FirstByte
  | none => offset == (encode text).length

theorem encode_append (a b : List Char) : encode (a ++ b) = encode a ++ encode b :=
  List.flatMap_append

theorem getElem?_encode_append (front text : List Char) (i : Nat) :
    (encode (front ++ text))[byteLength front + i]? = (encode text)[i]? := by
  rw [encode_append, ← length_encode, List.getElem?_append_right (Nat.le_add_right ..),
    Nat.add_sub_cancel_left]

theorem getElem?_encode_cons {c : Char} {i : Nat} (h : i < (String.utf8EncodeChar c).length)
    (rest : List Char) : (encode (c :: rest))[i]? = some (String.utf8EncodeChar c)[i] := by
  rw [encode, List.flatMap_cons, List.getElem?_append_left h, List.getElem?_eq_getElem h]

theorem isBoundary_append (a b : List Char) (n : Nat) :
    isBoundary (a ++ b) (byteLength a + n) = isBoundary b n := by
  rw [isBoundary, isBoundary, getElem?_encode_append]
  cases (encode b)[n]? with
  | some byte => rfl
  | none =>
    rw [Bool.eq_iff_iff]
    simp [length_encode, byteLength_append]

/-- Of the bytes of a character, the first alone begins one. -/
theorem isBoundary_cons_of_lt {c : Char} (h : n < c.utf8Size) (rest : List Char) :
    isBoundary (c :: rest) n = decide (n = 0) := by
  rw [← String.length_utf8EncodeChar] at h
  rw [isBoundary, getElem?_encode_cons h]
  exact decide_eq_decide.mpr UInt8.isUTF8FirstByte_getElem_utf8EncodeChar

/-- The bytes of a text tell where it may be cut. -/
theorem isBoundary_iff : isBoundary text n = true ↔ ∃ a b, text = a ++ b ∧ byteLength a = n := by
  constructor
  · intro h
    induction text generalizing n with
    | nil =>
      have hzero : n = 0 := by simpa [isBoundary, encode] using h
      exact ⟨[], [], rfl, hzero.symm⟩
    | cons c rest ih =>
      rcases Nat.lt_or_ge n c.utf8Size with hlt | hge
      · rw [isBoundary_cons_of_lt hlt, decide_eq_true_eq] at h
        exact ⟨[], c :: rest, rfl, h.symm⟩
      · obtain ⟨m, rfl⟩ := Nat.exists_eq_add_of_le hge
        have hrest : isBoundary rest m = true := (isBoundary_append [c] rest m).symm.trans h
        obtain ⟨a, b, rfl, ha⟩ := ih hrest
        exact ⟨c :: a, b, rfl, congrArg (c.utf8Size + ·) ha⟩
  · rintro ⟨a, b, rfl, rfl⟩
    rw [← Nat.add_zero (byteLength a), isBoundary_append]
    cases b with
    | nil => rfl
    | cons c b => exact isBoundary_cons_of_lt c.utf8Size_pos b

/-! ### Cuts that are moved to a boundary -/

theorem takeBytes_append (a b : List Char) : takeBytes (byteLength a) (a ++ b) = a := by
  induction a with
  | nil =>
    cases b with
    | nil => rfl
    | cons c b => exact if_neg (Nat.not_le.mpr c.utf8Size_pos)
  | cons c a ih =>
    rw [List.cons_append, byteLength, takeBytes, if_pos (Nat.le_add_right ..),
      Nat.add_sub_cancel_left, ih]

theorem takeBytes_of_le (h : byteLength text ≤ n) : takeBytes n text = text := by
  induction text generalizing n with
  | nil => rfl
  | cons c rest ih =>
    rw [byteLength] at h
    rw [takeBytes, if_pos (by omega), ih (by omega)]

/-- A cut beyond the end is one at the end. -/
theorem takeBytes_min (n : Nat) (text : List Char) :
    takeBytes (min n (byteLength text)) text = takeBytes n text := by
  rcases Nat.le_total n (byteLength text) with h | h
  · rw [Nat.min_eq_left h]
  · rw [Nat.min_eq_right h, takeBytes_of_le h, takeBytes_of_le (Nat.le_refl _)]

theorem takeBytes_prefix (n : Nat) (text : List Char) : takeBytes n text <+: text := by
  fun_induction takeBytes n text with
  | case1 => exact List.prefix_rfl
  | case2 n c rest hle ih => exact (List.prefix_cons_inj c).mpr ih
  | case3 => exact List.nil_prefix

theorem isBoundary_takeBytes (n : Nat) (text : List Char) :
    isBoundary text (byteLength (takeBytes n text)) = true := by
  obtain ⟨rest, hrest⟩ := takeBytes_prefix n text
  exact isBoundary_iff.mpr ⟨_, rest, hrest.symm, rfl⟩

theorem byteLength_takeBytes (h : isBoundary text n = true) :
    byteLength (takeBytes n text) = n := by
  obtain ⟨a, b, rfl, rfl⟩ := isBoundary_iff.mp h
  rw [takeBytes_append]

/-- Where there is no boundary, the cut is the one a byte before. -/
theorem takeBytes_succ (h : ¬ isBoundary text (n + 1) = true) :
    takeBytes (n + 1) text = takeBytes n text := by
  rw [isBoundary_iff] at h
  induction text generalizing n with
  | nil => rfl
  | cons c rest ih =>
    rw [takeBytes, takeBytes]
    by_cases hle : c.utf8Size ≤ n
    · have hnext : n + 1 - c.utf8Size = n - c.utf8Size + 1 := by omega
      rw [if_pos (by omega), if_pos hle, hnext, ih]
      rintro ⟨a, b, rfl, ha⟩
      refine h ⟨c :: a, b, rfl, ?_⟩
      rw [byteLength, ha]
      omega
    · have hne : c.utf8Size ≠ n + 1 := fun hsize => h ⟨[c], rest, rfl, hsize⟩
      rw [if_neg (by omega), if_neg hle]

/-- The next boundary from an offset down. Below 0 there is none. -/
def lowered? (text : List Char) : Nat → Option Nat
  | 0 => if isBoundary text 0 then some 0 else none
  | n + 1 => if isBoundary text (n + 1) then some (n + 1) else lowered? text n

theorem lowered?_eq (text : List Char) (n : Nat) :
    lowered? text n = some (byteLength (takeBytes n text)) := by
  have hfound {m : Nat} (h : isBoundary text m = true) :
      some m = some (byteLength (takeBytes m text)) := by rw [byteLength_takeBytes h]
  induction n with
  | zero =>
    have hzero : isBoundary text 0 = true := isBoundary_iff.mpr ⟨[], text, rfl, rfl⟩
    exact (if_pos hzero).trans (hfound hzero)
  | succ n ih =>
    by_cases h : isBoundary text (n + 1) = true
    · exact (if_pos h).trans (hfound h)
    · rw [lowered?, if_neg h, ih, takeBytes_succ h]

/-! ### Lines cut out of a text -/

/-- The lines of a text from index `i` of its bytes on, the first of which began at `start`.
A byte is looked up before anything is made of it, and a line is a piece between two
boundaries; there are no lines if one of these is not there. -/
def cutLines? (text : List Char) (i start : Nat) : Option (List (List Char)) :=
  if i < (encode text).length then
    match (encode text)[i]? with
    | none => none
    | some b =>
      match _h : terminatorEnd? (encode text) i b with
      | none => cutLines? text (i + 1) start
      | some stop => do
        let line ← slice? text start i
        let rest ← cutLines? text stop stop
        return line :: rest
  else do
    let line ← slice? text start (encode text).length
    return [line]
termination_by (encode text).length - i
decreasing_by
  · omega
  · have := lt_terminatorEnd? _h
    omega

theorem cutLines?_none {i start : Nat} {b : UInt8} (hb : (encode text)[i]? = some b)
    (hstop : terminatorEnd? (encode text) i b = none) :
    cutLines? text i start = cutLines? text (i + 1) start := by
  rw [cutLines?, if_pos (List.getElem?_eq_some_iff.mp hb).1]
  simp only [hb]
  split
  · rfl
  · next h =>
    rw [hstop] at h
    cases h

theorem cutLines?_some {i start stop : Nat} {b : UInt8} (hb : (encode text)[i]? = some b)
    (hstop : terminatorEnd? (encode text) i b = some stop) :
    cutLines? text i start = do
      let line ← slice? text start i
      let rest ← cutLines? text stop stop
      return line :: rest := by
  rw [cutLines?, if_pos (List.getElem?_eq_some_iff.mp hb).1]
  simp only [hb]
  split
  · next h =>
    rw [hstop] at h
    cases h
  · next h =>
    rw [hstop] at h
    cases h
    rfl

/-- Where a line end stands, its bytes say so. -/
theorem LineEnd.terminatorEnd?_encode {e : List Char} (h : LineEnd e text) (front : List Char) :
    ∃ b, (encode (front ++ (e ++ text)))[byteLength front]? = some b ∧
      terminatorEnd? (encode (front ++ (e ++ text))) (byteLength front) b =
        some (byteLength front + byteLength e) := by
  generalize hbytes : encode (front ++ (e ++ text)) = bytes
  have hfound : terminators (byteLength front) (bytes.drop (byteLength front)) =
      ⟨byteLength front, byteLength front + byteLength e⟩ ::
        terminators (byteLength front + byteLength e) (encode text) := by
    rw [← hbytes, encode_append, ← length_encode front, List.drop_left, h.terminators_encode]
  cases hb : bytes[byteLength front]? with
  | none =>
    rw [List.drop_eq_nil_of_le (List.getElem?_eq_none_iff.mp hb)] at hfound
    cases hfound
  | some b =>
    refine ⟨b, rfl, ?_⟩
    cases hstop : terminatorEnd? bytes (byteLength front) b with
    | none =>
      rw [terminators_drop_none hb hstop] at hfound
      have hlater := le_start_of_mem _ (hfound ▸ List.mem_cons_self ..)
      exact absurd hlater.1 (Nat.not_succ_le_self _)
    | some stop =>
      rw [terminators_drop_some hb hstop] at hfound
      exact congrArg (fun t => some t.stop) (List.cons.inj hfound).1

/-- Over a character that ends no line, the line goes on. -/
theorem cutLines?_cons {c : Char} (hc : isBreak c = false) (front rest : List Char) (start : Nat) :
    cutLines? (front ++ c :: rest) (byteLength front) start =
      cutLines? (front ++ c :: rest) (byteLength front + c.utf8Size) start := by
  -- No byte of the character is a line end, so the index goes over them one by one.
  have hbytes (n : Nat) (hn : n ≤ c.utf8Size) :
      cutLines? (front ++ c :: rest) (byteLength front) start =
        cutLines? (front ++ c :: rest) (byteLength front + n) start := by
    induction n with
    | zero => rfl
    | succ n ih =>
      have hlt : n < (String.utf8EncodeChar c).length := by
        rw [String.length_utf8EncodeChar]
        omega
      have hb : (encode (front ++ c :: rest))[byteLength front + n]? =
          some (String.utf8EncodeChar c)[n] := by
        rw [getElem?_encode_append, getElem?_encode_cons hlt]
      obtain ⟨hcr, hlf⟩ := ne_break_of_mem hc _ (List.getElem_mem hlt)
      rw [ih (by omega), cutLines?_none hb (by simp [terminatorEnd?, hcr, hlf])]
      rfl
  exact hbytes c.utf8Size (Nat.le_refl _)

/-- The rest of the lines is found from behind the beginning of any line. -/
def Cuts (rest : List Char) : Prop :=
  ∀ front begun : List Char, Unbroken begun →
    cutLines? (front ++ (begun ++ rest)) (byteLength (front ++ begun)) (byteLength front) =
      some ((lines rest).modifyHead (begun ++ ·))

namespace Cuts

variable {rest : List Char}

/-- The line that begins in front of all of it is the first of its lines. -/
theorem fresh (h : Cuts rest) (front : List Char) :
    cutLines? (front ++ rest) (byteLength front) (byteLength front) = some (lines rest) := by
  have hrest := h front [] (List.forall_mem_nil _)
  rw [List.append_nil] at hrest
  exact hrest.trans (congrArg some (congrFun List.modifyHead_id _))

/-- The last line goes on to the end of the text. -/
theorem nil : Cuts [] := by
  intro front begun _
  have hline : slice? (front ++ (begun ++ [])) (byteLength front)
      (encode (front ++ (begun ++ []))).length = some begun := by
    refine slice?_eq_some.mpr ⟨front, [], rfl, rfl, ?_⟩
    simp [length_encode, byteLength_append]
  have hend : ¬ byteLength (front ++ begun) < (encode (front ++ (begun ++ []))).length := by
    simp [length_encode]
  rw [cutLines?, if_neg hend, hline]
  exact congrArg (fun line => some [line]) (List.append_nil begun).symm

/-- A line end cuts a line off, and the next begins behind it. -/
theorem lineEnd {e : List Char} (he : LineEnd e rest) (h : Cuts rest) : Cuts (e ++ rest) := by
  intro front begun _
  obtain ⟨b, hb, hstop⟩ := he.terminatorEnd?_encode (front ++ begun)
  have hline : slice? (front ++ (begun ++ (e ++ rest))) (byteLength front)
      (byteLength (front ++ begun)) = some begun :=
    slice?_eq_some.mpr ⟨front, e ++ rest, rfl, rfl, (byteLength_append front begun).symm⟩
  have hrest := h.fresh (front ++ begun ++ e)
  rw [byteLength_append] at hrest
  simp only [List.append_assoc] at hb hstop hrest
  rw [cutLines?_some hb hstop, hline, hrest, he.lines_append, List.modifyHead_cons,
    List.append_nil]
  rfl

/-- A character of the line is passed. -/
theorem inLine {c : Char} (hc : isBreak c = false) (h : Cuts rest) : Cuts (c :: rest) := by
  intro front begun hbegun
  have hpassed := cutLines?_cons hc (front ++ begun) rest (byteLength front)
  have hindex :
      byteLength (front ++ begun) + c.utf8Size = byteLength (front ++ (begun ++ [c])) := by
    simp only [byteLength_append, byteLength]
    omega
  have hrest := h front (begun ++ [c]) (hbegun.snoc hc)
  rw [hindex, List.append_assoc] at hpassed
  rw [List.append_assoc begun, List.singleton_append] at hrest
  rw [hpassed, hrest, lines_cons hc, List.modifyHead_modifyHead]
  simp only [List.append_assoc, List.singleton_append]
  rfl

end Cuts

/-- Every line is found, and found between boundaries. -/
theorem cuts (rest : List Char) : Cuts rest := by
  fun_induction lines rest with
  | case1 => exact .nil
  | case2 rest ih => exact .lineEnd (.pair rest) ih
  | case3 c rest alone hbreak ih => exact .lineEnd (.single hbreak alone) ih
  | case4 c rest alone hbreak ih => exact .inLine (by simpa using hbreak) ih

theorem cutLines?_eq (text : List Char) : cutLines? text 0 0 = some (lines text) :=
  (cuts text).fresh []

end GraphQL.Text
