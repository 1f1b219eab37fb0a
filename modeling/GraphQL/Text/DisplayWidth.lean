import GraphQL.Text.Emoji
import GraphQL.Text.Ligatures

/-! The display width of a text: how many terminal cells it takes.

Characters add up, but for the sequences that are drawn as one. A selector asks
for another form of the character right before it. A skin tone is drawn into the
picture before it, a picture and a joiner into the picture after them, and the
letters of a ligature into one. What a character adds therefore depends on what
follows it, and a text is measured from its end: `Measure.push` puts one more
character in front. In ASCII text every character takes one cell
(`displayWidth_ascii`). -/
namespace GraphQL.Text

/-! ### Selectors -/

/-- The form that a character is to be drawn in. -/
inductive Selector
  | text
  | emoji
  /-- The wide form of quotes. -/
  | wide
deriving DecidableEq, Repr

def Selector.ofChar? (c : Char) : Option Selector :=
  match c with
  | '\uFE01' => some .wide
  | '\uFE0E' => some .text
  | '\uFE0F' => some .emoji
  | _ => none

/-- Opening and closing quotes, single and double. -/
def hasWideForm (c : Char) : Bool :=
  c = '\u2018' || c = '\u2019' || c = '\u201C' || c = '\u201D'

/-! ### What follows a character -/

/-- The beginning of a text, as far as a character in front can be drawn into it. -/
inductive Joint
  | plain
  /-- A picture. -/
  | emoji
  | skinTone
  /-- A joiner and a picture. -/
  | joined
  /-- A keycap, a joiner and a picture. -/
  | joinedKeycap
  | indicator
  /-- Two regional indicators or more. -/
  | indicators
  /-- A regional indicator, a joiner and a picture. -/
  | joinedIndicator
  /-- Regional indicators in pairs, a joiner and a picture. -/
  | joinedFlags
  /-- Three regional indicators or more that leave one without a partner, a joiner
  and a picture. -/
  | joinedOddFlags
  /-- The last letters of a region's tag, its end, a joiner and a picture. -/
  | tagLetters (count : Nat)
  /-- Digits of a region's tag, the rest of the tag, a joiner and a picture. -/
  | tagDigits (count : Nat)
  /-- The last part of a ligature; marks may stand in front of it, and `linked` tells
  of a joiner among them. -/
  | ligature (l : Ligature) (linked : Bool)
  /-- The Kirat Rai vowel sign e. -/
  | vowelE
  /-- The Kirat Rai vowel sign ai, or two signs e. -/
  | vowelAi
deriving DecidableEq, Repr

namespace Joint

/-- The joint of a text that begins with a character drawn by itself. -/
def ofChar (c : Char) : Joint :=
  if isSkinTone c then .skinTone
  else if isRegionalIndicator c then .indicator
  else if isEmoji c then .emoji
  else if c.toNat = 0x16D67 then .vowelE
  else if c.toNat = 0x16D68 then .vowelAi
  else
    match Ligature.ofChar? c with
    | some l => .ligature l false
    | none => .plain

/-- What a character adds that is drawn together with what follows, and the joint
after it.

Regional indicators pair up from the left, and a pair is a flag of two cells. A flag
that a joiner and a picture follow is drawn into the picture: its second indicator
gives back the cell of its first. One more indicator in front breaks that flag up,
and the last indicator stands alone before the joiner.

The tag of a region has three letters to six, or three digits in front of at most
four letters, and follows the black flag. -/
def draw? (joint : Joint) (c : Char) : Option (Int × Joint) :=
  match joint with
  | .plain | .joinedKeycap => none
  | .emoji => if c = joiner then some (0, .joined) else none
  | .skinTone =>
    if takesSkinTone c then some (0, .emoji) else if c = joiner then some (0, .joined) else none
  | .joined =>
    if c = keycap then some (0, .joinedKeycap)
    else if c = tagEnd then some (0, .tagLetters 0)
    else if isRegionalIndicator c then some (1, .joinedIndicator)
    else if isSkinTone c then some (0, .skinTone)
    else if isEmoji c then some (0, .emoji)
    else none
  | .indicator => if isRegionalIndicator c then some (1, .indicators) else none
  | .indicators =>
    if isRegionalIndicator c then some (1, .indicators)
    else if c = joiner then some (0, .joined)
    else none
  | .joinedIndicator => if isRegionalIndicator c then some (-1, .joinedFlags) else none
  | .joinedFlags =>
    if isRegionalIndicator c then some (3, .joinedOddFlags)
    else if c = joiner then some (0, .joined)
    else none
  | .joinedOddFlags =>
    if isRegionalIndicator c then some (-1, .joinedFlags)
    else if c = joiner then some (0, .joined)
    else none
  | .tagLetters n =>
    if isTagLetter c ∧ n < 6 then some (0, .tagLetters (n + 1))
    else if isTagDigit c ∧ n ≤ 4 then some (0, .tagDigits 1)
    else if c = blackFlag ∧ 3 ≤ n then some (0, .emoji)
    else none
  | .tagDigits n =>
    if isTagDigit c ∧ n < 3 then some (0, .tagDigits (n + 1))
    else if c = blackFlag ∧ n = 3 then some (0, .emoji)
    else none
  | .ligature l linked =>
    if l.passes c then some (0, .ligature l (linked || c = joiner))
    else
      match l.extend? linked c with
      | some (added, some rest) => some (added, .ligature rest true)
      | some (added, none) => some (added, .plain)
      | none => none
  | .vowelE =>
    match c.toNat with
    | 0x16D63 | 0x16D69 => some (0, .plain)
    | 0x16D67 => some (0, .vowelAi)
    | 0x16D68 => some (1, .vowelE)
    | _ => none
  | .vowelAi => if c.toNat = 0x16D63 then some (0, .plain) else none

/-- What is still seen behind a selector: ligatures always, and what a picture can
join behind the selector of pictures. -/
def behind (joint : Joint) (s : Selector) : Joint :=
  match joint, s with
  | .ligature l linked, _ => .ligature l linked
  | .joined, .emoji => .joined
  | .joinedKeycap, .emoji => .joinedKeycap
  | _, _ => .plain

end Joint

/-! ### Measuring -/

/-- A text measured: its cells, and how it begins. -/
structure Measure where
  cells : Nat
  joint : Joint
  /-- The selector in front, if there is one. -/
  selector : Option Selector
deriving DecidableEq, Repr

namespace Measure

def empty : Measure := ⟨0, .plain, none⟩

/-- A selector in front of a character that has no such form. Only ligatures are still
followed then. -/
def deselect (m : Measure) : Measure := { m with joint := m.joint.behind .text, selector := none }

/-- A character in front of a text that begins with no selector for it. -/
def pushUnselected (c : Char) (m : Measure) : Measure :=
  match Selector.ofChar? c with
  | some s => ⟨m.cells, m.joint.behind s, some s⟩
  | none =>
    match m.joint.draw? c with
    | some (added, joint) => ⟨(m.cells + added).toNat, joint, none⟩
    | none => ⟨m.cells + Text.cells c, Joint.ofChar c, none⟩

/-- The text with one more character in front. -/
def push (c : Char) (m : Measure) : Measure :=
  match m.selector with
  | none => m.pushUnselected c
  | some .emoji =>
    if hasEmojiForm c then
      let joined := m.joint = .joined ∨ m.joint = .joinedKeycap
      ⟨if joined then m.cells else m.cells + 2, .emoji, none⟩
    else m.deselect.pushUnselected c
  | some .text =>
    if hasTextForm c then ⟨m.cells + 1, .plain, none⟩ else m.deselect.pushUnselected c
  | some .wide =>
    if hasWideForm c then ⟨m.cells + 2, .plain, none⟩ else m.deselect.pushUnselected c

end Measure

def measure : List Char → Measure
  | [] => .empty
  | c :: rest => (measure rest).push c

def displayWidth (text : List Char) : Nat := (measure text).cells

/-! ### Plain text -/

theorem Selector.ofChar?_ascii (c : Char) (h : c.toNat < 0x80) : ofChar? c = none := by
  unfold ofChar?
  split <;> simp at h ⊢

theorem Joint.ofChar_ascii (c : Char) (h : c.toNat < 0x80) : ofChar c = .plain := by
  have hs : isSkinTone c = false := by
    simp only [isSkinTone, Bool.and_eq_false_iff, decide_eq_false_iff_not]
    omega
  have hr : isRegionalIndicator c = false := by
    simp only [isRegionalIndicator, Bool.and_eq_false_iff, decide_eq_false_iff_not]
    omega
  have he : c.toNat ≠ 0x16D67 := by omega
  have ha : c.toNat ≠ 0x16D68 := by omega
  simp [ofChar, hs, hr, isEmoji_ascii c h, he, ha, Ligature.ofChar?_ascii c h]

theorem Measure.push_ascii (n : Nat) (c : Char) (h : c.toNat < 0x80) :
    push c ⟨n, .plain, none⟩ = ⟨n + 1, .plain, none⟩ := by
  simp [push, pushUnselected, Selector.ofChar?_ascii c h, Joint.draw?, Joint.ofChar_ascii c h,
    cells_ascii c h]

theorem measure_ascii (text : List Char) (h : ∀ c ∈ text, c.toNat < 0x80) :
    measure text = ⟨text.length, .plain, none⟩ := by
  induction text with
  | nil => rfl
  | cons c rest ih =>
    rw [measure, ih fun d hd => h d (List.mem_cons_of_mem c hd),
      Measure.push_ascii _ c (h c List.mem_cons_self), List.length_cons]

/-- ASCII characters, controls among them, take one cell each. -/
theorem displayWidth_ascii (text : List Char) (h : ∀ c ∈ text, c.toNat < 0x80) :
    displayWidth text = text.length := by
  rw [displayWidth, measure_ascii text h]

end GraphQL.Text
