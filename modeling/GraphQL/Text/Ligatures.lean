import GraphQL.Text.CharacterCells

/-! Letters drawn together.

In some scripts a letter and the one before it are drawn as one and share a cell. A
ligature is found from its end: `Ligature.ofChar?` knows the letters that can end
one, and `Ligature.extend?` the letters that can stand in front of them. Lam is drawn
into alef across every mark that letters join across, other letters across ignorable
marks and joiners. Some ask for a joiner. -/
namespace GraphQL.Text

/-! ### Letters and marks -/

/-- The letter lam and its variants. -/
def lamRanges : Ranges :=
  [(0x0644, 0x0644), (0x06B5, 0x06B8), (0x076A, 0x076A), (0x08A6, 0x08A6), (0x08C7, 0x08C7)]

/-- The letter alef and its variants. -/
def alefRanges : Ranges :=
  [(0x0622, 0x0623), (0x0625, 0x0625), (0x0627, 0x0627), (0x0671, 0x0673), (0x0675, 0x0675),
    (0x0773, 0x0774), (0x0870, 0x0882)]

/-- Tifinagh consonants. -/
def consonantRanges : Ranges := [(0x2D31, 0x2D65), (0x2D6F, 0x2D6F)]

/-- Khmer letters that can be drawn below another. -/
def subscriptRanges : Ranges := [
    (0x1780, 0x1782), (0x1784, 0x1787), (0x1789, 0x178C), (0x178E, 0x1793), (0x1795, 0x1798),
    (0x179B, 0x179D), (0x17A0, 0x17A0), (0x17A2, 0x17A2), (0x17A7, 0x17A7), (0x17AB, 0x17AC),
    (0x17AF, 0x17AF)]

/-- Lisu tones that another tone can follow. -/
def toneRanges : Ranges := [(0xA4F8, 0xA4FB)]

/-- Marks that letters do not join across: spacing marks, fillers, and what has a
direction or nothing to draw. -/
def separatingRanges : Ranges := [
    (0x09BE, 0x09BE), (0x09D7, 0x09D7), (0x0B3E, 0x0B3E), (0x0B57, 0x0B57), (0x0BBE, 0x0BBE),
    (0x0BD7, 0x0BD7), (0x0CC0, 0x0CC0), (0x0CC2, 0x0CC2), (0x0CC7, 0x0CC8), (0x0CCA, 0x0CCB),
    (0x0CD5, 0x0CD6), (0x0D3E, 0x0D3E), (0x0D57, 0x0D57), (0x0DCF, 0x0DCF), (0x0DDF, 0x0DDF),
    (0x115F, 0x1160), (0x1715, 0x1715), (0x1734, 0x1734), (0x180E, 0x180E), (0x1B35, 0x1B35),
    (0x1B3B, 0x1B3B), (0x1B3D, 0x1B3D), (0x1B43, 0x1B44), (0x1BAA, 0x1BAA), (0x1BF2, 0x1BF3),
    (0x200C, 0x200D), (0x2065, 0x2069), (0x2D7F, 0x2D7F), (0x302E, 0x302F), (0x3164, 0x3164),
    (0xA953, 0xA953), (0xA9C0, 0xA9C0), (0xFFA0, 0xFFA0), (0xFFF0, 0xFFF8), (0x111C0, 0x111C0),
    (0x11235, 0x11235), (0x1133E, 0x1133E), (0x1134D, 0x1134D), (0x11357, 0x11357),
    (0x113B8, 0x113B8), (0x113C2, 0x113C2), (0x113C5, 0x113C5), (0x113C7, 0x113C9),
    (0x113CF, 0x113CF), (0x114B0, 0x114B0), (0x114BD, 0x114BD), (0x115AF, 0x115AF),
    (0x116B6, 0x116B6), (0x11930, 0x11930), (0x1193D, 0x1193D), (0x11F41, 0x11F41),
    (0x16FF0, 0x16FF1), (0x1D165, 0x1D166), (0x1D16D, 0x1D172), (0xE0000, 0xE0000),
    (0xE0002, 0xE001F), (0xE0080, 0xE00FF), (0xE01F0, 0xE0FFF)]

/-- Whether Arabic letters join across the character. They do across the Syriac
abbreviation mark. -/
def isTransparent (c : Char) : Bool :=
  isMark c && !separatingRanges.contains c || c = '\u070F'

/-- Ignorable marks that combine with the character before them. -/
def ignorableMarkRanges : Ranges := [
    (0x034F, 0x034F), (0x17B4, 0x17B5), (0x180B, 0x180D), (0x180F, 0x180F), (0xFE00, 0xFE0F),
    (0xE0100, 0xE01EF)]

/-! ### Ligatures -/

/-- The last part of letters drawn together. -/
inductive Ligature
  | alef
  /-- Hebrew lamed. -/
  | lamed
  /-- Buginese ya. -/
  | ya
  /-- Buginese ya, with the vowel i and a joiner in front. -/
  | voweledYa
  /-- A Tifinagh consonant. -/
  | consonant
  /-- A Tifinagh consonant, with the consonant joiner in front. -/
  | joinedConsonant
  /-- A Lisu tone that follows another. -/
  | tone
  /-- The Old Turkic letter Orkhon i. -/
  | orkhonI
  /-- A Khmer letter that can be drawn below another. -/
  | subscript
deriving DecidableEq, Repr

namespace Ligature

/-- What a letter is the last part of. -/
def ofChar? (c : Char) : Option Ligature :=
  match c.toNat with
  | 0x05DC => some .lamed
  | 0x1A10 => some .ya
  | 0xA4FC | 0xA4FD => some .tone
  | 0x10C03 => some .orkhonI
  | _ =>
    if alefRanges.contains c then some .alef
    else if subscriptRanges.contains c then some .subscript
    else if consonantRanges.contains c then some .consonant
    else none

/-- Whether the letters are drawn together across the character. -/
def passes (l : Ligature) (c : Char) : Bool :=
  match l with
  | .alef => isTransparent c
  | _ => c = joiner || ignorableMarkRanges.contains c

/-- What a character in front is worth, if it is drawn together with the ligature, and
what is then left to be drawn with; `linked` tells of a joiner between them. The
sign that puts a Khmer letter below another gives back the letter's cell. So does the
consonant that completes a Tifinagh pair for the consonant joiner's. -/
def extend? (l : Ligature) (linked : Bool) (c : Char) : Option (Int × Option Ligature) :=
  match l with
  | .alef => if lamRanges.contains c then some (0, none) else none
  | .lamed => if linked ∧ c = '\u05D0' then some (0, none) else none
  | .ya => if linked ∧ c = '\u1A17' then some (0, some .voweledYa) else none
  | .voweledYa => if c = '\u1A15' then some (0, none) else none
  | .consonant =>
    if c = consonantJoiner then some (1, some .joinedConsonant)
    else if linked ∧ consonantRanges.contains c then some (0, none)
    else none
  | .joinedConsonant => if consonantRanges.contains c then some (-1, none) else none
  | .tone => if toneRanges.contains c then some (0, none) else none
  | .orkhonI => if linked ∧ c.toNat = 0x10C32 then some (0, none) else none
  | .subscript => if c = '\u17D2' then some (-1, none) else none

theorem ofChar?_ascii (c : Char) (h : c.toNat < 0x80) : ofChar? c = none := by
  have ha : alefRanges.contains c = false := Ranges.contains_of_lt (by omega)
  have hs : subscriptRanges.contains c = false := Ranges.contains_of_lt (by omega)
  have hc : consonantRanges.contains c = false := Ranges.contains_of_lt (by omega)
  unfold ofChar?
  split <;> simp_all

end Ligature

end GraphQL.Text
