import Provisioning.Text.Combining
import Provisioning.Text.Wide

/-! # The width of one character

On a display a wide character takes two columns, one that is drawn over or under its neighbours or
not at all takes none, and every other takes one.
-/

namespace Provisioning.Text

/-- The characters that Unicode lets a display leave out. -/
def ignorableRanges : Ranges :=
  [(0xAD, 0xAD), (0x34F, 0x34F), (0x61C, 0x61C), (0x115F, 0x1160), (0x17B4, 0x17B5),
    (0x180B, 0x180F), (0x200B, 0x200F), (0x202A, 0x202E), (0x2060, 0x206F), (0x3164, 0x3164),
    (0xFE00, 0xFE0F), (0xFEFF, 0xFEFF), (0xFFA0, 0xFFA0), (0xFFF0, 0xFFF8), (0x1BCA0, 0x1BCA3),
    (0x1D173, 0x1D17A), (0xE0000, 0xE0FFF)]

/-- The vowels and finals of a Hangul syllable, which are drawn inside the block that the initial
opens. -/
def hangulTailRanges : Ranges := [(0x1160, 0x11FF), (0xD7B0, 0xD7C6), (0xD7CB, 0xD7FB)]

/-- Signs over or under the letters beside them that are not combining characters: marks around a
number, and the forms of a consonant that goes before its syllable. -/
def affixedRanges : Ranges :=
  [(0x5C8, 0x5C8), (0x605, 0x605), (0x70F, 0x70F), (0x890, 0x891), (0x8E2, 0x8E2), (0xD4E, 0xD4E),
    (0xA8FA, 0xA8FA), (0x111C2, 0x111C3), (0x113D1, 0x113D1), (0x1193F, 0x1193F),
    (0x11941, 0x11941), (0x11A3A, 0x11A3A), (0x11A84, 0x11A89), (0x11D46, 0x11D46),
    (0x11F02, 0x11F02)]

/-- Combining characters that have a column of their own: the joiner of Tifinagh consonants, which
shows where it joins none, and the halfwidth voicing marks of Katakana. -/
def standingRanges : Ranges := [(0x2D7F, 0x2D7F), (0xFF9E, 0xFF9F)]

/-- Characters of two columns that would have another width by their class: the filler in the place
of a Hangul initial and the Khmer letter QAA. -/
def doubleRanges : Ranges := [(0x115F, 0x115F), (0x17A4, 0x17A4)]

/-- A character without a column that joins the ones beside it. -/
def joiner : Char := '\u200d'

/-- Whether a character takes no column. -/
def isHidden (c : Char) : Bool :=
  isCombining c || ignorableRanges.contains c || hangulTailRanges.contains c ||
    affixedRanges.contains c

/-- How many columns a character takes by itself. -/
def charColumns (c : Char) : Nat :=
  if c.toNat ≤ 0xA0 then 1
  else if c = '\u17d8' then 3
  else if doubleRanges.contains c then 2
  else if standingRanges.contains c then 1
  else if isHidden c then 0
  else if isWide c then 2
  else 1

end Provisioning.Text
