import Provisioning.Text.Columns.Character

/-! # Letters that are drawn as one

In some scripts certain letters next to each other, or with a joiner between them, are drawn as one
letter and take its one column.
-/

namespace Provisioning.Text

def alefRanges : Ranges :=
  [(0x622, 0x623), (0x625, 0x625), (0x627, 0x627), (0x671, 0x673), (0x675, 0x675), (0x773, 0x774),
    (0x870, 0x882)]

def lamRanges : Ranges :=
  [(0x644, 0x644), (0x6B5, 0x6B8), (0x76A, 0x76A), (0x8A6, 0x8A6), (0x8C7, 0x8C7)]

/-- The Khmer letters that have a form under the letter before them. -/
def subscriptRanges : Ranges :=
  [(0x1780, 0x1782), (0x1784, 0x1787), (0x1789, 0x178C), (0x178E, 0x1793), (0x1795, 0x1798),
    (0x179B, 0x179D), (0x17A0, 0x17A0), (0x17A2, 0x17A2), (0x17A7, 0x17A7), (0x17AB, 0x17AC),
    (0x17AF, 0x17AF)]

def tifinaghRanges : Ranges := [(0x2D31, 0x2D65), (0x2D6F, 0x2D6F)]

/-- The Lisu tones that can come first in a pair. -/
def firstToneRanges : Ranges := [(0xA4F8, 0xA4FB)]

/-- The Lisu tones that can come second in a pair. -/
def secondToneRanges : Ranges := [(0xA4FC, 0xA4FD)]

/-- Characters without a column that keep a lam and an alef apart when they stand between them; the
others are marks on the lam. -/
def barrierRanges : Ranges :=
  [(0x605, 0x605), (0x890, 0x891), (0x8E2, 0x8E2), (0x9BE, 0x9BE), (0x9D7, 0x9D7), (0xB3E, 0xB3E),
    (0xB57, 0xB57), (0xBBE, 0xBBE), (0xBD7, 0xBD7), (0xCC0, 0xCC0), (0xCC2, 0xCC2), (0xCC7, 0xCC8),
    (0xCCA, 0xCCB), (0xCD5, 0xCD6), (0xD3E, 0xD3E), (0xD4E, 0xD4E), (0xD57, 0xD57), (0xDCF, 0xDCF),
    (0xDDF, 0xDDF), (0x1160, 0x11FF), (0x1715, 0x1715), (0x1734, 0x1734), (0x180E, 0x180E),
    (0x1B35, 0x1B35), (0x1B3B, 0x1B3B), (0x1B3D, 0x1B3D), (0x1B43, 0x1B44), (0x1BAA, 0x1BAA),
    (0x1BF2, 0x1BF3), (0x200C, 0x200D), (0x2065, 0x2069), (0x302E, 0x302F), (0x3164, 0x3164),
    (0xA8FA, 0xA8FA), (0xA953, 0xA953), (0xA9C0, 0xA9C0), (0xD7B0, 0xD7C6), (0xD7CB, 0xD7FB),
    (0xFFA0, 0xFFA0), (0xFFF0, 0xFFF8), (0x111C0, 0x111C0), (0x111C2, 0x111C3), (0x11235, 0x11235),
    (0x1133E, 0x1133E), (0x1134D, 0x1134D), (0x11357, 0x11357), (0x113B8, 0x113B8),
    (0x113C2, 0x113C2), (0x113C5, 0x113C5), (0x113C7, 0x113C9), (0x113CF, 0x113CF),
    (0x113D1, 0x113D1), (0x114B0, 0x114B0), (0x114BD, 0x114BD), (0x115AF, 0x115AF),
    (0x116B6, 0x116B6), (0x11930, 0x11930), (0x1193D, 0x1193D), (0x1193F, 0x1193F),
    (0x11941, 0x11941), (0x11A3A, 0x11A3A), (0x11A84, 0x11A89), (0x11D46, 0x11D46),
    (0x11F02, 0x11F02), (0x11F41, 0x11F41), (0x16FF0, 0x16FF1), (0x1D165, 0x1D166),
    (0x1D16D, 0x1D172), (0xE0000, 0xE0000), (0xE0002, 0xE001F), (0xE0080, 0xE00FF),
    (0xE01F0, 0xE0FFF)]

/-- Marks without a column that may stand inside joined letters of the other scripts. -/
def markRanges : Ranges :=
  [(0x34F, 0x34F), (0x17B4, 0x17B5), (0x180B, 0x180D), (0x180F, 0x180F), (0xFE00, 0xFE0F),
    (0xE0100, 0xE01EF)]

/-- What a text begins with when a character before it can be drawn as one with it; `joined` says
that a joiner stands before the letter. -/
inductive LetterTail where
  | alef
  | lamed (joined : Bool)
  | ya (joined : Bool)
  | signIAndYa
  | tifinagh (joined : Bool)
  | joinerAndTifinagh
  | lisuTone
  | orkhonI (joined : Bool)
  | subscript
  deriving DecidableEq, Repr

namespace LetterTail

/-- The tail that a character is by itself. -/
def ofChar? (c : Char) : Option LetterTail :=
  if alefRanges.contains c then some alef
  else if c = '\u05dc' then some (lamed false)
  else if subscriptRanges.contains c then some subscript
  else if c = '\u1a10' then some (ya false)
  else if tifinaghRanges.contains c then some (tifinagh false)
  else if secondToneRanges.contains c then some lisuTone
  else if c.toNat = 0x10C03 then some (orkhonI false)
  else none

/-- The tail behind a joiner. -/
def join : LetterTail → LetterTail
  | lamed _ => lamed true
  | ya _ => ya true
  | tifinagh _ => tifinagh true
  | orkhonI _ => orkhonI true
  | tail => tail

/-- The tail behind a character that stands inside joined letters and takes no column, if the
character is one. -/
def pass? (c : Char) (tail : LetterTail) : Option LetterTail :=
  if tail = alef then
    if charColumns c = 0 && !barrierRanges.contains c then some tail else none
  else if c = joiner then some tail.join
  else if markRanges.contains c then some tail
  else none

/-- What the tail becomes, and by how much the width changes, when the character before it is drawn
as one with it. -/
def ligate? (c : Char) : LetterTail → Option (Int × Option LetterTail)
  | alef => if lamRanges.contains c then some (0, none) else none
  | lamed true => if c = '\u05d0' then some (0, none) else none
  | ya true => if c = '\u1a17' then some (0, some signIAndYa) else none
  | signIAndYa => if c = '\u1a15' then some (0, none) else none
  | tifinagh joined =>
    if c = '\u2d7f' then some (1, some joinerAndTifinagh)
    else if joined && tifinaghRanges.contains c then some (0, none)
    else none
  | joinerAndTifinagh => if tifinaghRanges.contains c then some (-1, none) else none
  | lisuTone => if firstToneRanges.contains c then some (0, none) else none
  | orkhonI true => if c.toNat = 0x10C32 then some (0, none) else none
  | subscript => if c = '\u17d2' then some (-1, none) else none
  | _ => none

end LetterTail

end Provisioning.Text
