import Provisioning.Text.Columns.Emoji
import Provisioning.Text.Columns.Letter

/-! # The width of a text on a display

The columns of a text are those of its characters, but for those that are drawn as one: emoji made
of several characters, letters that are joined, and characters whose form a selector behind them
chooses. The text is read from its end, and every character is put before what follows it.
-/

namespace Provisioning.Text

/-- A character that chooses the form of the one before it. -/
inductive Selector where
  | emoji
  | narrow
  | wide
  deriving DecidableEq, Repr

def Selector.ofChar? (c : Char) : Option Selector :=
  if c = '\ufe0f' then some .emoji
  else if c = '\ufe0e' then some .narrow
  else if c = '\ufe01' then some .wide
  else none

/-- What a text begins with, as far as the character before it can be drawn as one with it. The
vowel signs of Kirat Rai are counted in pairs, since two of the sign E are one sign AI. -/
inductive Tail where
  | plain
  | emoji (tail : EmojiTail)
  | letter (tail : LetterTail)
  | vowel (paired : Bool)
  deriving DecidableEq, Repr

namespace Tail

/-- The tail that a character is by itself. -/
def ofChar (c : Char) : Tail :=
  if c.toNat = 0x16D67 then vowel false
  else if c.toNat = 0x16D68 then vowel true
  else ((EmojiTail.ofChar? c).map emoji <|> (LetterTail.ofChar? c).map letter).getD plain

/-- What the tail becomes, and by how much the width changes, when the vowel sign before it belongs
to the same sign. -/
def joinVowel? (c : Char) (paired : Bool) : Option (Int × Tail) :=
  if c.toNat = 0x16D63 then some (0, plain)
  else if paired then none
  else if c.toNat = 0x16D67 then some (0, vowel true)
  else if c.toNat = 0x16D68 then some (1, vowel false)
  else if c.toNat = 0x16D69 then some (0, plain)
  else none

/-- What the tail becomes, and by how much the width changes, when the character before it is drawn
as one with it. -/
def join? (c : Char) : Tail → Option (Int × Tail)
  | plain => none
  | emoji tail => (tail.join? c).map fun (more, tail) => (more, emoji tail)
  | letter tail =>
    match tail.pass? c with
    | some tail => some (0, letter tail)
    | none => (tail.ligate? c).map fun (more, tail) => (more, (tail.map letter).getD plain)
  | vowel paired => joinVowel? c paired

end Tail

/-- What stands behind a character. -/
structure Sequel where
  tail : Tail := .plain
  /-- The selector right behind the character. -/
  selector : Option Selector := none
  deriving DecidableEq, Repr

namespace Sequel

/-- The sequel behind a selector: the letters behind it can still be joined, and so can an emoji
behind a joiner when the selector makes another one. -/
def select (sequel : Sequel) (selector : Selector) : Sequel :=
  match sequel.tail with
  | .letter _ => ⟨sequel.tail, some selector⟩
  | .emoji tail =>
    ⟨if tail.isJoined && selector = .emoji then .emoji tail else .plain, some selector⟩
  | _ => ⟨.plain, some selector⟩

/-- The width of a character in the form that the selector chooses, and the tail that it makes, if
it has such a form. Behind a joiner the two columns of the whole emoji are counted already. -/
def chosen? (c : Char) (sequel : Sequel) : Option (Int × Tail) :=
  match sequel.selector with
  | some .emoji =>
    if hasEmojiForm c then
      some (if sequel.tail matches .emoji _ then 0 else 2, .emoji .emoji)
    else none
  | some .narrow => if hasNarrowForm c then some (1, .plain) else none
  | some .wide =>
    if Ranges.contains [(0x2018, 0x2019), (0x201C, 0x201D)] c then some (2, .plain) else none
  | none => none

/-- The tail behind a selector whose form the character before it does not have. -/
def unselected (sequel : Sequel) : Tail :=
  match sequel.tail, sequel.selector with
  | .emoji _, some _ => .plain
  | tail, _ => tail

/-- By how much the width changes when a character is put before its sequel, and the sequel of the
character before. -/
def push (c : Char) (sequel : Sequel) : Int × Sequel :=
  match sequel.chosen? c with
  | some (more, tail) => (more, ⟨tail, none⟩)
  | none =>
    let tail := sequel.unselected
    if c.toNat ≤ 0xA0 then (1, {})
    else
      match Selector.ofChar? c with
      | some selector => (0, select ⟨tail, none⟩ selector)
      | none =>
        match tail.join? c with
        | some (more, tail) => (more, ⟨tail, none⟩)
        | none => (charColumns c, ⟨.ofChar c, none⟩)

end Sequel

/-- The width of a text, and what a character before the text would be put before. -/
def measure (chars : List Char) : Int × Sequel :=
  chars.foldr (fun c (width, sequel) =>
    let (more, sequel) := sequel.push c
    (width + more, sequel)) (0, {})

/-- How many columns a text of one line takes. -/
def columns (text : String) : Nat := (measure text.toList).1.toNat

end Provisioning.Text
