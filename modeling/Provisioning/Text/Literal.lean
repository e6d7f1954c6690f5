import Provisioning.Text.Combining
import Provisioning.Text.Digits
import Provisioning.Text.Unseen

/-! # Texts shown as literals

For inspection a text is shown between double quotes, with escapes for the quote, the backslash, the
common control characters, and everything that would not be seen by itself.
-/

namespace Provisioning.Text

/-- How one character is shown inside the quotes. -/
def showChar (c : Char) : List Char :=
  if c = '\x00' then ['\\', '0']
  else if c = '\t' then ['\\', 't']
  else if c = '\n' then ['\\', 'n']
  else if c = '\r' then ['\\', 'r']
  else if c = '"' then ['\\', '"']
  else if c = '\\' then ['\\', '\\']
  else if isCombining c || isUnseen c then
    '\\' :: 'u' :: '\x7b' :: (hexDigits 1 c.toNat ++ ['\x7d'])
  else [c]

/-- A text as a literal. -/
def literal (text : String) : String :=
  String.ofList ('"' :: (text.toList.flatMap showChar ++ ['"']))

end Provisioning.Text
