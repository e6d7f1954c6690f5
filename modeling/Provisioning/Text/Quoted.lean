/-! # Quoted text

A quoted text stands between double quotes. Inside, a quote and a backslash follow a backslash, five
control characters have a letter of their own, and the other control characters are written as `u`
and four digits. Everything else stands for itself, so a quoted text never holds a line break.
-/

namespace Provisioning.Text.Quoted

/-- Four base-sixteen digits of a control character. -/
def controlDigits (c : Char) : List Char :=
  ['0', '0', Nat.digitChar (c.toNat / 16), Nat.digitChar (c.toNat % 16)]

/-- How one character is written inside the quotes. -/
def escape (c : Char) : List Char :=
  if c = '"' then ['\\', '"']
  else if c = '\\' then ['\\', '\\']
  else if c = '\x08' then ['\\', 'b']
  else if c = '\x09' then ['\\', 't']
  else if c = '\x0a' then ['\\', 'n']
  else if c = '\x0c' then ['\\', 'f']
  else if c = '\x0d' then ['\\', 'r']
  else if c.toNat < 32 then '\\' :: 'u' :: controlDigits c
  else [c]

/-- The quoted form of a text. -/
def encode (chars : List Char) : List Char := '"' :: (chars.flatMap escape ++ ['"'])

end Provisioning.Text.Quoted
