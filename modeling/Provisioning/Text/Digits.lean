/-! # Numbers written in digits

Reading takes a base and an upper bound: an optional plus sign, then one or more ASCII digits of the
base in either letter case. Leading zeros are allowed in any number. Writing in base sixteen pads
with zeros to a least width and uses lower-case letters.
-/

namespace Provisioning.Text

/-- The value of an ASCII digit or letter, the letters of either case counting on from ten. -/
def charValue? (c : Char) : Option Nat :=
  if '0' ≤ c ∧ c ≤ '9' then some (c.toNat - 48)
  else if 'a' ≤ c ∧ c ≤ 'z' then some (c.toNat - 87)
  else if 'A' ≤ c ∧ c ≤ 'Z' then some (c.toNat - 55)
  else none

/-- The value of a character as a digit of the base. -/
def digitValue? (base : Nat) (c : Char) : Option Nat := (charValue? c).filter (· < base)

/-- The number whose more significant digits spell `high` and whose other digits are given. -/
def readDigitsAfter? (base high : Nat) : List Char → Option Nat
  | [] => some high
  | c :: rest =>
    (digitValue? base c).bind fun value => readDigitsAfter? base (base * high + value) rest

/-- The number that one or more digits spell. -/
def readDigits? (base : Nat) (digits : List Char) : Option Nat :=
  if digits.isEmpty then none else readDigitsAfter? base 0 digits

/-- The number that digits after an optional plus sign spell, if it is below the limit. -/
def readUnsigned? (base limit : Nat) (chars : List Char) : Option Nat :=
  let digits := match chars with
    | '+' :: rest => rest
    | _ => chars
  (readDigits? base digits).filter (· < limit)

/-- The base-sixteen digits of a number, padded with zeros to at least the given width. -/
def hexDigits (width n : Nat) : List Char :=
  let digits := Nat.toDigits 16 n
  List.replicate (width - digits.length) '0' ++ digits

/-- The base-sixteen text of a number, padded with zeros to at least the given width. -/
def hex (width n : Nat) : String := String.ofList (hexDigits width n)

/-- A word as `0x` and eight digits. -/
def hexWord (w : UInt32) : String := "0x" ++ hex 8 w.toNat

end Provisioning.Text
