import Provisioning.Base64

/-! # Base64 read back

The characters of a byte string stand for its bits, six to a character, and are read back here from
the places they have in the alphabet. Padding may stand for what is missing of the last group only,
and the bits that it leaves over must be zero. `decode_encode` says that nothing is lost.
-/

namespace Provisioning.Base64

/-- The characters of the standard alphabet, each in the place of the six bits it stands for. -/
def alphabet : List Char :=
  "ABCDEFGHIJKLMNOPQRSTUVWXYZabcdefghijklmnopqrstuvwxyz0123456789+/".toList

/-- The six bits that a character stands for. -/
def sextet? (c : Char) : Option Nat := alphabet.idxOf? c

/-- The three bytes of four characters. -/
def three? (a b c d : Char) : Option Bytes := do
  let bits := (((← sextet? a) * 64 + (← sextet? b)) * 64 + (← sextet? c)) * 64 + (← sextet? d)
  return [UInt8.ofNat (bits / 65536), UInt8.ofNat (bits / 256), UInt8.ofNat bits]

/-- The two bytes of three characters, whose last two bits must be zero. -/
def two? (a b c : Char) : Option Bytes := do
  let bits := ((← sextet? a) * 64 + (← sextet? b)) * 64 + (← sextet? c)
  if bits % 4 = 0 then some [UInt8.ofNat (bits / 1024), UInt8.ofNat (bits / 4)] else none

/-- The byte of two characters, whose last four bits must be zero. -/
def one? (a b : Char) : Option Bytes := do
  let bits := (← sextet? a) * 64 + (← sextet? b)
  if bits % 16 = 0 then some [UInt8.ofNat (bits / 16)] else none

/-- The bytes that a text stands for. Only its last four characters may end in padding. -/
def decode : List Char → Option Bytes
  | [] => some []
  | [a, b, c, d] => if d ≠ '=' then three? a b c d else if c ≠ '=' then two? a b c else one? a b
  | a :: b :: c :: d :: rest => do return (← three? a b c d) ++ (← decode rest)
  | _ => none

theorem digit_mem : ∀ n < 64, digit n ∈ alphabet := by decide

private theorem sextet?_digit : ∀ n < 64, sextet? (digit n) = some n := by decide

private theorem padding_notMem : '=' ∉ alphabet := by decide

theorem lineFeed_notMem : '\n' ∉ alphabet := by decide

private theorem digit_ne_padding {n : Nat} (small : n < 64) : digit n ≠ '=' := by
  intro same
  have member := digit_mem n small
  rw [same] at member
  exact padding_notMem member

private theorem three?_digits {x y z w bits : Nat} (hx : x < 64) (hy : y < 64) (hz : z < 64)
    (hw : w < 64)
    (joined : ((x * 64 + y) * 64 + z) * 64 + w = bits) :
    three? (digit x) (digit y) (digit z) (digit w) =
      some [UInt8.ofNat (bits / 65536), UInt8.ofNat (bits / 256), UInt8.ofNat bits] := by
  subst joined
  rw [three?, sextet?_digit x hx, sextet?_digit y hy, sextet?_digit z hz, sextet?_digit w hw]
  rfl

private theorem two?_digits {x y z bits : Nat} (hx : x < 64) (hy : y < 64) (hz : z < 64)
    (joined : (x * 64 + y) * 64 + z = bits) (zeros : bits % 4 = 0) :
    two? (digit x) (digit y) (digit z) =
      some [UInt8.ofNat (bits / 1024), UInt8.ofNat (bits / 4)] := by
  subst joined
  rw [two?, sextet?_digit x hx, sextet?_digit y hy, sextet?_digit z hz]
  exact if_pos zeros

private theorem one?_digits {x y bits : Nat} (hx : x < 64) (hy : y < 64)
    (joined : x * 64 + y = bits)
    (zeros : bits % 16 = 0) : one? (digit x) (digit y) = some [UInt8.ofNat (bits / 16)] := by
  subst joined
  rw [one?, sextet?_digit x hx, sextet?_digit y hy]
  exact if_pos zeros

private theorem decode_of_three {a b c d : Char} {front rest : Bytes} {text : List Char}
    (unpadded : d ≠ '=') (first : three? a b c d = some front) (later : decode text = some rest) :
    decode (a :: b :: c :: d :: text) = some (front ++ rest) := by
  cases text with
  | nil =>
    cases later
    rw [decode, if_pos unpadded, first, List.append_nil]
  | cons e text =>
    rw [decode, first, later]
    · rfl
    · nofun

private theorem ofNat_eq {n : Nat} (byte : UInt8) (same : n % 256 = byte.toNat) :
    UInt8.ofNat n = byte := by
  rw [← UInt8.toNat_inj, UInt8.toNat_ofNat', same]

/-- A byte string is read back from its characters. -/
theorem decode_encode (bytes : Bytes) : decode (encode bytes) = some bytes := by
  induction bytes using encode.induct with
  | case1 => rfl
  | case2 a =>
    -- The characters, read as one number, are the byte and four zeros behind it.
    have := a.toNat_lt
    have joined : a.toNat / 4 * 64 + a.toNat % 4 * 16 = a.toNat * 16 := by omega
    have one := one?_digits (by omega) (by omega) joined (by omega)
    rw [encode, decode, if_neg (by decide), if_neg (by decide), one]
    rw [ofNat_eq a (by omega)]
  | case3 a b =>
    have := a.toNat_lt
    have := b.toNat_lt
    have joined : (a.toNat / 4 * 64 + (a.toNat % 4 * 16 + b.toNat / 16)) * 64 + b.toNat % 16 * 4 =
        a.toNat * 1024 + b.toNat * 4 := by omega
    have two := two?_digits (by omega) (by omega) (by omega) joined (by omega)
    rw [encode, decode, if_neg (by decide), if_pos (digit_ne_padding (by omega)), two]
    rw [ofNat_eq a (by omega), ofNat_eq b (by omega)]
  | case4 a b c rest ih =>
    have := a.toNat_lt
    have := b.toNat_lt
    have := c.toNat_lt
    have joined : ((a.toNat / 4 * 64 + (a.toNat % 4 * 16 + b.toNat / 16)) * 64 +
        (b.toNat % 16 * 4 + c.toNat / 64)) * 64 + c.toNat % 64 =
          a.toNat * 65536 + b.toNat * 256 + c.toNat := by omega
    have three := three?_digits (by omega) (by omega) (by omega) (by omega) joined
    rw [encode, decode_of_three (digit_ne_padding (by omega)) three ih]
    rw [ofNat_eq a (by omega), ofNat_eq b (by omega), ofNat_eq c (by omega)]
    rfl

example : encode (Bytes.ofText "fooba") = "Zm9vYmE=".toList := by decide

/-- The padding leaves over two bits that are not zero. -/
example : decode "Zm9vYmF=".toList = none := by decide

end Provisioning.Base64
