import Provisioning.Bytes

/-! # Base64

The standard alphabet with padding: three bytes become four characters, and a group of one or two
bytes is filled up with equals signs. In the MIME layout the text is cut into lines of 76
characters, each ending in a line feed. That many characters stand for 57 bytes, so a line is the
encoding of the next 57 bytes.
-/

namespace Provisioning.Base64

/-- The character for six bits. -/
def digit (n : Nat) : Char :=
  if n < 26 then Char.ofNat (65 + n)
  else if n < 52 then Char.ofNat (71 + n)
  else if n < 62 then Char.ofNat (n - 4)
  else if n = 62 then '+'
  else '/'

/-- The characters of a byte string, on one line. -/
def encode : Bytes → List Char
  | [] => []
  | [a] => [digit (a.toNat / 4), digit (a.toNat % 4 * 16), '=', '=']
  | [a, b] =>
    [digit (a.toNat / 4), digit (a.toNat % 4 * 16 + b.toNat / 16), digit (b.toNat % 16 * 4), '=']
  | a :: b :: c :: rest =>
    digit (a.toNat / 4) :: digit (a.toNat % 4 * 16 + b.toNat / 16) ::
      digit (b.toNat % 16 * 4 + c.toNat / 64) :: digit (c.toNat % 64) :: encode rest

/-- How many bytes a full line stands for. -/
def lineBytes : Nat := 57

/-- The lines of the MIME layout, without their line feeds. -/
def mimeLines (bytes : Bytes) : List (List Char) :=
  if bytes.isEmpty then []
  else encode (bytes.take lineBytes) :: mimeLines (bytes.drop lineBytes)
termination_by bytes.length
decreasing_by
  rename_i nonempty
  have : bytes.length ≠ 0 := fun empty => nonempty (by simp [List.length_eq_zero_iff.mp empty])
  have : 0 < lineBytes := by decide
  simp only [List.length_drop]
  omega

/-- The text of a byte string in the MIME layout. -/
def mime (bytes : Bytes) : String := String.ofList ((mimeLines bytes).flatMap (· ++ ['\n']))

end Provisioning.Base64
