/-! # Sets of characters

A set of characters is given by the first and last code point of each of its ranges.
-/

namespace Provisioning.Text

abbrev Ranges := List (Nat × Nat)

/-- Whether a character lies in one of the ranges. -/
def Ranges.contains (ranges : Ranges) (c : Char) : Bool :=
  ranges.any fun (first, last) => first ≤ c.toNat && c.toNat ≤ last

end Provisioning.Text
