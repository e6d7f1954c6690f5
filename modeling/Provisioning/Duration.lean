/-! # Spans of time

A span of time counts nanoseconds. Its text uses the largest of the units `s`, `ms`, `µs` and `ns`
of which there is at least one, with the rest behind a point and without zeros at its end.
-/

namespace Provisioning

structure Duration where
  nanos : Nat
  deriving DecidableEq, Repr

namespace Duration

def ofSeconds (n : Nat) : Duration := ⟨n * 1000000000⟩

def ofMillis (n : Nat) : Duration := ⟨n * 1000000⟩

/-- The whole seconds in a span. -/
def seconds (duration : Duration) : Nat := duration.nanos / 1000000000

/-- The nanoseconds of a span beyond its whole seconds. -/
def subsecond (duration : Duration) : Nat := duration.nanos % 1000000000

/-- The digits of `rest` parts of a whole of ten to the power `places`, without zeros at their
end. -/
def fractionDigits (places rest : Nat) : List Char :=
  let digits := Nat.toDigits 10 rest
  let padded := List.replicate (places - digits.length) '0' ++ digits
  (padded.reverse.dropWhile (· = '0')).reverse

/-- A span in a unit that takes ten to the power `places` nanoseconds. -/
def inUnit (duration : Duration) (places : Nat) (unit : String) : String :=
  let whole := duration.nanos / Nat.pow 10 places
  let rest := duration.nanos % Nat.pow 10 places
  let fraction := if rest = 0 then [] else '.' :: fractionDigits places rest
  toString whole ++ String.ofList fraction ++ unit

def text (duration : Duration) : String :=
  if 1000000000 ≤ duration.nanos then duration.inUnit 9 "s"
  else if 1000000 ≤ duration.nanos then duration.inUnit 6 "ms"
  else if 1000 ≤ duration.nanos then duration.inUnit 3 "µs"
  else duration.inUnit 0 "ns"

end Duration

end Provisioning
