import Provisioning.Duration
import Provisioning.ExitStatus
import Provisioning.KeyMaterial
import Provisioning.Text.Blank
import Provisioning.Text.Digits

/-! # Values on the command line

Words, spans of time and ranges of bytes are written in digits. Blank characters around a value do
not count, and every number may have a plus sign in front of it. What cannot be read is a mistake in
usage. The two ends of a range are parted by the first two dots, and `cutDots?_eq_some` says that
nothing else is lost.
-/

namespace Provisioning.Arguments

def usageError (message : String) : Failure := ⟨ExitStatus.usage, message⟩

/-- The word that characters without blanks around them spell: in base sixteen behind `0x`, else in
base ten. Underscores between the digits do not count. -/
def wordOf? (chars : List Char) : Option UInt32 :=
  let read (base : Nat) (digits : List Char) :=
    (Text.readUnsigned? base UInt32.size (digits.filter (· != '_'))).map UInt32.ofNat
  match chars with
  | '0' :: 'x' :: digits | '0' :: 'X' :: digits => read 16 digits
  | digits => read 10 digits

def readWord (text : String) : Except Failure UInt32 :=
  match wordOf? (Text.trimChars text.toList) with
  | some word => .ok word
  | none => .error (usageError ("invalid 32-bit value: " ++ Text.trim text))

/-- The characters in front of a unit of time, and the span of so many of the unit. Without a unit
seconds are meant. -/
def cutUnit (chars : List Char) : List Char × (Nat → Duration) :=
  match chars.reverse with
  | 's' :: 'm' :: digits => (digits.reverse, .ofMillis)
  | 's' :: digits => (digits.reverse, .ofSeconds)
  | _ => (chars, .ofSeconds)

/-- A span of time, which is never empty. -/
def readDuration (text : String) : Except Failure Duration :=
  let chars := Text.trimChars text.toList
  if chars.isEmpty then .error (usageError "duration must not be empty")
  else
    let (digits, ofUnits) := cutUnit chars
    match Text.readUnsigned? 10 UInt64.size digits with
    | none => .error (usageError ("invalid duration value: " ++ String.ofList chars))
    | some 0 => .error (usageError "duration must be greater than zero")
    | some count => .ok (ofUnits count)

/-- What stands in front of the first two dots, and what stands behind them. -/
def cutDots? : List Char → Option (List Char × List Char)
  | [] => none
  | '.' :: '.' :: rest => some ([], rest)
  | c :: rest => (cutDots? rest).map fun (front, behind) => (c :: front, behind)

theorem cutDots?_eq_some {chars front behind : List Char}
    (cut : cutDots? chars = some (front, behind)) : chars = front ++ '.' :: '.' :: behind := by
  fun_induction cutDots? chars generalizing front behind with
  | case1 => cases cut
  | case2 rest =>
    cases cut
    rfl
  | case3 c rest _ ih =>
    obtain ⟨⟨between, behind⟩, found, same⟩ := Option.map_eq_some_iff.mp cut
    cases same
    exact congrArg (c :: ·) (ih found)

/-- The two ends of a range, in whichever order they are given. -/
def endsOf? (chars : List Char) : Option (Nat × Nat) := do
  let (front, behind) ← cutDots? chars
  let start ← Text.readUnsigned? 10 UInt64.size front
  let stop ← Text.readUnsigned? 10 UInt64.size behind
  pure (start, stop)

/-- A range of bytes that does not end before it starts. -/
def readRange (text : String) : Except Failure ByteRange :=
  match endsOf? (Text.trimChars text.toList) with
  | none => .error (usageError ("invalid range (expected START..END): " ++ text))
  | some (start, stop) =>
    if stop < start then .error (usageError s!"range start {start} is past its end {stop}")
    else .ok ⟨start, stop⟩

/-- The speed of a line. Blanks are not allowed, but a minus sign is in front of zero. -/
def speed? (text : String) : Option Nat :=
  match text.toList with
  | '-' :: digits => (Text.readDigits? 10 digits).filter (· = 0)
  | chars => Text.readUnsigned? 10 UInt32.size chars

/-- A number of bytes. Blanks are not allowed. -/
def size? (text : String) : Option Nat := Text.readUnsigned? 10 UInt64.size text.toList

end Provisioning.Arguments
