import Provisioning.Proofs.Arguments.Settled
import Provisioning.Proofs.Text.Blank

/-! # Spans of time on the command line

A span is written as a number of seconds or, in front of `ms`, of milliseconds; an `s` behind
seconds may be left out, and nothing stands between the number and its unit. What is spelled in
this way is the span that is read, if the number fits in 64 bits and is not zero, and everything
else is a mistake in usage that is named exactly (`readDuration_exactly`). Both units end in the
same letter, but no number ends in the letter that tells them apart, so that the unit is never in
doubt.
-/

namespace Provisioning.Arguments

open Text (SpellsUnsigned Trimmed)

/-- The units behind a number, where seconds need not be named. -/
inductive TimeUnit
  | unmarked
  | seconds
  | millis

namespace TimeUnit

/-- What stands behind the number. -/
def mark : TimeUnit → List Char
  | unmarked => []
  | seconds => ['s']
  | millis => ['m', 's']

/-- So many of the unit, as whole seconds and the nanoseconds beyond them. -/
def parts (unit : TimeUnit) (count : Nat) : Nat × Nat :=
  match unit with
  | unmarked | seconds => (count, 0)
  | millis => (count / 1000, count % 1000 * 1000000)

/-- The span that is so many of the unit long. -/
def span : TimeUnit → Nat → Duration
  | unmarked | seconds => .ofSeconds
  | millis => .ofMillis

private theorem parts_eq_iff (unit : TimeUnit) (count : Nat) (span : Duration) :
    (span.seconds, span.subsecond) = unit.parts count ↔ span = unit.span count := by
  obtain ⟨nanos⟩ := span
  cases unit <;>
    simp only [parts, TimeUnit.span, Duration.seconds, Duration.subsecond, Duration.ofSeconds,
      Duration.ofMillis, Prod.mk.injEq, Duration.mk.injEq] <;>
    omega

private theorem isBlank_eq_false (unit : TimeUnit) : ∀ c ∈ unit.mark, Text.isBlank c = false := by
  apply Text.visible_of_all
  cases unit <;> rfl

private theorem nanos_span_pos (unit : TimeUnit) {count : Nat} (positive : 0 < count) :
    0 < (unit.span count).nanos := by
  cases unit <;> simp only [span, Duration.ofSeconds, Duration.ofMillis] <;> omega

end TimeUnit

/-- The characters spell a number, with the mark of a unit right behind it. -/
def SpellsSpan (chars : List Char) (unit : TimeUnit) (count : Nat) : Prop :=
  ∃ digits, chars = digits ++ unit.mark ∧ SpellsUnsigned 10 digits count

/-- What is wrong with characters that are not read as a span of time. -/
inductive SpanFault : List Char → String → Prop
  | empty : SpanFault [] "duration must not be empty"
  | zero {chars : List Char} {unit : TimeUnit} (spelled : SpellsSpan chars unit 0) :
      SpanFault chars "duration must be greater than zero"
  | unread {chars : List Char} (nonempty : chars ≠ [])
      (unread : ¬ ∃ unit, ∃ count < UInt64.size, SpellsSpan chars unit count) :
      SpanFault chars ("invalid duration value: " ++ String.ofList chars)

/-! ## The unit behind a number -/

private theorem marks_notMem {digits : List Char} {count : Nat}
    (spelled : SpellsUnsigned 10 digits count) :
    's' ∉ digits ∧ 'm' ∉ digits :=
  ⟨spelled.notMem (by decide) (by decide) rfl, spelled.notMem (by decide) (by decide) rfl⟩

private theorem exists_cutUnit (chars : List Char) :
    ∃ (unit : TimeUnit) (digits : List Char),
      chars = digits ++ unit.mark ∧ cutUnit chars = (digits, unit.span) := by
  have turned := List.reverse_reverse chars
  unfold cutUnit
  split
  · rename_i digits same
    rw [same, List.reverse_cons, List.reverse_cons, List.append_assoc] at turned
    exact ⟨.millis, digits.reverse, turned.symm, rfl⟩
  · rename_i digits _ same
    rw [same, List.reverse_cons] at turned
    exact ⟨.seconds, digits.reverse, turned.symm, rfl⟩
  · exact ⟨.unmarked, chars, (List.append_nil chars).symm, rfl⟩

private theorem cutUnit_append (unit : TimeUnit) {digits : List Char} (seconds : 's' ∉ digits)
    (millis : 'm' ∉ digits) : cutUnit (digits ++ unit.mark) = (digits, unit.span) := by
  -- Where the cut takes more than the mark, the last of the digits is a letter.
  have last {c : Char} {others : List Char} (same : digits.reverse = c :: others) :
      c ∈ digits := by
    rw [← List.mem_reverse, same]
    exact List.mem_cons_self
  unfold cutUnit
  cases unit with
  | unmarked =>
    rw [TimeUnit.mark, List.append_nil]
    split
    · rename_i same
      exact absurd (last same) seconds
    · rename_i same
      exact absurd (last same) seconds
    · rfl
  | seconds =>
    rw [TimeUnit.mark, List.reverse_append, List.reverse_singleton, List.singleton_append]
    split
    · rename_i same
      exact absurd (last (List.cons.inj same).2) millis
    · rename_i same
      rw [← (List.cons.inj same).2, List.reverse_reverse]
      rfl
    · rename_i other
      exact absurd rfl (other _)
  | millis =>
    have turned : (digits ++ TimeUnit.millis.mark).reverse = 's' :: 'm' :: digits.reverse :=
      List.reverse_append
    rw [turned]
    exact congrArg (·, Duration.ofMillis) digits.reverse_reverse

theorem SpellsSpan.cutUnit_eq {chars : List Char} {unit : TimeUnit} {count : Nat}
    (spelled : SpellsSpan chars unit count) :
    ∃ digits, cutUnit chars = (digits, unit.span) ∧ SpellsUnsigned 10 digits count := by
  obtain ⟨digits, rfl, spelled⟩ := spelled
  obtain ⟨seconds, millis⟩ := marks_notMem spelled
  exact ⟨digits, cutUnit_append unit seconds millis, spelled⟩

/-- No number ends in the letter that tells the two units apart. -/
theorem SpellsSpan.of_millis {digits : List Char} {unit : TimeUnit} {count : Nat}
    (spelled : SpellsSpan (digits ++ TimeUnit.millis.mark) unit count) :
    unit = .millis ∧ SpellsUnsigned 10 digits count := by
  obtain ⟨number, same, spelled⟩ := spelled
  obtain ⟨seconds, millis⟩ := marks_notMem spelled
  cases unit with
  | unmarked =>
    rw [TimeUnit.mark, TimeUnit.mark, List.append_nil] at same
    exact absurd (same ▸ List.mem_append_right digits (by decide)) seconds
  | seconds =>
    have parted : (digits ++ ['m']) ++ ['s'] = number ++ ['s'] :=
      (List.append_assoc digits ['m'] ['s']).trans same
    have ending : digits ++ ['m'] = number := List.append_cancel_right parted
    exact absurd (ending ▸ List.mem_append_right digits (by decide)) millis
  | millis =>
    obtain rfl : digits = number := List.append_cancel_right same
    exact ⟨rfl, spelled⟩

/-! ## What is read -/

section Read

variable {text : String} {chars : List Char} {unit : TimeUnit} {count : Nat}

theorem SpellsSpan.ne_nil (spelled : SpellsSpan chars unit count) : chars ≠ [] := by
  rintro rfl
  obtain ⟨_, same, digits, either, nonempty, _⟩ := spelled
  obtain ⟨rfl, -⟩ := List.append_eq_nil_iff.mp same.symm
  obtain rfl | signed := either
  · exact nonempty rfl
  · cases signed

private theorem readDuration_of_ne_nil (trimmed : Trimmed text.toList chars)
    (nonempty : chars ≠ []) :
    readDuration text = match Text.readUnsigned? 10 UInt64.size (cutUnit chars).1 with
      | none => .error (usageError ("invalid duration value: " ++ String.ofList chars))
      | some 0 => .error (usageError "duration must be greater than zero")
      | some count => .ok ((cutUnit chars).2 count) := by
  have filled : chars.isEmpty = false := List.isEmpty_eq_false_iff.mpr nonempty
  rw [readDuration, ← trimmed.eq_trimChars, filled]
  rfl

private theorem readDuration_of_spells (trimmed : Trimmed text.toList chars)
    (spelled : SpellsSpan chars unit count) (fits : count < UInt64.size) :
    readDuration text = if count = 0 then .error (usageError "duration must be greater than zero")
      else .ok (unit.span count) := by
  obtain ⟨digits, cut, number⟩ := spelled.cutUnit_eq
  have read : Text.readUnsigned? 10 UInt64.size digits = some count :=
    (Text.readUnsigned?_eq_some_iff (by decide)).mpr ⟨number, fits⟩
  rw [readDuration_of_ne_nil trimmed spelled.ne_nil, cut, read]
  cases count <;> rfl

private theorem readDuration_of_unread (trimmed : Trimmed text.toList chars) (nonempty : chars ≠ [])
    (unread : ¬ ∃ unit, ∃ count < UInt64.size, SpellsSpan chars unit count) :
    readDuration text =
      .error (usageError ("invalid duration value: " ++ String.ofList chars)) := by
  obtain ⟨unit, digits, same, cut⟩ := exists_cutUnit chars
  have none : Text.readUnsigned? 10 UInt64.size digits = none := by
    rw [Option.eq_none_iff_forall_ne_some]
    intro count read
    obtain ⟨number, fits⟩ := (Text.readUnsigned?_eq_some_iff (by decide)).mp read
    exact unread ⟨unit, count, fits, digits, same, number⟩
  rw [readDuration_of_ne_nil trimmed nonempty, cut, none]

private theorem readDuration_settled (trimmed : Trimmed text.toList chars) :
    Settled (readDuration text)
      (fun span => ∃ unit count, SpellsSpan chars unit count ∧ 0 < count ∧ count < UInt64.size ∧
        span = unit.span count)
      (SpanFault chars) where
  accepts := by
    rintro _ ⟨unit, count, spelled, positive, fits, rfl⟩
    rw [readDuration_of_spells trimmed spelled fits, if_neg (Nat.ne_of_gt positive)]
  refuses := by
    intro message fault
    cases fault with
    | empty =>
      rw [readDuration, ← trimmed.eq_trimChars]
      rfl
    | zero spelled => exact readDuration_of_spells trimmed spelled (by decide)
    | unread nonempty unread => exact readDuration_of_unread trimmed nonempty unread
  total := by
    by_cases empty : chars = []
    · subst empty
      exact .inr ⟨_, .empty⟩
    by_cases spelled : ∃ unit, ∃ count < UInt64.size, SpellsSpan chars unit count
    · obtain ⟨unit, count, fits, spelled⟩ := spelled
      obtain rfl | positive := Nat.eq_zero_or_pos count
      · exact .inr ⟨_, .zero spelled⟩
      · exact .inl ⟨_, unit, count, spelled, positive, fits, rfl⟩
    · exact .inr ⟨_, .unread empty spelled⟩

/-- A number of a unit is read as it is written. -/
theorem readDuration_written (unit : TimeUnit)
    (same : text.toList = Nat.toDigits 10 count ++ unit.mark) (positive : 0 < count)
    (fits : count < UInt64.size) :
    readDuration text = .ok (unit.span count) := by
  have number := Text.spells_toDigits (by decide : 1 < 10) count
  have visible : ∀ c ∈ Nat.toDigits 10 count ++ unit.mark, Text.isBlank c = false := by
    intro c member
    obtain digit | mark := List.mem_append.mp member
    · exact number.isBlank_eq_false (by decide) digit
    · exact unit.isBlank_eq_false c mark
  have trimmed : Trimmed text.toList (Nat.toDigits 10 count ++ unit.mark) := by
    rw [same]
    exact Text.trimmed_self visible
  apply (readDuration_settled trimmed).accepts
  exact ⟨unit, count, ⟨_, rfl, _, .inl rfl, number⟩, positive, fits, rfl⟩

end Read

/-- What is read is the span that the characters between the blanks spell as seconds or
milliseconds, if it is not empty and its number fits in 64 bits, and the rest is a mistake in usage.
Milliseconds are never taken for seconds, and every number of either is read as it is written. -/
theorem readDuration_exactly :
    (∀ text chars, Trimmed text.toList chars →
      (∀ span, readDuration text = .ok span ↔
        ∃ unit count, SpellsSpan chars unit count ∧ 0 < count ∧ count < UInt64.size ∧
          (span.seconds, span.subsecond) = unit.parts count) ∧
      (∀ failure, readDuration text = .error failure ↔
        ∃ message, SpanFault chars message ∧ failure = ⟨ExitStatus.usage, message⟩) ∧
      ∀ digits span, chars = digits ++ ['m', 's'] → readDuration text = .ok span →
        ∃ count, SpellsUnsigned 10 digits count ∧
          (span.seconds, span.subsecond) = (count / 1000, count % 1000 * 1000000)) ∧
    (∀ text span, readDuration text = .ok span → 0 < span.nanos) ∧
    ∀ count, 0 < count → count < UInt64.size →
      readDuration (toString count ++ "ms") = .ok (.ofMillis count) ∧
      readDuration (toString count ++ "s") = .ok (.ofSeconds count) := by
  refine ⟨?_, ?_, ?_⟩
  · intro text chars trimmed
    have settled := readDuration_settled trimmed
    simp only [TimeUnit.parts_eq_iff]
    refine ⟨settled.eq_ok_iff, settled.eq_error_iff, ?_⟩
    rintro digits _ rfl read
    obtain ⟨unit, count, spelled, -, -, rfl⟩ := (settled.eq_ok_iff _).mp read
    obtain ⟨rfl, number⟩ := SpellsSpan.of_millis spelled
    exact ⟨count, number, (TimeUnit.millis.parts_eq_iff count _).mpr rfl⟩
  · intro text span read
    have settled := readDuration_settled (Text.trimmed_trimChars text.toList)
    obtain ⟨unit, count, -, positive, -, rfl⟩ := (settled.eq_ok_iff span).mp read
    exact unit.nanos_span_pos positive
  · intro count positive fits
    constructor
    · exact readDuration_written .millis (by simp [TimeUnit.mark]) positive fits
    · exact readDuration_written .seconds (by simp [TimeUnit.mark]) positive fits

/-- Milliseconds between blanks, with a sign and a zero in front of their number. -/
theorem readDuration_exactly_signed :
    let digits := "+01500".toList
    let chars := digits ++ ['m', 's']
    let text := String.ofList (['\t'] ++ chars ++ ['\n'])
    Trimmed text.toList chars ∧ SpellsSpan chars .millis 1500 ∧ 0 < 1500 ∧ 1500 < UInt64.size ∧
      readDuration text = .ok ⟨1500000000⟩ ∧
      (∃ count, SpellsUnsigned 10 digits count ∧
        (1, 500000000) = (count / 1000, count % 1000 * 1000000)) ∧
      0 < (⟨1500000000⟩ : Duration).nanos ∧
      readDuration (toString 1500 ++ "ms") = .ok ⟨1500000000⟩ := by
  intro digits chars text
  have trimmed : Trimmed text.toList chars :=
    Text.trimmed_ofList (List.all_eq_true.mp rfl) (Text.visible_of_all rfl)
      (List.all_eq_true.mp rfl)
  have number : SpellsUnsigned 10 digits 1500 ∧ 1500 < UInt64.size :=
    (Text.readUnsigned?_eq_some_iff (by decide)).mp rfl
  have spelled : SpellsSpan chars .millis 1500 := ⟨digits, rfl, number.1⟩
  obtain ⟨grammar, positive, written⟩ := readDuration_exactly
  obtain ⟨accepted, -, millis⟩ := grammar text chars trimmed
  have read : readDuration text = .ok ⟨1500000000⟩ :=
    (accepted _).mpr ⟨.millis, 1500, spelled, by decide, number.2, rfl⟩
  exact ⟨trimmed, spelled, by decide, number.2, read, millis digits _ rfl read,
    positive text _ read, (written 1500 (by decide) number.2).1⟩

end Provisioning.Arguments
