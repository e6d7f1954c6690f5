import Mathlib.Data.List.Forall2
import Mathlib.Data.Nat.Digits.Defs
import Provisioning.Text.Digits

/-! # What is a number in digits

A number is spelled by one or more digits of a base in either letter case (`Spells`), on the command
line also behind a plus sign (`SpellsUnsigned`). Reading accepts these and nothing else, and gives
the number that they spell (`readDigits?_eq_some_iff`, `readUnsigned?_eq_some_iff`). The digits that
a number is written in spell it (`spells_toDigits`), also behind zeros and in the other letter case.
-/

namespace Provisioning.Text

/-- The character is the digit of this value, in one letter case or the other. -/
def IsDigit (base : Nat) (c : Char) (value : Nat) : Prop :=
  value < base ∧ (c = Nat.digitChar value ∨ c = (Nat.digitChar value).toUpper)

/-- One or more digits, the most significant first, spell the number. -/
def Spells (base : Nat) (chars : List Char) (number : Nat) : Prop :=
  chars ≠ [] ∧ ∃ values, List.Forall₂ (IsDigit base) chars values ∧
    number = Nat.ofDigits base values.reverse

/-- Digits with or without a plus sign in front of them spell the number. -/
def SpellsUnsigned (base : Nat) (chars : List Char) (number : Nat) : Prop :=
  ∃ digits, (chars = digits ∨ chars = '+' :: digits) ∧ Spells base digits number

/-- What is to be shown of the characters up to a bound is shown of their numbers. -/
@[elab_as_elim]
theorem of_toNat_lt {P : Char → Prop} {bound : Nat} (c : Char) (small : c.toNat < bound)
    (all : ∀ n < bound, P (Char.ofNat n)) : P c := by
  have this := all c.toNat small
  rwa [Char.ofNat_toNat] at this

/-! ## One digit -/

section Digit

variable {base value : Nat} {c : Char}

theorem toNat_lt_of_charValue? (digit : charValue? c = some value) : c.toNat < 128 := by
  simp only [charValue?, Char.le_def, UInt32.le_iff_toNat_le] at digit
  split_ifs at digit with decimal lower upper
  · exact Nat.lt_of_le_of_lt decimal.2 (by decide)
  · exact Nat.lt_of_le_of_lt lower.2 (by decide)
  · exact Nat.lt_of_le_of_lt upper.2 (by decide)

private theorem charValue?_digitChar (small : value < 16) :
    charValue? (Nat.digitChar value) = some value ∧
      charValue? (Nat.digitChar value).toUpper = some value := by
  have all : ∀ value < 16, charValue? (Nat.digitChar value) = some value ∧
      charValue? (Nat.digitChar value).toUpper = some value := by decide
  exact all value small

private theorem eq_digitChar_of_charValue? (small : value < 16)
    (digit : charValue? c = some value) :
    c = Nat.digitChar value ∨ c = (Nat.digitChar value).toUpper := by
  have all : ∀ value < 16, charValue? c = some value →
      c = Nat.digitChar value ∨ c = (Nat.digitChar value).toUpper :=
    of_toNat_lt c (toNat_lt_of_charValue? digit) (by decide)
  exact all value small digit

theorem digitValue?_eq_some_iff (small : base ≤ 16) :
    digitValue? base c = some value ↔ IsDigit base c value := by
  rw [digitValue?, Option.filter_eq_some_iff, decide_eq_true_eq]
  constructor
  · rintro ⟨digit, fits⟩
    exact ⟨fits, eq_digitChar_of_charValue? (Nat.lt_of_lt_of_le fits small) digit⟩
  · rintro ⟨fits, rfl | rfl⟩
    · exact ⟨(charValue?_digitChar (Nat.lt_of_lt_of_le fits small)).1, fits⟩
    · exact ⟨(charValue?_digitChar (Nat.lt_of_lt_of_le fits small)).2, fits⟩

private theorem isDigit_digitChar (fits : value < base) :
    IsDigit base (Nat.digitChar value) value :=
  ⟨fits, .inl rfl⟩

private theorem charValue?_toLower (c : Char) : charValue? c.toLower = charValue? c := by
  by_cases ascii : c.toNat < 128
  · exact of_toNat_lt c ascii (by decide)
  · have other : ¬ (c.val ≥ 'A'.val ∧ c.val ≤ 'Z'.val) := by
      rintro ⟨_, last⟩
      exact ascii (Nat.lt_of_le_of_lt (UInt32.le_iff_toNat_le.mp last) (by decide))
    have kept : c.toLower = c := dif_neg other
    rw [kept]

private theorem isDigit_toLower_iff (small : base ≤ 16) :
    IsDigit base c.toLower value ↔ IsDigit base c value := by
  simp only [← digitValue?_eq_some_iff small, digitValue?, charValue?_toLower]

private theorem not_isDigit_plus (small : base ≤ 16) : ¬ IsDigit base '+' value := by
  have none : digitValue? base '+' = none := rfl
  rw [← digitValue?_eq_some_iff small, none]
  exact Option.some_ne_none value ∘ Eq.symm

end Digit

/-! ## Digits in a row -/

section Row

variable {base number high : Nat} {chars : List Char}

private theorem readDigitsAfter?_eq_some_iff (small : base ≤ 16) :
    readDigitsAfter? base high chars = some number ↔
      ∃ values, List.Forall₂ (IsDigit base) chars values ∧
        number = Nat.ofDigits base values.reverse + base ^ chars.length * high := by
  induction chars generalizing high with
  | nil =>
    simp only [readDigitsAfter?, List.forall₂_nil_left_iff, exists_eq_left, List.reverse_nil,
      Nat.ofDigits_nil, List.length_nil, Nat.pow_zero, Nat.one_mul, Nat.zero_add, Option.some.injEq]
    exact eq_comm
  | cons c rest ih =>
    have moved (value : Nat) {values : List Nat}
        (same : List.Forall₂ (IsDigit base) rest values) :
        Nat.ofDigits base (value :: values).reverse + base ^ (c :: rest).length * high =
          Nat.ofDigits base values.reverse + base ^ rest.length * (base * high + value) := by
      rw [List.reverse_cons, Nat.ofDigits_append, Nat.ofDigits_singleton, List.length_reverse,
        ← same.length_eq, List.length_cons]
      ring
    simp only [readDigitsAfter?, Option.bind_eq_some_iff, digitValue?_eq_some_iff small, ih]
    constructor
    · rintro ⟨value, digit, values, digits, rfl⟩
      exact ⟨value :: values, .cons digit digits, (moved value digits).symm⟩
    · rintro ⟨_, digits, rfl⟩
      obtain _ | ⟨digit, digits⟩ := digits
      exact ⟨_, digit, _, digits, moved _ digits⟩

theorem readDigits?_eq_some_iff (small : base ≤ 16) :
    readDigits? base chars = some number ↔ Spells base chars number := by
  rw [readDigits?, Spells]
  split
  · rename_i empty
    simp [List.isEmpty_iff.mp empty]
  · rename_i some
    simp only [readDigitsAfter?_eq_some_iff small, Nat.mul_zero, Nat.add_zero]
    exact (and_iff_right fun empty => some (List.isEmpty_iff.mpr empty)).symm

theorem spells_toDigits (large : 1 < base) (number : Nat) :
    Spells base (Nat.toDigits base number) number := by
  refine ⟨Nat.toDigits_ne_nil, ?_⟩
  induction number using Nat.strong_induction_on with
  | _ number ih =>
    rw [Nat.toDigits_eq_if large]
    split
    · rename_i fits
      exact ⟨[number], .cons (isDigit_digitChar fits) .nil, by simp⟩
    · rename_i longer
      have less : number / base < number :=
        Nat.div_lt_self (by omega) large
      obtain ⟨values, digits, spelled⟩ := ih (number / base) less
      have last : IsDigit base (Nat.digitChar (number % base)) (number % base) :=
        isDigit_digitChar (Nat.mod_lt number (by omega))
      refine ⟨values ++ [number % base], List.rel_append digits (.cons last .nil), ?_⟩
      rw [List.reverse_append, List.reverse_singleton, List.singleton_append, Nat.ofDigits_cons,
        ← spelled, Nat.mod_add_div]

theorem Spells.exists_isDigit (spelled : Spells base chars number) {c : Char} (member : c ∈ chars) :
    ∃ value, IsDigit base c value := by
  obtain ⟨-, values, digits, -⟩ := spelled
  induction digits with
  | nil => cases member
  | cons digit _ ih =>
    obtain rfl | member := List.mem_cons.mp member
    · exact ⟨_, digit⟩
    · exact ih member

theorem Spells.behind_zeros (positive : 0 < base) (spelled : Spells base chars number)
    (count : Nat) : Spells base (List.replicate count '0' ++ chars) number := by
  obtain ⟨some, values, digits, rfl⟩ := spelled
  refine ⟨List.append_ne_nil_of_right_ne_nil _ some, List.replicate count 0 ++ values, ?_, ?_⟩
  · refine List.rel_append ?_ digits
    induction count with
    | zero => exact .nil
    | succ count ih => exact .cons (isDigit_digitChar positive) ih
  · rw [List.reverse_append, List.reverse_replicate, Nat.ofDigits_append,
      Nat.ofDigits_replicate_zero, Nat.mul_zero, Nat.add_zero]

/-- The letter case does not matter. -/
theorem spells_map_toLower_iff (small : base ≤ 16) :
    Spells base (chars.map Char.toLower) number ↔ Spells base chars number := by
  simp only [Spells, ne_eq, List.map_eq_nil_iff, List.forall₂_map_left_iff,
    isDigit_toLower_iff small]

end Row

/-! ## A number on the command line -/

theorem readUnsigned?_eq_some_iff {base limit number : Nat} {chars : List Char}
    (small : base ≤ 16) :
    readUnsigned? base limit chars = some number ↔
      SpellsUnsigned base chars number ∧ number < limit := by
  simp only [readUnsigned?, Option.filter_eq_some_iff, decide_eq_true_eq,
    readDigits?_eq_some_iff small]
  refine and_congr_left fun _ => ?_
  split
  · rename_i rest
    constructor
    · intro spelled
      exact ⟨rest, .inr rfl, spelled⟩
    · rintro ⟨digits, rfl | same, spelled⟩
      · obtain ⟨_, _, digits, _⟩ := spelled
        obtain _ | ⟨digit, _⟩ := digits
        exact absurd digit (not_isDigit_plus small)
      · cases same
        exact spelled
  · rename_i unsigned
    constructor
    · intro spelled
      exact ⟨chars, .inl rfl, spelled⟩
    · rintro ⟨digits, rfl | rfl, spelled⟩
      · exact spelled
      · exact absurd rfl (unsigned digits)

/-- What is neither a digit nor the sign is no part of a number. -/
theorem SpellsUnsigned.notMem {base number : Nat} {chars : List Char} {c : Char}
    (small : base ≤ 16) (spelled : SpellsUnsigned base chars number) (unsigned : c ≠ '+')
    (none : digitValue? base c = none) : c ∉ chars := by
  obtain ⟨digits, same, spelled⟩ := spelled
  intro member
  have digit : c ∈ digits := by
    obtain rfl | rfl := same
    · exact member
    · exact List.mem_of_ne_of_mem unsigned member
  obtain ⟨value, found⟩ := spelled.exists_isDigit digit
  rw [← digitValue?_eq_some_iff small, none] at found
  cases found

end Provisioning.Text
