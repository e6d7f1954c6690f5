import Provisioning.Arguments.Value
import Provisioning.Proofs.Text.Blank

/-! # Words on the command line

A word is written in base ten, or in base sixteen behind `0x` or `0X`. Underscores do not count once
the prefix has been seen, and one plus sign may stand in front of the digits. What is spelled in
this way and fits in 32 bits is the word that is read, and everything else is a mistake in usage
(`readWord_exactly`). So a word is never read from a number that is too large for it.
-/

namespace Provisioning.Arguments

open Text (SpellsUnsigned Spells Trimmed)

/-- The characters spell the number, behind a prefix in base sixteen and without one in base ten. -/
inductive SpellsWord : List Char → Nat → Prop
  | prefixed {x : Char} {digits : List Char} {number : Nat} (either : x = 'x' ∨ x = 'X')
      (spelled : SpellsUnsigned 16 (digits.filter (· != '_')) number) :
      SpellsWord ('0' :: x :: digits) number
  | plain {chars : List Char} {number : Nat}
      (bare : ∀ x rest, chars = '0' :: x :: rest → ¬ (x = 'x' ∨ x = 'X'))
      (spelled : SpellsUnsigned 10 (chars.filter (· != '_')) number) : SpellsWord chars number

private theorem spellsWord_prefixed_iff {x : Char} {digits : List Char} {number : Nat}
    (either : x = 'x' ∨ x = 'X') :
    SpellsWord ('0' :: x :: digits) number ↔
      SpellsUnsigned 16 (digits.filter (· != '_')) number := by
  constructor
  · rintro (⟨_, spelled⟩ | ⟨bare, _⟩)
    · exact spelled
    · exact absurd either (bare _ _ rfl)
  · exact .prefixed either

private theorem spellsWord_plain_iff {chars : List Char} {number : Nat}
    (bare : ∀ x rest, chars = '0' :: x :: rest → ¬ (x = 'x' ∨ x = 'X')) :
    SpellsWord chars number ↔ SpellsUnsigned 10 (chars.filter (· != '_')) number := by
  constructor
  · rintro (⟨either, _⟩ | ⟨_, spelled⟩)
    · exact absurd either (bare _ _ rfl)
    · exact spelled
  · exact .plain bare

/-- What is read in a base, if it fits in a word. -/
theorem map_readUnsigned?_eq_some_iff {base : Nat} {chars : List Char} {word : UInt32}
    (small : base ≤ 16) :
    (Text.readUnsigned? base UInt32.size chars).map UInt32.ofNat = some word ↔
      SpellsUnsigned base chars word.toNat := by
  simp only [Option.map_eq_some_iff, Text.readUnsigned?_eq_some_iff small]
  constructor
  · rintro ⟨number, ⟨spelled, fits⟩, rfl⟩
    rwa [UInt32.toNat_ofNat_of_lt' fits]
  · intro spelled
    exact ⟨word.toNat, ⟨spelled, word.toNat_lt⟩, UInt32.ofNat_toNat⟩

private theorem wordOf?_eq_some_iff {chars : List Char} {word : UInt32} :
    wordOf? chars = some word ↔ SpellsWord chars word.toNat := by
  unfold wordOf?
  split
  · rw [spellsWord_prefixed_iff (.inl rfl)]
    exact map_readUnsigned?_eq_some_iff (by decide)
  · rw [spellsWord_prefixed_iff (.inr rfl)]
    exact map_readUnsigned?_eq_some_iff (by decide)
  · rename_i lower upper
    rw [spellsWord_plain_iff]
    · exact map_readUnsigned?_eq_some_iff (by decide)
    · rintro x rest same (rfl | rfl)
      · exact lower rest same
      · exact upper rest same

private theorem wordOf?_eq_none_iff {chars : List Char} :
    wordOf? chars = none ↔ ¬ ∃ number < UInt32.size, SpellsWord chars number := by
  rw [Option.eq_none_iff_forall_ne_some]
  constructor
  · rintro none ⟨number, fits, spelled⟩
    refine none (UInt32.ofNat number) (wordOf?_eq_some_iff.mpr ?_)
    rwa [UInt32.toNat_ofNat_of_lt' fits]
  · intro none word read
    exact none ⟨word.toNat, word.toNat_lt, wordOf?_eq_some_iff.mp read⟩

private theorem readWord_eq {text : String} {chars : List Char}
    (trimmed : Trimmed text.toList chars) :
    readWord text = match wordOf? chars with
      | some word => .ok word
      | none => .error (usageError ("invalid 32-bit value: " ++ String.ofList chars)) := by
  rw [trimmed.eq_trimChars]
  rfl

private theorem readWord_eq_ok_iff {text : String} {chars : List Char}
    (trimmed : Trimmed text.toList chars) (word : UInt32) :
    readWord text = .ok word ↔ SpellsWord chars word.toNat := by
  rw [readWord_eq trimmed, ← wordOf?_eq_some_iff]
  cases wordOf? chars <;> simp

private theorem readWord_eq_error_iff {text : String} {chars : List Char}
    (trimmed : Trimmed text.toList chars) :
    readWord text = .error (usageError ("invalid 32-bit value: " ++ String.ofList chars)) ↔
      ¬ ∃ number < UInt32.size, SpellsWord chars number := by
  rw [readWord_eq trimmed, ← wordOf?_eq_none_iff]
  cases wordOf? chars <;> simp

/-! ## Ways to write a word -/

section Written

variable {body : List Char} {base zeros number : Nat}

private theorem isBlank_eq_false_of_filter (small : base ≤ 16)
    (spelled : Spells base (body.filter (· != '_')) number) :
    ∀ c ∈ body, Text.isBlank c = false := by
  intro c member
  by_cases underscore : c = '_'
  · subst underscore
    rfl
  · exact spelled.isBlank_eq_false small
      (List.mem_filter.mpr ⟨member, bne_iff_ne.mpr underscore⟩)

private theorem spells_decimal
    (same : body.filter (· != '_') = List.replicate zeros '0' ++ Nat.toDigits 10 number) :
    Spells 10 (body.filter (· != '_')) number := by
  rw [same]
  exact (Text.spells_toDigits (by decide) number).behind_zeros (by decide) zeros

private theorem spells_hexadecimal
    (same : (body.filter (· != '_')).map Char.toLower =
      List.replicate zeros '0' ++ Nat.toDigits 16 number) :
    Spells 16 (body.filter (· != '_')) number := by
  rw [← Text.spells_map_toLower_iff (by decide), same]
  exact (Text.spells_toDigits (by decide) number).behind_zeros (by decide) zeros

/-- Digits in base ten are never taken for a prefix. -/
theorem SpellsWord.of_decimal (spelled : Spells 10 (body.filter (· != '_')) number) :
    SpellsWord body number := by
  refine .plain (fun x rest same letter => ?_) ⟨_, .inl rfl, spelled⟩
  have member : x ∈ body := same ▸ List.mem_cons_of_mem _ List.mem_cons_self
  have counts : (x != '_') = true := by obtain rfl | rfl := letter <;> rfl
  obtain ⟨value, digit⟩ := spelled.exists_isDigit (List.mem_filter.mpr ⟨member, counts⟩)
  rw [← Text.digitValue?_eq_some_iff (by decide)] at digit
  obtain rfl | rfl := letter <;> cases digit

end Written

/-- What is read is the word that the characters between the blanks spell, in one base or the other,
and the rest is a mistake in usage. A word is read from its digits in either base, with zeros in
front of them, underscores between them and blanks around them, and in either letter case. -/
theorem readWord_exactly :
    (∀ text chars, Trimmed text.toList chars →
      (∀ word, readWord text = .ok word ↔ SpellsWord chars word.toNat) ∧
      (readWord text =
          .error (usageError ("invalid 32-bit value: " ++ String.ofList chars)) ↔
        ¬ ∃ number < UInt32.size, SpellsWord chars number)) ∧
    ∀ (word : UInt32) (zeros : Nat) (front body behind : List Char),
      (∀ c ∈ front, Text.isBlank c = true) → (∀ c ∈ behind, Text.isBlank c = true) →
      (body.filter (· != '_') = List.replicate zeros '0' ++ Nat.toDigits 10 word.toNat →
        readWord (String.ofList (front ++ body ++ behind)) = .ok word) ∧
      ((body.filter (· != '_')).map Char.toLower =
          List.replicate zeros '0' ++ Nat.toDigits 16 word.toNat →
        ∀ x, x = 'x' ∨ x = 'X' →
          readWord (String.ofList (front ++ '0' :: x :: body ++ behind)) = .ok word) := by
  refine ⟨fun text chars trimmed => ?_, ?_⟩
  · exact ⟨readWord_eq_ok_iff trimmed, readWord_eq_error_iff trimmed⟩
  intro word zeros front body behind blank blankBehind
  have between {inner : List Char} (visible : ∀ c ∈ inner, Text.isBlank c = false) :
      Trimmed (String.ofList (front ++ inner ++ behind)).toList inner := by
    rw [String.toList_ofList]
    exact Text.trimmed_between blank visible blankBehind
  constructor
  · intro same
    have spelled := spells_decimal same
    have visible := isBlank_eq_false_of_filter (by decide) spelled
    exact (readWord_eq_ok_iff (between visible) word).mpr (.of_decimal spelled)
  · intro same x either
    have spelled := spells_hexadecimal same
    have visible : ∀ c ∈ '0' :: x :: body, Text.isBlank c = false := by
      simp only [List.forall_mem_cons]
      refine ⟨rfl, ?_, isBlank_eq_false_of_filter (by decide) spelled⟩
      obtain rfl | rfl := either <;> rfl
    exact (readWord_eq_ok_iff (between visible) word).mpr
      (.prefixed either ⟨_, .inl rfl, spelled⟩)

/-- One word in either base, in both letter cases and with underscores, zeros and blanks. -/
theorem readWord_exactly_mixed :
    let front := ['\t', ' ']
    let digits := "47_824".toList
    let body := "_00bA_d0".toList
    let chars := '0' :: 'X' :: body
    let text := String.ofList (front ++ chars ++ ['\n'])
    Trimmed text.toList chars ∧
      (∀ c ∈ front, Text.isBlank c = true) ∧ (∀ c ∈ ['\n'], Text.isBlank c = true) ∧
      digits.filter (· != '_') =
        List.replicate 0 '0' ++ Nat.toDigits 10 (0xbad0 : UInt32).toNat ∧
      (body.filter (· != '_')).map Char.toLower =
        List.replicate 2 '0' ++ Nat.toDigits 16 (0xbad0 : UInt32).toNat ∧
      readWord (String.ofList (front ++ digits ++ ['\n'])) = .ok 0xbad0 ∧
      readWord text = .ok 0xbad0 ∧ SpellsWord chars 0xbad0 := by
  intro front digits body chars text
  have blank : ∀ c ∈ front, Text.isBlank c = true := List.all_eq_true.mp rfl
  have blankBehind : ∀ c ∈ ['\n'], Text.isBlank c = true := List.all_eq_true.mp rfl
  have visible : ∀ c ∈ chars, Text.isBlank c = false := by
    have all : chars.all (!Text.isBlank ·) = true := rfl
    simpa using all
  have trimmed : Trimmed text.toList chars := by
    rw [String.toList_ofList]
    exact Text.trimmed_between blank visible blankBehind
  have decimal : digits.filter (· != '_') =
      List.replicate 0 '0' ++ Nat.toDigits 10 (0xbad0 : UInt32).toNat := by decide
  have hexadecimal : (body.filter (· != '_')).map Char.toLower =
      List.replicate 2 '0' ++ Nat.toDigits 16 (0xbad0 : UInt32).toNat := by decide
  obtain ⟨grammar, written⟩ := readWord_exactly
  have read := (written 0xbad0 0 front digits ['\n'] blank blankBehind).1 decimal
  have same := (written 0xbad0 2 front body ['\n'] blank blankBehind).2 hexadecimal 'X' (.inr rfl)
  exact ⟨trimmed, blank, blankBehind, decimal, hexadecimal, read, same,
    ((grammar text chars trimmed).1 _).mp same⟩

end Provisioning.Arguments
