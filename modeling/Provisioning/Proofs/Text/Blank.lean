import Mathlib.Data.List.TakeWhile
import Provisioning.Proofs.Text.Digits
import Provisioning.Text.Blank

/-! # What is left of a text without the blanks around it

A text that neither begins nor ends with a blank is what trimming leaves of it with any blanks put
around it (`Trimmed.eq_trimChars`), and trimming leaves nothing else (`trimmed_trimChars`).
-/

namespace Provisioning.Text

/-- The characters are the inner ones with blanks in front of them and behind, all of them. -/
structure Trimmed (chars inner : List Char) : Prop where
  between : ∃ front behind, chars = front ++ inner ++ behind ∧
    (∀ c ∈ front, isBlank c = true) ∧ ∀ c ∈ behind, isBlank c = true
  first : ∀ c ∈ inner.head?, isBlank c = false
  last : ∀ c ∈ inner.getLast?, isBlank c = false

private theorem isBlank_head?_dropWhile {chars : List Char} {c : Char}
    (first : (chars.dropWhile isBlank).head? = some c) : isBlank c = false := by
  have visible := List.head?_dropWhile_not isBlank chars
  rw [first] at visible
  exact visible

private theorem dropWhile_append_of_visible {chars : List Char} (nonempty : chars ≠ [])
    (first : ∀ c ∈ chars.head?, isBlank c = false) (rest : List Char) :
    (chars ++ rest).dropWhile isBlank = chars ++ rest := by
  obtain ⟨c, others, rfl⟩ := List.exists_cons_of_ne_nil nonempty
  simp [first c rfl]

theorem trimmed_trimChars (chars : List Char) : Trimmed chars (trimChars chars) := by
  have front := List.takeWhile_append_dropWhile (p := isBlank) (l := chars)
  have behind := List.takeWhile_append_dropWhile (p := isBlank)
    (l := (chars.dropWhile isBlank).reverse)
  rw [← List.reverse_inj, List.reverse_append, List.reverse_reverse, ← trimChars] at behind
  refine ⟨⟨chars.takeWhile isBlank,
    ((chars.dropWhile isBlank).reverse.takeWhile isBlank).reverse, ?_, ?_, ?_⟩, ?_, ?_⟩
  · rw [List.append_assoc, behind, front]
  · exact fun c => List.mem_takeWhile_imp
  · exact fun c member => List.mem_takeWhile_imp (List.mem_reverse.mp member)
  · intro c first
    refine @isBlank_head?_dropWhile chars c ?_
    rw [← behind, List.head?_append, Option.mem_def.mp first]
    rfl
  · intro c last
    rw [trimChars, List.getLast?_reverse] at last
    exact isBlank_head?_dropWhile last

theorem Trimmed.eq_trimChars {chars inner : List Char} (trimmed : Trimmed chars inner) :
    inner = trimChars chars := by
  obtain ⟨⟨front, behind, rfl, blank, blankBehind⟩, first, last⟩ := trimmed
  have none : behind.reverse.dropWhile isBlank = [] :=
    List.dropWhile_eq_nil_iff.mpr fun c member => blankBehind c (List.mem_reverse.mp member)
  rw [trimChars, List.append_assoc, List.dropWhile_append_of_pos blank]
  by_cases empty : inner = []
  · subst empty
    rw [List.nil_append, List.dropWhile_eq_nil_iff.mpr blankBehind]
    rfl
  · rw [dropWhile_append_of_visible empty first, List.reverse_append,
      List.dropWhile_append_of_pos fun c member => blankBehind c (List.mem_reverse.mp member)]
    have kept := dropWhile_append_of_visible (mt List.reverse_eq_nil_iff.mp empty)
      (by rwa [List.head?_reverse]) []
    rw [List.append_nil] at kept
    rw [kept, List.reverse_reverse]

/-- What holds no blank is what is left when blanks have been put around it. -/
theorem trimmed_between {front inner behind : List Char} (blank : ∀ c ∈ front, isBlank c = true)
    (visible : ∀ c ∈ inner, isBlank c = false) (blankBehind : ∀ c ∈ behind, isBlank c = true) :
    Trimmed (front ++ inner ++ behind) inner where
  between := ⟨front, behind, rfl, blank, blankBehind⟩
  first c first := visible c (List.mem_of_mem_head? first)
  last c last := visible c (List.mem_of_mem_getLast? last)

theorem visible_of_all {chars : List Char} (all : chars.all (!isBlank ·) = true) :
    ∀ c ∈ chars, isBlank c = false := by
  simpa using all

theorem trimmed_self {chars : List Char} (visible : ∀ c ∈ chars, isBlank c = false) :
    Trimmed chars chars := by
  simpa using trimmed_between (List.forall_mem_nil _) visible (List.forall_mem_nil _)

theorem trimmed_ofList {front inner behind : List Char} (blank : ∀ c ∈ front, isBlank c = true)
    (visible : ∀ c ∈ inner, isBlank c = false) (blankBehind : ∀ c ∈ behind, isBlank c = true) :
    Trimmed (String.ofList (front ++ inner ++ behind)).toList inner := by
  rw [String.toList_ofList]
  exact trimmed_between blank visible blankBehind

theorem Spells.isBlank_eq_false {base number : Nat} {chars : List Char} (small : base ≤ 16)
    (spelled : Spells base chars number) {c : Char} (member : c ∈ chars) : isBlank c = false := by
  obtain ⟨value, digit⟩ := spelled.exists_isDigit member
  rw [← digitValue?_eq_some_iff small, digitValue?, Option.filter_eq_some_iff] at digit
  have visible : (charValue? c).isSome → isBlank c = false :=
    of_toNat_lt c (toNat_lt_of_charValue? digit.1) (by decide)
  exact visible (Option.isSome_of_eq_some digit.1)

end Provisioning.Text
