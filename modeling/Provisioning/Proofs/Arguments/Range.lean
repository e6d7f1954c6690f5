import Provisioning.Proofs.Arguments.Settled
import Provisioning.Proofs.Text.Blank

/-! # Ranges of bytes on the command line

A range is written as its two ends with two dots between them. Of several dots in a row the first
two count, so that a third one spoils the end behind it. What is spelled in this way is the range
that is read, if its ends are in order and fit in 64 bits, and everything else is a mistake in
usage.

A range that has been read selects from a certificate the bytes between its ends, as far as there
are any: it never reaches outside, and it leaves nothing out only if it starts at the first byte and
ends behind the last (`readRange_exactly`).
-/

namespace Provisioning

/-! ## What a range selects -/

/-- The part is what stands in the bytes from one of their positions up to another. -/
structure Bytes.CutOut (bytes : Bytes) (first last : Nat) (part : Bytes) : Prop where
  ordered : first ≤ last
  inside : last ≤ bytes.length
  whole : bytes = bytes.take first ++ part ++ bytes.drop last

private theorem Bytes.cutOut_take_drop {bytes : Bytes} {first last : Nat} (ordered : first ≤ last)
    (inside : last ≤ bytes.length) :
    CutOut bytes first last ((bytes.drop first).take (last - first)) := by
  refine ⟨ordered, inside, ?_⟩
  have rest : bytes.drop last = (bytes.drop first).drop (last - first) := by
    rw [List.drop_drop, Nat.add_sub_cancel' ordered]
  rw [rest, List.append_assoc, List.take_append_drop, List.take_append_drop]

theorem Bytes.CutOut.length_eq {bytes part : Bytes} {first last : Nat}
    (cut : CutOut bytes first last part) : part.length = last - first := by
  have total := congrArg List.length cut.whole
  have ordered := cut.ordered
  have inside := cut.inside
  simp only [List.length_append, List.length_take, List.length_drop] at total
  omega

namespace ByteRange

variable (range : ByteRange) (bytes : Bytes)

private theorem slice_eq_take_drop :
    range.slice bytes = (bytes.drop range.start).take (range.stop - range.start) :=
  List.drop_take

/-- Ends that lie behind the last byte, or in the wrong order, are moved to where they fit. -/
theorem cutOut_slice :
    bytes.CutOut (min range.start bytes.length)
      (max (min range.stop bytes.length) (min range.start bytes.length)) (range.slice bytes) := by
  have ordered := Nat.le_max_right (min range.stop bytes.length) (min range.start bytes.length)
  have inside : max (min range.stop bytes.length) (min range.start bytes.length) ≤ bytes.length :=
    Nat.max_le.mpr ⟨Nat.min_le_right _ _, Nat.min_le_right _ _⟩
  have cut := Bytes.cutOut_take_drop ordered inside
  rw [slice_eq_take_drop]
  -- Behind the last byte nothing is left to take; up to there only the lengths have to agree.
  obtain begun | past := Nat.le_total range.start bytes.length
  · have same : (bytes.drop range.start).take (range.stop - range.start) =
        (bytes.drop range.start).take
          (max (min range.stop bytes.length) range.start - range.start) := by
      rw [List.take_eq_take_iff, List.length_drop]
      omega
    rw [Nat.min_eq_left begun] at cut ⊢
    rwa [same]
  · rw [Nat.min_eq_right past] at cut ⊢
    rw [List.drop_length, List.take_nil] at cut
    rwa [List.drop_eq_nil_of_le past, List.take_nil]

theorem slice_eq_self_iff :
    range.slice bytes = bytes ↔ bytes = [] ∨ range.start = 0 ∧ bytes.length ≤ range.stop := by
  constructor
  · intro same
    have kept := (range.cutOut_slice bytes).length_eq
    rw [same] at kept
    by_cases empty : bytes = []
    · exact .inl empty
    · have positive := List.length_pos_iff.mpr empty
      right
      omega
  · rintro (rfl | ⟨start, stop⟩)
    · simp [slice]
    · rw [slice, start, List.drop_zero, List.take_of_length_le stop]

end ByteRange

namespace Arguments

open Text (SpellsUnsigned Trimmed)

/-! ## The dots between the ends -/

/-- The dots between the two parts are the first two in a row. -/
structure FirstDots (chars front behind : List Char) : Prop where
  parted : chars = front ++ '.' :: '.' :: behind
  first : ∀ earlier rest, chars = earlier ++ '.' :: '.' :: rest → front.length ≤ earlier.length

/-- Wherever dots stand, those that are found do not stand behind them. -/
theorem cutDots?_of_dots {chars earlier rest : List Char}
    (dots : chars = earlier ++ '.' :: '.' :: rest) :
    ∃ front behind, cutDots? chars = some (front, behind) ∧ front.length ≤ earlier.length := by
  fun_induction cutDots? chars generalizing earlier with
  | case1 => exact absurd dots.symm (by simp)
  | case2 behind => exact ⟨[], behind, rfl, Nat.zero_le _⟩
  | case3 c others single ih =>
    cases earlier with
    | nil =>
      -- The characters would begin with two dots, which is the case before.
      cases dots
      exact absurd rfl (single rest rfl)
    | cons _ earlier =>
      obtain ⟨rfl, others⟩ := List.cons.inj dots
      obtain ⟨front, behind, cut, short⟩ := ih others
      refine ⟨c :: front, behind, ?_, Nat.succ_le_succ short⟩
      rw [cut, Option.map_some]

private theorem cutDots?_eq_some_iff {chars front behind : List Char} :
    cutDots? chars = some (front, behind) ↔ FirstDots chars front behind := by
  constructor
  · intro cut
    refine ⟨cutDots?_eq_some cut, fun earlier rest dots => ?_⟩
    obtain ⟨_, _, found, short⟩ := cutDots?_of_dots dots
    cases cut.symm.trans found
    exact short
  · rintro ⟨parted, first⟩
    obtain ⟨found, rest, cut, short⟩ := cutDots?_of_dots parted
    have dots := cutDots?_eq_some cut
    have long := first found rest dots
    obtain ⟨rfl, tails⟩ := List.append_inj (dots.symm.trans parted) (Nat.le_antisymm short long)
    cases tails
    exact cut

/-! ## What is read -/

/-- The characters spell the two ends of a range, with the first two dots between them. -/
def SpellsRange (chars : List Char) (range : ByteRange) : Prop :=
  ∃ front behind, FirstDots chars front behind ∧
    SpellsUnsigned 10 front range.start ∧ SpellsUnsigned 10 behind range.stop

/-- What is wrong with a text that is not read as a range, where the characters are those between
its blanks. -/
inductive RangeFault (text : String) (chars : List Char) : String → Prop
  | backwards {range : ByteRange} (spelled : SpellsRange chars range)
      (fits : range.start < UInt64.size) (past : range.stop < range.start) :
      RangeFault text chars s!"range start {range.start} is past its end {range.stop}"
  | unread (unread : ¬ ∃ range, SpellsRange chars range ∧
      range.start < UInt64.size ∧ range.stop < UInt64.size) :
      RangeFault text chars ("invalid range (expected START..END): " ++ text)

private theorem endsOf?_eq_some_iff {chars : List Char} {range : ByteRange} :
    endsOf? chars = some (range.start, range.stop) ↔
      SpellsRange chars range ∧ range.start < UInt64.size ∧ range.stop < UInt64.size := by
  simp only [endsOf?, Option.bind_eq_bind, Option.bind_eq_some_iff, Prod.exists,
    cutDots?_eq_some_iff, Text.readUnsigned?_eq_some_iff (by decide : 10 ≤ 16), Option.pure_def,
    Option.some.injEq, Prod.mk.injEq]
  constructor
  · rintro ⟨front, behind, dots, _, ⟨start, fits⟩, _, ⟨stop, fitsStop⟩, rfl, rfl⟩
    exact ⟨⟨front, behind, dots, start, stop⟩, fits, fitsStop⟩
  · rintro ⟨⟨front, behind, dots, start, stop⟩, fits, fitsStop⟩
    exact ⟨front, behind, dots, _, ⟨start, fits⟩, _, ⟨stop, fitsStop⟩, rfl, rfl⟩

section Read

variable {text : String} {chars : List Char}

theorem readRange_eq (trimmed : Trimmed text.toList chars) :
    readRange text = match endsOf? chars with
      | none => .error (usageError ("invalid range (expected START..END): " ++ text))
      | some (start, stop) =>
        if stop < start then .error (usageError s!"range start {start} is past its end {stop}")
        else .ok ⟨start, stop⟩ := by
  rw [trimmed.eq_trimChars]
  rfl

private theorem readRange_settled (trimmed : Trimmed text.toList chars) :
    Settled (readRange text)
      (fun range => SpellsRange chars range ∧ range.start ≤ range.stop ∧ range.stop < UInt64.size)
      (RangeFault text chars) where
  accepts := by
    rintro range ⟨spelled, ordered, fits⟩
    have ends := endsOf?_eq_some_iff.mpr ⟨spelled, Nat.lt_of_le_of_lt ordered fits, fits⟩
    rw [readRange_eq trimmed, ends]
    exact if_neg (Nat.not_lt.mpr ordered)
  refuses := by
    intro message fault
    rw [readRange_eq trimmed]
    cases fault with
    | backwards spelled fits past =>
      rw [endsOf?_eq_some_iff.mpr ⟨spelled, fits, Nat.lt_trans past fits⟩]
      exact if_pos past
    | unread unread =>
      have none : endsOf? chars = none := by
        rw [Option.eq_none_iff_forall_ne_some]
        intro ends read
        exact unread ⟨⟨ends.1, ends.2⟩, endsOf?_eq_some_iff.mp read⟩
      rw [none]
  total := by
    by_cases spelled : ∃ range, SpellsRange chars range ∧
      range.start < UInt64.size ∧ range.stop < UInt64.size
    · obtain ⟨range, spelled, fits, fitsStop⟩ := spelled
      obtain past | ordered := Nat.lt_or_ge range.stop range.start
      · exact .inr ⟨_, .backwards spelled fits past⟩
      · exact .inl ⟨range, spelled, ordered, fitsStop⟩
    · exact .inr ⟨_, .unread spelled⟩

end Read

/-- What is read is the range whose ends the characters between the blanks spell, if they are in
order and fit in 64 bits, and the rest is a mistake in usage. A range that is read selects from a
certificate what is left of its bytes without those in front of the start, up to the length of the
range; this is a part of the certificate, and all of it only where nothing stands outside. -/
theorem readRange_exactly :
    (∀ text chars, Trimmed text.toList chars →
      (∀ range, readRange text = .ok range ↔
        SpellsRange chars range ∧ range.start ≤ range.stop ∧ range.stop < UInt64.size) ∧
      ∀ failure, readRange text = .error failure ↔
        ∃ message, RangeFault text chars message ∧ failure = ⟨ExitStatus.usage, message⟩) ∧
    ∀ text range, readRange text = .ok range → ∀ payload : Bytes,
      let selected := KeyPart.certificate.select range payload
      selected = (payload.drop range.start).take (range.stop - range.start) ∧
      payload.CutOut (min range.start payload.length) (min range.stop payload.length) selected ∧
      selected.length = min range.stop payload.length - min range.start payload.length ∧
      (selected = payload ↔ payload = [] ∨ range.start = 0 ∧ payload.length ≤ range.stop) := by
  constructor
  · intro text chars trimmed
    have settled := readRange_settled trimmed
    exact ⟨settled.eq_ok_iff, settled.eq_error_iff⟩
  · intro text range read payload selected
    have trimmed := Text.trimmed_trimChars text.toList
    obtain ⟨-, ordered, -⟩ := ((readRange_settled trimmed).eq_ok_iff range).mp read
    have cut : payload.CutOut (min range.start payload.length) (min range.stop payload.length)
        selected := by
      have cut := range.cutOut_slice payload
      rwa [Nat.max_eq_left (by omega)] at cut
    exact ⟨range.slice_eq_take_drop payload, cut, cut.length_eq, range.slice_eq_self_iff payload⟩

/-- A range that reaches past the end of a certificate, written with a sign, a zero and blanks. -/
theorem readRange_exactly_pastEnd :
    let chars := "+1..03".toList
    let text := String.ofList (['\t'] ++ chars ++ [' '])
    let payload : Bytes := [10, 20]
    Trimmed text.toList chars ∧ SpellsRange chars ⟨1, 3⟩ ∧ readRange text = .ok ⟨1, 3⟩ ∧
      KeyPart.certificate.select ⟨1, 3⟩ payload = (payload.drop 1).take 2 ∧
      payload.CutOut 1 2 (KeyPart.certificate.select ⟨1, 3⟩ payload) ∧
      (KeyPart.certificate.select ⟨1, 3⟩ payload).length = 1 := by
  intro chars text payload
  have trimmed : Trimmed text.toList chars :=
    Text.trimmed_ofList (List.all_eq_true.mp rfl) (Text.visible_of_all rfl)
      (List.all_eq_true.mp rfl)
  have ends : endsOf? chars = some ((⟨1, 3⟩ : ByteRange).start, (⟨1, 3⟩ : ByteRange).stop) := rfl
  obtain ⟨spelled, -, fits⟩ := endsOf?_eq_some_iff.mp ends
  obtain ⟨grammar, selects⟩ := readRange_exactly
  have read : readRange text = .ok ⟨1, 3⟩ :=
    ((grammar text chars trimmed).1 _).mpr ⟨spelled, by decide, fits⟩
  obtain ⟨taken, cut, length, -⟩ := selects text _ read payload
  exact ⟨trimmed, spelled, read, taken, cut, length⟩

end Arguments

end Provisioning
