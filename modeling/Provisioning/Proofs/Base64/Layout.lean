import Provisioning.Proofs.Base64.Decoding

/-! # The MIME layout

A byte string is encoded in groups of three bytes, and a line of the layout is nineteen such groups.
So it makes no difference whether the bytes are taken line by line and then encoded, or encoded as a
whole and the characters then cut into lines, which is what `Cuts` does until nothing is left of
them. `mime_layout` says what the lines look like, and that the characters without their line feeds
are read back as the byte string.
-/

namespace Provisioning.Base64

/-! ## The characters -/

theorem length_encode (bytes : Bytes) : (encode bytes).length = 4 * ((bytes.length + 2) / 3) := by
  induction bytes using encode.induct with
  | case1 => rfl
  | case2 | case3 => simp [encode]
  | case4 a b c rest ih =>
    simp only [encode, List.length_cons, ih]
    omega

/-- Whole groups of three bytes are encoded by themselves. -/
theorem encode_append {front : Bytes} (whole : 3 ∣ front.length) (rest : Bytes) :
    encode (front ++ rest) = encode front ++ encode rest := by
  induction front using encode.induct with
  | case1 => rfl
  | case2 => simp at whole
  | case3 => simp at whole
  | case4 a b c front ih =>
    have fewer : 3 ∣ front.length := by
      simp only [List.length_cons] at whole
      omega
    simp only [List.cons_append, encode, ih fewer]

/-- Nothing but digits, and behind them what fills up the last group. -/
theorem encode_eq_digits (bytes : Bytes) :
    ∃ digits, encode bytes = digits ++ List.replicate ((3 - bytes.length % 3) % 3) '=' ∧
      ∀ c ∈ digits, c ∈ alphabet := by
  induction bytes using encode.induct with
  | case1 => exact ⟨[], rfl, by simp⟩
  | case2 a =>
    have := a.toNat_lt
    refine ⟨[digit (a.toNat / 4), digit (a.toNat % 4 * 16)], rfl, ?_⟩
    simp only [List.forall_mem_cons]
    exact ⟨digit_mem _ (by omega), digit_mem _ (by omega), by simp⟩
  | case3 a b =>
    have := a.toNat_lt
    have := b.toNat_lt
    refine ⟨[digit (a.toNat / 4), digit (a.toNat % 4 * 16 + b.toNat / 16),
      digit (b.toNat % 16 * 4)], rfl, ?_⟩
    simp only [List.forall_mem_cons]
    exact ⟨digit_mem _ (by omega), digit_mem _ (by omega), digit_mem _ (by omega), by simp⟩
  | case4 a b c rest ih =>
    have := a.toNat_lt
    have := b.toNat_lt
    have := c.toNat_lt
    obtain ⟨digits, same, members⟩ := ih
    have remainder : (rest.length + 3) % 3 = rest.length % 3 := Nat.add_mod_right _ _
    refine ⟨digit (a.toNat / 4) :: digit (a.toNat % 4 * 16 + b.toNat / 16) ::
      digit (b.toNat % 16 * 4 + c.toNat / 64) :: digit (c.toNat % 64) :: digits, ?_, ?_⟩
    · simp only [encode, same, List.length_cons, remainder, List.cons_append]
    · simp only [List.forall_mem_cons]
      exact ⟨digit_mem _ (by omega), digit_mem _ (by omega), digit_mem _ (by omega),
        digit_mem _ (by omega), members⟩

theorem lineFeed_notMem_encode (bytes : Bytes) : '\n' ∉ encode bytes := by
  obtain ⟨digits, same, members⟩ := encode_eq_digits bytes
  rw [same, List.mem_append]
  rintro (digit | padding)
  · exact lineFeed_notMem (members _ digit)
  · exact absurd (List.eq_of_mem_replicate padding) (by decide)

/-! ## The layout -/

@[simp] theorem mimeLines_nil : mimeLines [] = [] := by
  rw [mimeLines]
  rfl

theorem mimeLines_of_ne_nil {bytes : Bytes} (some : bytes ≠ []) :
    mimeLines bytes = encode (bytes.take lineBytes) :: mimeLines (bytes.drop lineBytes) := by
  rw [mimeLines, if_neg (by simpa using some)]

theorem toList_mime (bytes : Bytes) :
    (mime bytes).toList = (mimeLines bytes).flatMap (· ++ ['\n']) :=
  String.toList_ofList

/-- Byte strings are taken apart line by line. -/
@[elab_as_elim]
theorem lineInduction {motive : Bytes → Prop} (nil : motive [])
    (line : ∀ bytes, bytes ≠ [] → motive (bytes.drop lineBytes) → motive bytes) (bytes : Bytes) :
    motive bytes := by
  induction bytes using mimeLines.induct with
  | case1 bytes empty =>
    rw [List.isEmpty_iff.mp empty]
    exact nil
  | case2 bytes nonempty ih => exact line bytes (by simpa using nonempty) ih

/-- A byte string is no more than a line, or begins with a full one. -/
theorem line_cases {bytes : Bytes} (some : bytes ≠ []) :
    (bytes.drop lineBytes = [] ∧ bytes.take lineBytes = bytes ∧ 0 < bytes.length ∧
        bytes.length ≤ lineBytes) ∨
      bytes.drop lineBytes ≠ [] ∧ (bytes.take lineBytes).length = lineBytes ∧
        lineBytes < bytes.length := by
  rcases Nat.lt_or_ge lineBytes bytes.length with long | short
  · refine .inr ⟨?_, List.length_take_of_le (Nat.le_of_lt long), long⟩
    rw [← List.length_pos_iff, List.length_drop]
    omega
  · exact .inl ⟨List.drop_of_length_le short, List.take_of_length_le short,
      List.length_pos_iff.mpr some, short⟩

/-- A line's bytes are encoded by themselves, and what is behind them too. -/
theorem encode_take_append_drop (bytes : Bytes) :
    encode (bytes.take lineBytes) ++ encode (bytes.drop lineBytes) = encode bytes := by
  by_cases some : bytes = []
  · rw [some]
    rfl
  rcases line_cases some with ⟨none, all, _, _⟩ | ⟨_, full, _⟩
  · rw [none, all]
    exact List.append_nil _
  · have whole : 3 ∣ (bytes.take lineBytes).length := by
      rw [full]
      decide
    rw [← encode_append whole, List.take_append_drop]

private theorem flatten_mimeLines (bytes : Bytes) : (mimeLines bytes).flatten = encode bytes := by
  induction bytes using lineInduction with
  | nil =>
    rw [mimeLines_nil]
    rfl
  | line bytes some ih =>
    rw [mimeLines_of_ne_nil some, List.flatten_cons, ih, encode_take_append_drop]

private theorem length_mimeLines (bytes : Bytes) :
    (mimeLines bytes).length = (4 * ((bytes.length + 2) / 3) + 75) / 76 := by
  induction bytes using lineInduction with
  | nil =>
    rw [mimeLines_nil]
    rfl
  | line bytes some ih =>
    have full : lineBytes = 57 := rfl
    have nonempty := List.length_pos_iff.mpr some
    rw [mimeLines_of_ne_nil some, List.length_cons, ih, List.length_drop, full]
    omega

theorem of_mem_mimeLines {bytes : Bytes} {line : List Char} (member : line ∈ mimeLines bytes) :
    line ≠ [] ∧ '\n' ∉ line := by
  induction bytes using lineInduction with
  | nil =>
    rw [mimeLines_nil] at member
    cases member
  | line bytes some ih =>
    rw [mimeLines_of_ne_nil some] at member
    rcases List.mem_cons.mp member with rfl | later
    · refine ⟨?_, lineFeed_notMem_encode _⟩
      have nonempty := List.length_pos_iff.mpr some
      have full : lineBytes = 57 := rfl
      rw [← List.length_pos_iff, length_encode, List.length_take, full]
      omega
    · exact ih later

/-- All lines but the last are full. -/
theorem length_of_mem_dropLast {bytes : Bytes} {line : List Char}
    (member : line ∈ (mimeLines bytes).dropLast) : line.length = 76 := by
  induction bytes using lineInduction with
  | nil =>
    rw [mimeLines_nil] at member
    cases member
  | line bytes some ih =>
    rw [mimeLines_of_ne_nil some] at member
    rcases line_cases some with ⟨none, _, _, _⟩ | ⟨more, full, _⟩
    · rw [none, mimeLines_nil] at member
      cases member
    · rw [List.dropLast_cons_of_ne_nil (by rw [mimeLines_of_ne_nil more]; nofun)] at member
      rcases List.mem_cons.mp member with rfl | later
      · rw [length_encode, full]
        rfl
      · exact ih later

/-- The last line holds at least one group of characters. -/
theorem length_of_mem_getLast? {bytes : Bytes} {line : List Char}
    (member : line ∈ (mimeLines bytes).getLast?) :
    4 ≤ line.length ∧ line.length ≤ 76 ∧ 4 ∣ line.length := by
  induction bytes using lineInduction with
  | nil =>
    rw [mimeLines_nil] at member
    cases member
  | line bytes some ih =>
    rw [mimeLines_of_ne_nil some] at member
    rcases line_cases some with ⟨none, all, nonempty, short⟩ | ⟨more, _, _⟩
    · rw [none, all, mimeLines_nil, List.getLast?_singleton] at member
      cases member
      have full : lineBytes = 57 := rfl
      rw [length_encode]
      omega
    · rw [mimeLines_of_ne_nil more, List.getLast?_cons_cons, ← mimeLines_of_ne_nil more] at member
      exact ih member

/-- A text is cut into lines: as long as something is left of it, the next 76 characters, or what is
left of them, are put out with a line feed behind them. It takes so many rounds, and this is then
put out. -/
inductive Cuts : List Char → List Char → Nat → List Char → Prop where
  | done (out : List Char) : Cuts out [] 0 out
  | round {out rest result : List Char} {rounds : Nat} (left : rest ≠ [])
      (later : Cuts (out ++ rest.take 76 ++ ['\n']) (rest.drop 76) rounds result) :
      Cuts out rest (rounds + 1) result

/-- The characters of a line are those of its bytes. -/
theorem cut_encode (bytes : Bytes) :
    (encode bytes).take 76 = encode (bytes.take lineBytes) ∧
      (encode bytes).drop 76 = encode (bytes.drop lineBytes) := by
  by_cases some : bytes = []
  · rw [some]
    exact ⟨rfl, rfl⟩
  -- A full line is nineteen whole groups, so the cut of the characters falls between two groups.
  rcases line_cases some with ⟨none, all, _, short⟩ | ⟨_, full, _⟩
  · have fits : (encode bytes).length ≤ 76 := by
      have line : lineBytes = 57 := rfl
      rw [length_encode]
      omega
    rw [none, all, List.take_of_length_le fits, List.drop_of_length_le fits]
    exact ⟨rfl, rfl⟩
  · have line : (encode (bytes.take lineBytes)).length = 76 := by
      rw [length_encode, full]
      rfl
    rw [← encode_take_append_drop bytes, List.take_left' line, List.drop_left' line]
    exact ⟨rfl, rfl⟩

/-- Cutting the characters of a byte string into lines comes to an end, and the lines are then those
of its layout. -/
theorem cuts_encode (out : List Char) (bytes : Bytes) :
    Cuts out (encode bytes) (mimeLines bytes).length
      (out ++ (mimeLines bytes).flatMap (· ++ ['\n'])) := by
  induction bytes using lineInduction generalizing out with
  | nil =>
    rw [mimeLines_nil, List.flatMap_nil, List.append_nil]
    exact .done out
  | line bytes some ih =>
    obtain ⟨front, behind⟩ := cut_encode bytes
    have left : encode bytes ≠ [] := by
      have nonempty := List.length_pos_iff.mpr some
      rw [← List.length_pos_iff, length_encode]
      omega
    have later := ih (out ++ (encode bytes).take 76 ++ ['\n'])
    rw [← behind] at later
    rw [mimeLines_of_ne_nil some, List.length_cons, List.flatMap_cons, ← front]
    simpa only [List.append_assoc] using Cuts.round left later

/-- Without their line feeds the lines stand behind each other. -/
theorem filter_flatMap {lines : List (List Char)} (plain : ∀ line ∈ lines, '\n' ∉ line) :
    (lines.flatMap (· ++ ['\n'])).filter (· ≠ '\n') = lines.flatten := by
  induction lines with
  | nil => rfl
  | cons line lines ih =>
    have first : line.filter (· ≠ '\n') = line := by
      rw [List.filter_eq_self]
      intro c member
      rw [decide_eq_true_iff]
      rintro rfl
      exact plain line List.mem_cons_self member
    have later := ih fun other member => plain other (List.mem_cons_of_mem _ member)
    rw [List.flatMap_cons, List.filter_append, List.filter_append, first, later,
      List.flatten_cons]
    simp

theorem filter_mime (bytes : Bytes) :
    (mime bytes).toList.filter (· ≠ '\n') = encode bytes := by
  have plain : ∀ line ∈ mimeLines bytes, '\n' ∉ line := fun _ member => (of_mem_mimeLines member).2
  rw [toList_mime, filter_flatMap plain, flatten_mimeLines]

theorem mime_eq_empty_iff (bytes : Bytes) : mime bytes = "" ↔ bytes.length = 0 := by
  rw [← String.toList_inj, toList_mime, List.length_eq_zero_iff]
  constructor
  · intro empty
    cases bytes with
    | nil => rfl
    | cons byte rest =>
      rw [mimeLines_of_ne_nil (List.cons_ne_nil byte rest)] at empty
      simp at empty
  · rintro rfl
    rw [mimeLines_nil]
    rfl

/-- The layout loses nothing, is cut where it should be, and is what cutting the characters line by
line comes to. -/
theorem mime_layout (bytes : Bytes) :
    (mime bytes = "" ↔ bytes.length = 0) ∧
      (∃ lines : List (List Char),
        (mime bytes).toList = lines.flatMap (· ++ ['\n']) ∧
          lines.length = (4 * ((bytes.length + 2) / 3) + 75) / 76 ∧
          (∀ line ∈ lines, line ≠ [] ∧ '\n' ∉ line) ∧
          (∀ line ∈ lines.dropLast, line.length = 76) ∧
          (∀ line ∈ lines.getLast?, 4 ≤ line.length ∧ line.length ≤ 76 ∧ 4 ∣ line.length) ∧
          ∃ digits, lines.flatten =
              digits ++ List.replicate ((3 - bytes.length % 3) % 3) '=' ∧
            ∀ c ∈ digits, c ∈ alphabet) ∧
      decode ((mime bytes).toList.filter (· ≠ '\n')) = some bytes ∧
      Cuts [] (encode bytes) ((4 * ((bytes.length + 2) / 3) + 75) / 76) (mime bytes).toList := by
  refine ⟨mime_eq_empty_iff bytes, ?_, ?_, ?_⟩
  · refine ⟨mimeLines bytes, toList_mime bytes, length_mimeLines bytes, ?_, ?_, ?_, ?_⟩
    · intro line member
      exact of_mem_mimeLines member
    · intro line member
      exact length_of_mem_dropLast member
    · intro line member
      exact length_of_mem_getLast? member
    · rw [flatten_mimeLines]
      exact encode_eq_digits bytes
  · rw [filter_mime]
    exact decode_encode bytes
  · have cuts := cuts_encode [] bytes
    rwa [List.nil_append, ← toList_mime, length_mimeLines] at cuts

theorem mime_layout_justOverALine :
    let bytes : Bytes := List.replicate 58 255
    ∃ full last : List Char,
      (mime bytes).toList = full ++ ['\n'] ++ (last ++ ['\n']) ∧
        (full ≠ [] ∧ '\n' ∉ full) ∧ full.length = 76 ∧
        (4 ≤ last.length ∧ last.length ≤ 76 ∧ 4 ∣ last.length) ∧
        (∃ digits, full ++ last = digits ++ ['=', '='] ∧ ∀ c ∈ digits, c ∈ alphabet) ∧
        decode ((mime bytes).toList.filter (· ≠ '\n')) = some bytes := by
  intro bytes
  obtain ⟨_, ⟨lines, shown, count, plain, whole, final, digits, same, members⟩, back, _⟩ :=
    mime_layout bytes
  have size : bytes.length = 58 := List.length_replicate
  rw [size] at count same
  match lines, count with
  | [first, last], _ =>
    refine ⟨first, last, by simpa using shown, plain first List.mem_cons_self,
      whole first List.mem_cons_self, final last rfl, ⟨digits, ?_, members⟩, back⟩
    simpa using same

end Provisioning.Base64
