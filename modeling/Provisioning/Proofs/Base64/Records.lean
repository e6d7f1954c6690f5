import Provisioning.Proofs.Base64.Layout

/-! # Records behind each other

A key log holds the layouts of its records one behind the other, and nothing in between. The lines
tell where a record ends only if its last line stands for fewer bytes than a full one: then the
records can be read back (`readRecords?`). A record that fills its last line runs on into the next,
and no reader can tell. `mime_separates` says both.
-/

namespace Provisioning.Base64

/-- The lines of a text. -/
def splitLines : List Char → List (List Char)
  | [] => []
  | c :: rest =>
    if c = '\n' then [] :: splitLines rest
    else match splitLines rest with
      | [] => [[c]]
      | line :: lines => (c :: line) :: lines

/-- The records that these lines are the layout of. A record goes on behind a full line. -/
def gather? : List (List Char) → Option (List Bytes)
  | [] => some []
  | line :: lines => do
    let piece ← decode line
    let records ← gather? lines
    if piece.length < lineBytes then return piece :: records
    else match records with
      | [] => return [piece]
      | record :: records => return (piece ++ record) :: records

/-- The records whose layouts stand behind each other in a text. -/
def readRecords? (text : String) : Option (List Bytes) := gather? (splitLines text.toList)

private theorem splitLines_append {line : List Char} (plain : '\n' ∉ line) (rest : List Char) :
    splitLines (line ++ ['\n'] ++ rest) = line :: splitLines rest := by
  induction line with
  | nil => rfl
  | cons c line ih =>
    have other : c ≠ '\n' := fun same => plain (same ▸ List.mem_cons_self)
    have later := ih fun member => plain (List.mem_cons_of_mem _ member)
    rw [List.append_assoc] at later ⊢
    rw [List.cons_append, splitLines, if_neg other, later]

theorem splitLines_flatMap {lines : List (List Char)} (plain : ∀ line ∈ lines, '\n' ∉ line)
    (rest : List Char) :
    splitLines (lines.flatMap (· ++ ['\n']) ++ rest) = lines ++ splitLines rest := by
  induction lines with
  | nil => rfl
  | cons line lines ih =>
    have later := ih fun other member => plain other (List.mem_cons_of_mem _ member)
    rw [List.flatMap_cons, List.append_assoc, splitLines_append (plain line List.mem_cons_self),
      later, List.cons_append]

/-- A record that does not fill its last line is read back, whatever stands behind it. -/
theorem gather?_mimeLines {bytes : Bytes} (uneven : ¬ 57 ∣ bytes.length)
    {lines : List (List Char)} {records : List Bytes} (later : gather? lines = some records) :
    gather? (mimeLines bytes ++ lines) = some (bytes :: records) := by
  have line : lineBytes = 57 := rfl
  induction bytes using lineInduction with
  | nil => exact absurd (Nat.dvd_zero 57) uneven
  | line bytes some ih =>
    rw [mimeLines_of_ne_nil some, List.cons_append, gather?, decode_encode]
    -- The last line stands for less than a full one and ends the record. Behind a full line
    -- something of this record is left, so what is read next is this record's and is joined to it.
    rcases line_cases some with ⟨none, all, _, short⟩ | ⟨_, full, long⟩
    · have part : bytes.length < lineBytes := by
        refine Nat.lt_of_le_of_ne short ?_
        intro same
        rw [same, line] at uneven
        exact uneven (Nat.dvd_refl 57)
      rw [none, all, mimeLines_nil, List.nil_append, later]
      exact if_pos part
    · have rest : ¬ 57 ∣ (bytes.drop lineBytes).length := by
        rw [List.length_drop, line]
        omega
      have whole : ¬ (bytes.take lineBytes).length < lineBytes := by
        rw [full]
        exact Nat.lt_irrefl _
      rw [ih rest]
      refine (if_neg whole).trans ?_
      rw [List.take_append_drop]
      rfl

private theorem gather?_flatMap {records : List Bytes}
    (uneven : ∀ record ∈ records, ¬ 57 ∣ record.length) :
    gather? (records.flatMap mimeLines) = some records := by
  induction records with
  | nil => rfl
  | cons record records ih =>
    have later := ih fun other member => uneven other (List.mem_cons_of_mem _ member)
    exact gather?_mimeLines (uneven record List.mem_cons_self) later

private theorem splitLines_join (records : List Bytes) :
    splitLines (String.join (records.map mime)).toList = records.flatMap mimeLines := by
  induction records with
  | nil => rfl
  | cons record records ih =>
    have plain : ∀ line ∈ mimeLines record, '\n' ∉ line := fun line member =>
      (of_mem_mimeLines member).2
    rw [String.toList_join] at ih ⊢
    rw [List.map_cons, List.flatMap_cons, toList_mime, splitLines_flatMap plain, ih,
      List.flatMap_cons]

private theorem readRecords?_join {records : List Bytes}
    (uneven : ∀ record ∈ records, ¬ 57 ∣ record.length) :
    readRecords? (String.join (records.map mime)) = some records := by
  rw [readRecords?, splitLines_join, gather?_flatMap uneven]

/-- What begins with full lines is laid out as they are, and then what is behind them. -/
theorem mimeLines_append {front : Bytes} (full : 57 ∣ front.length) (rest : Bytes) :
    mimeLines (front ++ rest) = mimeLines front ++ mimeLines rest := by
  have line : lineBytes = 57 := rfl
  induction front using lineInduction with
  | nil => rw [mimeLines_nil, List.nil_append, List.nil_append]
  | line front some ih =>
    have nonempty := List.length_pos_iff.mpr some
    have enough : lineBytes ≤ front.length := by
      rw [line]
      exact Nat.le_of_dvd nonempty full
    have fewer : 57 ∣ (front.drop lineBytes).length := by
      rw [List.length_drop, line]
      omega
    rw [mimeLines_of_ne_nil some, mimeLines_of_ne_nil (List.append_ne_nil_of_left_ne_nil some rest),
      List.take_append_of_le_length enough, List.drop_append_of_le_length enough, ih fewer,
      List.cons_append]

/-- Records that do not fill their last line can be told from each other, and only these. -/
theorem mime_separates :
    (∀ records : List Bytes, (∀ record ∈ records, ¬ 57 ∣ record.length) →
        readRecords? (String.join (records.map mime)) = some records) ∧
      (∀ first second : List Bytes, (∀ record ∈ first, ¬ 57 ∣ record.length) →
        (∀ record ∈ second, ¬ 57 ∣ record.length) →
          String.join (first.map mime) = String.join (second.map mime) → first = second) ∧
      ∀ front rest : Bytes, 57 ∣ front.length → mime front ++ mime rest = mime (front ++ rest) := by
  refine ⟨?_, ?_, ?_⟩
  · intro records uneven
    exact readRecords?_join uneven
  · intro first second unevenFirst unevenSecond same
    have read := readRecords?_join unevenFirst
    rw [same, readRecords?_join unevenSecond] at read
    exact (Option.some.inj read).symm
  · intro front rest full
    rw [← String.toList_inj, String.toList_append, toList_mime, toList_mime, toList_mime,
      mimeLines_append full, List.flatMap_append]

/-- A record of two lines with a short one behind it, and one of a full line. -/
theorem mime_separates_twoLines :
    let full : Bytes := List.replicate 57 7
    let long : Bytes := List.replicate 58 7
    (∀ record ∈ [long, [1]], ¬ 57 ∣ record.length) ∧
      (∀ record ∈ [full ++ [7], [1]], ¬ 57 ∣ record.length) ∧ 57 ∣ full.length ∧
      String.join ([long, [1]].map mime) = String.join ([full ++ [7], [1]].map mime) ∧
      readRecords? (String.join ([long, [1]].map mime)) = some [long, [1]] ∧
      [long, [1]] = [full ++ [7], [1]] ∧
      mime full ++ mime [1] = mime (full ++ [1]) := by
  intro full long
  obtain ⟨read, apart, merged⟩ := mime_separates
  have first : ∀ record ∈ [long, [1]], ¬ 57 ∣ record.length := by decide
  have second : ∀ record ∈ [full ++ [7], [1]], ¬ 57 ∣ record.length := by decide
  have line : 57 ∣ full.length := by decide
  have same : String.join ([long, [1]].map mime) = String.join ([full ++ [7], [1]].map mime) := rfl
  exact ⟨first, second, line, same, read _ first, apart _ _ first second same, merged full [1] line⟩

end Provisioning.Base64
