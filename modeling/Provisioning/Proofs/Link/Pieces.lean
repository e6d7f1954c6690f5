import Mathlib.Data.List.TakeWhile
import Provisioning.Proofs.Link.Untimed

/-! # Text that is cut for its length

Text without a line feed is held back until it has the length at which a line is cut. When the reads
fill the buffer up to exactly that length, what comes out is the text, and whatever stands behind it
on the line is left to be read as a line of its own: `awaitLine_of_plain`. When the read that goes
beyond that length brings the line feed along, the line is not cut: `awaitLine_of_late`.
-/

namespace Provisioning

/-- Text without a line feed is cut at the full length and no sooner. -/
theorem cutLine?_of_plain {text : Bytes} (plain : lineFeed ∉ text) :
    cutLine? text = if maxLineLength ≤ text.length then
      some (.piece (text.take maxLineLength), text.drop maxLineLength) else none := by
  have none : text.dropWhile (· != lineFeed) = [] := by
    rw [List.dropWhile_eq_nil_iff]
    intro byte member
    simp only [bne_iff_ne]
    rintro rfl
    exact plain member
  rw [cutLine?, none]

/-- What stands before the first line feed is the first line, however long it is. -/
theorem cutLine?_of_lineFeed {text : Bytes} (plain : lineFeed ∉ text) (rest : Bytes) :
    cutLine? (text ++ lineFeed :: rest) = some (.whole (stripReturn text), rest) := by
  have others : ∀ byte ∈ text, (byte != lineFeed) = true := by
    intro byte member
    rw [bne_iff_ne]
    rintro rfl
    exact plain member
  have line : (text ++ lineFeed :: rest).takeWhile (· != lineFeed) = text := by
    rw [List.takeWhile_append_of_pos others]
    simp
  have behind : (text ++ lineFeed :: rest).dropWhile (· != lineFeed) = lineFeed :: rest := by
    rw [List.dropWhile_append_of_pos others]
    simp
  rw [cutLine?, behind, line]

/-- A line is awaited as long as no line feed has come and less than a piece is held. -/
theorem cutLine?_eq_none_iff {buffer : Bytes} :
    cutLine? buffer = none ↔ lineFeed ∉ buffer ∧ buffer.length < maxLineLength := by
  constructor
  · intro uncut
    have plain : lineFeed ∉ buffer := by
      intro member
      unfold cutLine? at uncut
      split at uncut
      · cases uncut
      · rename_i none
        rw [List.dropWhile_eq_nil_iff] at none
        simpa using none _ member
    rw [cutLine?_of_plain plain] at uncut
    refine ⟨plain, ?_⟩
    by_contra large
    rw [if_pos (Nat.le_of_not_lt large)] at uncut
    cases uncut
  · rintro ⟨plain, short⟩
    rw [cutLine?_of_plain plain, if_neg (Nat.not_le_of_lt short)]

/-- A read of data that have arrived hands out a chunk of them. -/
theorem Source.draw_pending {source : Source} (arrived : source.pending ≠ []) :
    source.draw readChunkSize = (.ok (source.pending.take readChunkSize),
      { source with
        pending := source.pending.drop readChunkSize
        reads := source.reads + 1 }) := by
  have read : source.read readChunkSize = (.ok (source.pending.take readChunkSize),
      { source with
        pending := source.pending.drop readChunkSize
        reads := source.reads + 1 }) := by
    cases pending : source.pending with
    | nil => exact absurd pending arrived
    | cons byte rest =>
      rw [Source.read, pending]
      rfl
  rw [draw]
  split
  · rename_i failed
    rw [read] at failed
    cases failed
  · rename_i drawn
    rw [read] at drawn
    cases drawn
    rfl

namespace Receiver

private theorem fill_pending {receiver : Receiver} (arrived : receiver.source.pending ≠ []) :
    receiver.fill = (.ok (), { receiver with
      buffer := receiver.buffer ++ receiver.source.pending.take readChunkSize
      source := { receiver.source with
        pending := receiver.source.pending.drop readChunkSize
        reads := receiver.source.reads + 1 } }) := by
  rw [fill, Source.draw_pending arrived]
  cases pending : receiver.source.pending with
  | nil => exact absurd pending arrived
  | cons byte rest => rfl

/-- The receiver once data that had arrived before have been read. -/
def pulled (receiver : Receiver) : Receiver :=
  { receiver with
    buffer := receiver.buffer ++ receiver.source.pending.take readChunkSize
    source := { receiver.source with
      pending := receiver.source.pending.drop readChunkSize
      reads := receiver.source.reads + 1 } }

private theorem pulled_front (receiver : Receiver) :
    receiver.pulled.buffer ++ receiver.pulled.source.pending =
      receiver.buffer ++ receiver.source.pending := by
  rw [pulled, List.append_assoc, List.take_append_drop]

/-- While a line is lacking and nothing has arrived, the next step of the script is read. -/
theorem awaitLine_of_script {receiver : Receiver} {step : ReadStep} {script : List ReadStep}
    {data : Bytes} (lack : cutLine? receiver.buffer = none) (none : receiver.source.pending = [])
    (next : receiver.source.script = step :: script) (brings : step.outcome = .ok data)
    (some : data ≠ []) :
    receiver.awaitLine = awaitLine { receiver with
      buffer := receiver.buffer ++ data.take readChunkSize
      source := { receiver.source.begin step script with
        pending := data.drop readChunkSize } } := by
  have read : receiver.source.read readChunkSize =
      (.ok (data.take readChunkSize),
        { receiver.source.begin step script with pending := data.drop readChunkSize }) := by
    simp only [Source.read, none, next, brings]
  cases data with
  | nil => exact absurd rfl some
  | cons byte bytes =>
    rw [awaitLine_eq, lack, fill, Source.draw_eq, read]
    rfl

/-- While less than a piece of a line is held, what has arrived is read. -/
theorem awaitLine_of_short {receiver : Receiver} (plain : lineFeed ∉ receiver.buffer)
    (short : receiver.buffer.length < maxLineLength) (arrived : receiver.source.pending ≠ []) :
    receiver.awaitLine = receiver.pulled.awaitLine := by
  rw [awaitLine_eq, cutLine?_eq_none_iff.mpr ⟨plain, short⟩]
  simp only [fill_pending arrived]
  rfl

/-- Text that is held without a line feed is handed out as soon as it is enough for a piece. -/
theorem awaitLine_of_full {receiver : Receiver} (plain : lineFeed ∉ receiver.buffer)
    (full : maxLineLength ≤ receiver.buffer.length) :
    receiver.awaitLine = (.ok (.piece (receiver.buffer.take maxLineLength)),
      { receiver with buffer := receiver.buffer.drop maxLineLength }) := by
  rw [awaitLine_eq, cutLine?_of_plain plain, if_pos full]

section

variable {text rest : Bytes} {receiver : Receiver}

/-- What is held of a line that has arrived, and what is read next of it. -/
theorem pulled_length (front : receiver.buffer ++ receiver.source.pending = text ++ rest)
    (within : receiver.buffer.length + readChunkSize ≤ text.length) :
    receiver.pulled.buffer.length = receiver.buffer.length + readChunkSize ∧
      receiver.source.pending ≠ [] := by
  have chunk : readChunkSize = 8192 := rfl
  have lengths := congrArg List.length front
  rw [List.length_append, List.length_append] at lengths
  constructor
  · rw [pulled, List.length_append, List.length_take]
    omega
  · rw [← List.length_pos_iff]
    omega

/-- Text without a line feed that has arrived, and fills the buffer chunk by chunk, comes out as a
piece. -/
theorem awaitLine_of_plain (plain : lineFeed ∉ text) (full : text.length = maxLineLength)
    (count : Nat) (receiver : Receiver)
    (front : receiver.buffer ++ receiver.source.pending = text ++ rest)
    (chunks : receiver.buffer.length + count * readChunkSize = maxLineLength) :
    receiver.awaitLine = (.ok (.piece text), { receiver with
      buffer := []
      source := { receiver.source with
        pending := rest, reads := receiver.source.reads + count } }) := by
  have chunk : readChunkSize = 8192 := rfl
  induction count generalizing receiver with
  | zero =>
    obtain ⟨buffer, pending⟩ := List.append_inj front (by omega)
    subst buffer pending
    rw [awaitLine_of_full plain (Nat.le_of_eq full.symm), ← full, List.take_length,
      List.drop_length]
    rfl
  | succ count ih =>
    rw [Nat.add_one_mul] at chunks
    have begun : receiver.buffer <+: text :=
      List.prefix_of_prefix_length_le ⟨_, front⟩ ⟨rest, rfl⟩ (by omega)
    obtain ⟨length, arrived⟩ := pulled_length front (by omega)
    rw [awaitLine_of_short (fun member => plain (begun.subset member)) (by omega) arrived,
      ih receiver.pulled (receiver.pulled_front.trans front) (by omega)]
    simp only [pulled, Nat.add_assoc, Nat.add_comm 1]

/-- A line whose line feed is brought by the read with which it gets too long for a piece comes out
whole. -/
theorem awaitLine_of_late (plain : lineFeed ∉ text) (count : Nat)
    (front : receiver.buffer ++ receiver.source.pending = text ++ lineFeed :: rest)
    (short : receiver.buffer.length + count * readChunkSize < maxLineLength)
    (lacks : receiver.buffer.length + count * readChunkSize ≤ text.length)
    (brings : text.length < receiver.buffer.length + (count + 1) * readChunkSize) :
    ∃ after, receiver.awaitLine = (.ok (.whole (stripReturn text)), after) := by
  have chunk : readChunkSize = 8192 := rfl
  induction count generalizing receiver with
  | zero =>
    have begun : receiver.buffer <+: text :=
      List.prefix_of_prefix_length_le ⟨_, front⟩ ⟨_, rfl⟩ (by omega)
    have lengths := congrArg List.length front
    rw [List.length_append, List.length_append, List.length_cons] at lengths
    have arrived : receiver.source.pending ≠ [] := by
      rw [← List.length_pos_iff]
      omega
    have ended : text ++ [lineFeed] <+: text ++ lineFeed :: rest := ⟨rest, by simp⟩
    have enough : (text ++ [lineFeed]).length ≤ receiver.pulled.buffer.length := by
      rw [pulled, List.length_append, List.length_append, List.length_take, List.length_singleton]
      omega
    obtain ⟨more, held⟩ :=
      List.prefix_of_prefix_length_le ended ⟨_, receiver.pulled_front.trans front⟩ enough
    rw [awaitLine_of_short (fun member => plain (begun.subset member)) (by omega) arrived,
      awaitLine_eq, ← held, List.append_assoc]
    simp only [List.singleton_append, cutLine?_of_lineFeed plain]
    exact ⟨_, rfl⟩
  | succ count ih =>
    rw [Nat.add_one_mul (count + 1)] at brings
    rw [Nat.add_one_mul] at short lacks brings
    have begun : receiver.buffer <+: text :=
      List.prefix_of_prefix_length_le ⟨_, front⟩ ⟨_, rfl⟩ (by omega)
    obtain ⟨length, arrived⟩ := pulled_length front (by omega)
    rw [awaitLine_of_short (fun member => plain (begun.subset member)) (by omega) arrived]
    have onward := Nat.add_one_mul count readChunkSize
    exact ih (receiver.pulled_front.trans front) (by omega) (by omega) (by omega)

end

end Receiver

end Provisioning
