import Provisioning.Proofs.Link.Untimed

/-! # What the reads of a source return

Whatever a source is made of, the host knows it by what its reads return, one after the other.
`Source.Yields` says which results these are, and that every read behind them finds the stream at
its end. The clock and the flag have no part in it (`Yields.of_untimed`), and any results can be had
that a read can return (`Yields.of_script`).
-/

namespace Provisioning.Source

/-- One read after the other returns one of these results, and every read from then on finds the end
of the stream. -/
def Yields (results : List (Except IoError Bytes)) (source : Source) : Prop :=
  ∀ count, ((source.afterReads count).read readChunkSize).1 = results.getD count (.ok [])

namespace Yields

variable {results : List (Except IoError Bytes)} {source other : Source}

/-- A read returns the first of the results and leaves the others. -/
theorem read (yields : source.Yields results) :
    (source.read readChunkSize).1 = results.headD (.ok []) ∧
      (source.read readChunkSize).2.Yields results.tail := by
  constructor
  · have first := yields 0
    cases results <;> exact first
  · intro count
    have later := yields (count + 1)
    rw [afterReads_succ] at later
    rw [later]
    cases results <;> rfl

theorem of_untimed (yields : source.Yields results) (same : other.untimed = source.untimed) :
    other.Yields results := by
  intro count
  rw [← yields count, ← (read_untimed _ _).1, ← untimed_afterReads, same, untimed_afterReads,
    (read_untimed _ _).1]

/-- What has been handed out is in the results that have been returned. -/
theorem delivered (yields : source.Yields results) (count : Nat) :
    source.delivered count = (results.take count).flatMap readData := by
  induction count with
  | zero => rfl
  | succ count ih =>
    rw [Source.delivered, ih, yields count, List.take_add_one, List.flatMap_append,
      List.append_cancel_left_eq, List.getD_eq_getElem?_getD]
    cases results[count]? with
    | none => rfl
    | some result => simp

/-- A source that ends does not fall silent. -/
theorem isSilent_eq_false (yields : source.Yields results) : source.isSilent = false := by
  rw [Bool.eq_false_iff]
  intro silent
  induction results generalizing source with
  | nil =>
    have first := yields.read.1
    rw [read_of_isSilent silent] at first
    cases first
  | cons result rest ih =>
    have later := yields.read.2
    rw [read_of_isSilent silent] at later
    exact ih later silent

/-- A source at whose script no step brings more than a read can take yields the script. -/
theorem of_script (none : source.pending = []) (closed : source.tail = .closed)
    (small : ∀ step ∈ source.script, (readData step.outcome).length ≤ readChunkSize) :
    source.Yields (source.script.map (·.outcome)) := by
  generalize script : source.script = steps at small
  induction steps generalizing source with
  | nil =>
    intro count
    have still (count : Nat) : (source.afterReads count).pending = [] ∧
        (source.afterReads count).script = [] ∧ (source.afterReads count).tail = .closed := by
      induction count with
      | zero => exact ⟨none, script, closed⟩
      | succ count ih =>
        rw [afterReads]
        simp only [Source.read, ih]
        exact ih
    simp [Source.read, still count]
  | cons step rest ih =>
    have reading : ∃ after, source.read readChunkSize = (step.outcome, after) ∧
        after.pending = [] ∧ after.tail = .closed ∧ after.script = rest := by
      have fits := small step List.mem_cons_self
      cases outcome : step.outcome with
      | error error =>
        refine ⟨source.begin step rest, ?_, none, closed, rfl⟩
        simp only [Source.read, none, script, outcome]
      | ok data =>
        rw [outcome] at fits
        refine ⟨{ source.begin step rest with pending := [] }, ?_, rfl, closed, rfl⟩
        have taken : data.take readChunkSize = data := List.take_of_length_le fits
        have left : data.drop readChunkSize = [] := List.drop_of_length_le fits
        simp only [Source.read, none, script, outcome, taken, left]
    obtain ⟨after, reading, pending, tail, remaining⟩ := reading
    have later := ih pending tail remaining
      fun other member => small other (List.mem_cons_of_mem step member)
    intro count
    cases count with
    | zero =>
      rw [afterReads, reading]
      rfl
    | succ count =>
      rw [afterReads_succ, reading, later count]
      rfl

end Yields

end Provisioning.Source
