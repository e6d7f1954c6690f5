import Provisioning.Proofs.Link.Accounting

/-! # Reading without a clock

A source carries the clock and the flag that keeps the program running, and both are set from many
places. `Source.untimed` leaves them out. Neither decides what a read hands out or leaves
(`read_untimed`), and so neither decides what any call of a receiver returns: receivers that are the
same without them do the same (`fill_alike`, `stepFrame_alike`, `awaitLine_alike`).

`Receiver.Spends` is an account of bytes up to these two.
-/

namespace Provisioning

namespace Source

/-- The source without its clock and the flag. -/
def untimed (source : Source) : Source := { source with clock := 0, running := true }

/-- What a read hands out and leaves depends on neither. -/
theorem read_untimed (limit : Nat) (source : Source) :
    (source.untimed.read limit).1 = (source.read limit).1 ∧
      (source.untimed.read limit).2.untimed = (source.read limit).2.untimed := by
  rcases source with ⟨pending, script, tail, running, clock, reads⟩
  cases pending with
  | cons byte rest => exact ⟨rfl, rfl⟩
  | nil => cases script with
    | nil => cases tail <;> exact ⟨rfl, rfl⟩
    | cons step rest =>
      rcases step with ⟨delay, stops, error | data⟩ <;> exact ⟨rfl, rfl⟩

theorem untimed_afterReads (source : Source) (count : Nat) :
    (source.untimed.afterReads count).untimed = (source.afterReads count).untimed := by
  induction count with
  | zero => rfl
  | succ count ih =>
    rw [afterReads, afterReads, ← (read_untimed _ _).2, ih, (read_untimed _ _).2]

private theorem delivered_untimed (source : Source) (count : Nat) :
    source.untimed.delivered count = source.delivered count := by
  induction count with
  | zero => rfl
  | succ count ih =>
    rw [delivered, delivered, ih, ← (read_untimed _ _).1, untimed_afterReads,
      (read_untimed _ _).1]

/-- Nothing that happens at a read stops the session, and in the end the source is closed. -/
structure Closes (source : Source) : Prop where
  unstopped : ∀ step ∈ source.script, step.stops = false
  closed : source.tail = .closed

theorem Closes.read {source : Source} (closes : source.Closes) (limit : Nat) :
    (source.read limit).2.Closes ∧ (source.read limit).2.running = source.running := by
  obtain ⟨unstopped, closed⟩ := closes
  unfold Source.read
  split
  · exact ⟨⟨unstopped, closed⟩, rfl⟩
  · split
    · rename_i step rest script
      rw [script] at unstopped
      have goes : source.running = (source.running && !step.stops) := by
        simp [unstopped step List.mem_cons_self]
      have later : ∀ other ∈ rest, other.stops = false :=
        fun other member => unstopped other (List.mem_cons_of_mem _ member)
      split
      · exact ⟨⟨later, closed⟩, goes.symm⟩
      · exact ⟨⟨later, closed⟩, goes.symm⟩
    · split
      · exact ⟨⟨unstopped, closed⟩, rfl⟩
      · exact ⟨⟨unstopped, closed⟩, rfl⟩

theorem Closes.afterReads {source : Source} (closes : source.Closes) (count : Nat) :
    (source.afterReads count).Closes ∧ (source.afterReads count).running = source.running := by
  induction count with
  | zero => exact ⟨closes, rfl⟩
  | succ count ih =>
    obtain ⟨before, running⟩ := ih
    obtain ⟨after, still⟩ := before.read readChunkSize
    exact ⟨after, still.trans running⟩

private theorem read_alike {limit : Nat} {source after other : Source}
    {result : Except IoError Bytes}
    (reading : source.read limit = (result, after)) (same : other.untimed = source.untimed) :
    ∃ otherAfter, other.read limit = (result, otherAfter) ∧
      otherAfter.untimed = after.untimed := by
  have left := read_untimed limit source
  have right := read_untimed limit other
  rw [same] at right
  rw [reading] at left
  have result : (other.read limit).1 = result := right.1.symm.trans left.1
  exact ⟨(other.read limit).2, Prod.ext result rfl, right.2.symm.trans left.2⟩

/-- A read, and whether it has to be repeated. -/
theorem draw_eq (limit : Nat) (source : Source) :
    source.draw limit = match source.read limit with
      | (.error error, after) =>
        if error.kind = .interrupted then after.draw limit else (.error error, after)
      | (.ok data, after) => (.ok data, after) := by
  rw [draw]
  split
  all_goals
    rename_i reading
    rw [reading]
  split
  · rename_i interrupted
    exact (if_pos interrupted).symm
  · rename_i lasting
    exact (if_neg lasting).symm

private theorem draw_alike {limit : Nat} {source after other : Source}
    {result : Except IoError Bytes}
    (drawn : source.draw limit = (result, after)) (same : other.untimed = source.untimed) :
    ∃ otherAfter, other.draw limit = (result, otherAfter) ∧
      otherAfter.untimed = after.untimed := by
  fun_induction draw limit source generalizing other with
  | case1 source error next reading interrupted ih =>
    obtain ⟨otherNext, otherReading, alike⟩ := read_alike reading same
    obtain ⟨last, otherDrawn, alike⟩ := ih drawn alike
    rw [draw_eq, otherReading]
    exact ⟨last, (if_pos interrupted).trans otherDrawn, alike⟩
  | case2 source error next reading lasting =>
    cases drawn
    obtain ⟨last, otherReading, alike⟩ := read_alike reading same
    rw [draw_eq, otherReading]
    exact ⟨last, if_neg lasting, alike⟩
  | case3 source data next reading =>
    cases drawn
    obtain ⟨last, otherReading, alike⟩ := read_alike reading same
    rw [draw_eq, otherReading]
    exact ⟨last, rfl, alike⟩

end Source

namespace Receiver

/-- The receiver without the clock and the flag. -/
def untimed (receiver : Receiver) : Receiver :=
  { receiver with source := receiver.source.untimed }

/-- On the way from one state of a receiver to another these bytes have been consumed, and the clock
and the flag may have been set. -/
def Spends (before : Receiver) (consumed : Bytes) (after : Receiver) : Prop :=
  after.maxPayload = before.maxPayload ∧
    ∃ count, after.source.untimed = (before.source.afterReads count).untimed ∧
      before.buffer ++ before.source.delivered count = consumed ++ after.buffer

theorem Accounts.spends {before after : Receiver} {consumed : Bytes}
    (accounts : before.Accounts consumed after) : before.Spends consumed after := by
  obtain ⟨limit, count, source, bytes⟩ := accounts
  exact ⟨limit, count, congrArg Source.untimed source, bytes⟩

theorem Spends.of_untimed {before after : Receiver} (same : after.untimed = before.untimed) :
    before.Spends [] after := by
  have limit : after.untimed.maxPayload = before.untimed.maxPayload :=
    congrArg Receiver.maxPayload same
  have source : after.untimed.source = before.untimed.source := congrArg Receiver.source same
  have buffer : after.untimed.buffer = before.untimed.buffer := congrArg Receiver.buffer same
  exact ⟨limit, 0, source, (List.append_nil _).trans buffer.symm⟩

theorem Spends.trans {first middle last : Receiver} {here there : Bytes}
    (left : first.Spends here middle) (right : middle.Spends there last) :
    first.Spends (here ++ there) last := by
  obtain ⟨leftLimit, leftCount, leftSource, leftBytes⟩ := left
  obtain ⟨rightLimit, rightCount, rightSource, rightBytes⟩ := right
  refine ⟨rightLimit.trans leftLimit, leftCount + rightCount, ?_, ?_⟩
  · rw [rightSource, ← Source.untimed_afterReads, leftSource, Source.untimed_afterReads,
      Source.afterReads_add]
  · rw [← Source.delivered_untimed, leftSource, Source.delivered_untimed] at rightBytes
    rw [Source.delivered_add, ← List.append_assoc, leftBytes, List.append_assoc, rightBytes,
      List.append_assoc]

/-- The reads that were made meanwhile are those that the source has counted. -/
theorem Spends.delivered {before after : Receiver} {consumed : Bytes}
    (spends : before.Spends consumed after) :
    before.buffer ++ before.source.delivered (after.source.reads - before.source.reads) =
      consumed ++ after.buffer := by
  obtain ⟨_, count, source, bytes⟩ := spends
  have reads : after.source.untimed.reads = (before.source.afterReads count).untimed.reads :=
    congrArg Source.reads source
  change after.source.reads = (before.source.afterReads count).reads at reads
  rw [reads, Source.reads_afterReads, Nat.add_sub_cancel_left, bytes]

theorem untimed_eq_iff {receiver other : Receiver} :
    other.untimed = receiver.untimed ↔ other.source.untimed = receiver.source.untimed ∧
      other.maxPayload = receiver.maxPayload ∧ other.buffer = receiver.buffer := by
  simp only [untimed, mk.injEq]

theorem fill_alike {receiver after other : Receiver} {result : Except FrameError Unit}
    (filled : receiver.fill = (result, after)) (same : other.untimed = receiver.untimed) :
    ∃ otherAfter, other.fill = (result, otherAfter) ∧ otherAfter.untimed = after.untimed := by
  obtain ⟨source, limit, buffer⟩ := untimed_eq_iff.mp same
  unfold fill at filled ⊢
  split at filled
  all_goals
    rename_i drawn
    cases filled
    obtain ⟨last, otherDrawn, alike⟩ := Source.draw_alike drawn source
    rw [otherDrawn]
    refine ⟨_, rfl, untimed_eq_iff.mpr ⟨alike, limit, ?_⟩⟩
  · exact buffer
  · exact buffer
  · exact congrArg (· ++ _) buffer

private theorem takeFrame_alike {receiver after other : Receiver}
    {result : Except FrameError (Option Frame)} (taken : receiver.takeFrame = (result, after))
    (same : other.untimed = receiver.untimed) :
    ∃ otherAfter, other.takeFrame = (result, otherAfter) ∧
      otherAfter.untimed = after.untimed := by
  obtain ⟨source, limit, buffer⟩ := untimed_eq_iff.mp same
  unfold takeFrame at taken ⊢
  rw [limit, buffer]
  split at taken
  · cases taken
    exact ⟨other, rfl, same⟩
  · cases taken
    exact ⟨_, rfl, untimed_eq_iff.mpr ⟨source, rfl, rfl⟩⟩
  · cases taken
    exact ⟨_, rfl, untimed_eq_iff.mpr ⟨source, rfl, rfl⟩⟩

theorem stepFrame_alike {receiver after other : Receiver}
    {result : Except FrameError (Option Frame)} (stepped : receiver.stepFrame = (result, after))
    (same : other.untimed = receiver.untimed) :
    ∃ otherAfter, other.stepFrame = (result, otherAfter) ∧
      otherAfter.untimed = after.untimed := by
  unfold stepFrame at stepped ⊢
  split at stepped
  · rename_i middle untaken
    obtain ⟨otherMiddle, otherUntaken, alike⟩ := takeFrame_alike untaken same
    rw [otherUntaken]
    split at stepped
    · rename_i filled fills
      obtain ⟨otherFilled, otherFills, alike⟩ := fill_alike fills alike
      simp only [otherFills]
      exact takeFrame_alike stepped alike
    · rename_i error filled fills
      cases stepped
      obtain ⟨last, otherFills, alike⟩ := fill_alike fills alike
      simp only [otherFills]
      exact ⟨last, rfl, alike⟩
  · rename_i taken some
    obtain ⟨last, otherTaken, alike⟩ := takeFrame_alike stepped same
    rw [otherTaken]
    refine ⟨last, ?_, alike⟩
    split
    · rename_i untaken
      cases untaken
      exact absurd stepped (some after)
    · rfl

/-- A line that is there, or another read for it. -/
theorem awaitLine_eq (receiver : Receiver) :
    receiver.awaitLine = match cutLine? receiver.buffer with
      | some (line, rest) => (.ok line, { receiver with buffer := rest })
      | none => match receiver.fill with
        | (.ok (), after) => after.awaitLine
        | (.error error, after) => (.error error, after) := by
  rw [awaitLine]
  cases cutLine? receiver.buffer with
  | some cut => rfl
  | none =>
    simp only
    split
    all_goals
      rename_i fills
      simp only [fills]

theorem awaitLine_alike {receiver after other : Receiver} {result : Except FrameError Line}
    (awaited : receiver.awaitLine = (result, after)) (same : other.untimed = receiver.untimed) :
    ∃ otherAfter, other.awaitLine = (result, otherAfter) ∧
      otherAfter.untimed = after.untimed := by
  fun_induction awaitLine receiver generalizing other with
  | case1 receiver line rest cut =>
    cases awaited
    obtain ⟨source, limit, buffer⟩ := untimed_eq_iff.mp same
    rw [awaitLine_eq, buffer, cut]
    exact ⟨_, rfl, untimed_eq_iff.mpr ⟨source, limit, rfl⟩⟩
  | case2 receiver uncut next fills ih =>
    obtain ⟨otherNext, otherFills, alike⟩ := fill_alike fills same
    rw [awaitLine_eq, (untimed_eq_iff.mp same).2.2, uncut]
    simp only [otherFills]
    exact ih awaited alike
  | case3 receiver uncut error next fills =>
    cases awaited
    obtain ⟨last, otherFills, alike⟩ := fill_alike fills same
    rw [awaitLine_eq, (untimed_eq_iff.mp same).2.2, uncut]
    simp only [otherFills]
    exact ⟨last, rfl, alike⟩

theorem Accounts.closes {before after : Receiver} {consumed : Bytes}
    (accounts : before.Accounts consumed after) (closes : before.source.Closes) :
    after.source.Closes ∧ after.source.running = before.source.running := by
  obtain ⟨_, count, source, _⟩ := accounts
  rw [source]
  exact closes.afterReads count

end Receiver

end Provisioning
