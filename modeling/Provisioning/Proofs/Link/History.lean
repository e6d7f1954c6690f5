import Mathlib.Logic.Relation
import Provisioning.Link.Receiver
import Provisioning.Link.Transmitter

/-! # What has happened to the two sides of a line

A source is only ever read, a piece at a time, and changed from outside: time passes, and the flag
that it carries may change. A sink is only ever written to and flushed. `Leads` says that one state
of a source or a sink comes to be another in this way, and `Returns`, `Accepts` and `Flushes` that
the last thing on the way was a read, a write or a flush and what it came back with.

A call of the receiving or the sending side leads somewhere in any case. When it fails, `Fails` says
which read, write or flush it failed with. A payload or an announced length above the limit is the
only failure that no such call is the cause of.
-/

namespace Provisioning

namespace Source

/-- One thing that happens to a source. -/
inductive Step : Source → Source → Prop where
  | read (source : Source) : Step source (source.read readChunkSize).2
  | outside (source : Source) (clock : Nat) (running : Bool) :
      Step source { source with clock, running }

/-- The source comes to be the other by being read and being changed from outside. -/
def Leads : Source → Source → Prop := Relation.ReflTransGen Step

/-- The last thing that happened was a read that returned this. -/
def Returns (before : Source) (result : Except IoError Bytes) (after : Source) : Prop :=
  ∃ last, before.Leads last ∧ last.read readChunkSize = (result, after)

/-- A failure of the receiving side and the read that it comes from: one that returned no bytes, or
an error that is not an interruption. -/
inductive Fails (before : Source) : FrameError → Source → Prop where
  | hungUp {after : Source} (returned : before.Returns (.ok []) after) : Fails before .closed after
  | broken {cause : IoError} {after : Source} (kind : cause.kind ≠ .interrupted)
      (returned : before.Returns (.error cause) after) : Fails before (.io cause) after

/-- A call of the receiving side has only read the source, and if it failed then with a read. -/
def Explains {α : Type} (before : Source) : Except FrameError α → Source → Prop
  | .ok _, after => before.Leads after
  | .error error, after => before.Fails error after

theorem Leads.trans {first middle last : Source} (left : first.Leads middle)
    (right : middle.Leads last) : first.Leads last :=
  Relation.ReflTransGen.trans left right

theorem Leads.outside (source : Source) (clock : Nat) (running : Bool) :
    source.Leads { source with clock, running } :=
  .single (.outside source clock running)

theorem Returns.leads {before after : Source} {result : Except IoError Bytes}
    (returned : before.Returns result after) : before.Leads after := by
  obtain ⟨last, reached, reading⟩ := returned
  have step := Step.read last
  rw [reading] at step
  exact .tail reached step

theorem Returns.later {before middle after : Source} {result : Except IoError Bytes}
    (returned : middle.Returns result after) (leads : before.Leads middle) :
    before.Returns result after := by
  obtain ⟨last, reached, reading⟩ := returned
  exact ⟨last, leads.trans reached, reading⟩

theorem Fails.later {before middle after : Source} {error : FrameError}
    (fails : middle.Fails error after) (leads : before.Leads middle) :
    before.Fails error after := by
  cases fails with
  | hungUp returned => exact .hungUp (returned.later leads)
  | broken kind returned => exact .broken kind (returned.later leads)

theorem Fails.leads {before after : Source} {error : FrameError}
    (fails : before.Fails error after) : before.Leads after := by
  cases fails with
  | hungUp returned => exact returned.leads
  | broken _ returned => exact returned.leads

theorem Explains.later {α : Type} {before middle after : Source} {result : Except FrameError α}
    (explains : middle.Explains result after) (leads : before.Leads middle) :
    before.Explains result after := by
  cases result with
  | ok value => exact leads.trans explains
  | error error => exact Fails.later explains leads

theorem Explains.leads {α : Type} {before after : Source} {result : Except FrameError α}
    (explains : before.Explains result after) : before.Leads after := by
  cases result with
  | ok value => exact explains
  | error error => exact Fails.leads explains

/-- However often a read is interrupted and made again, what comes of it is what the last one
returned. -/
theorem draw_returns {source after : Source} {result : Except IoError Bytes}
    (drawn : source.draw readChunkSize = (result, after)) : source.Returns result after := by
  fun_induction draw readChunkSize source with
  | case1 source error next reading interrupted ih =>
    have returned : source.Returns (.error error) next := ⟨source, .refl, reading⟩
    exact (ih drawn).later returned.leads
  | case2 source error next reading other =>
    cases drawn
    exact ⟨source, .refl, reading⟩
  | case3 source data next reading =>
    cases drawn
    exact ⟨source, .refl, reading⟩

end Source

namespace Receiver

theorem fill_history {receiver after : Receiver} {result : Except FrameError Unit}
    (filled : receiver.fill = (result, after)) : receiver.source.Explains result after.source := by
  unfold fill at filled
  split at filled
  · rename_i drawn
    cases filled
    exact .broken (Source.draw_error_kind drawn) (Source.draw_returns drawn)
  · rename_i drawn
    cases filled
    exact .hungUp (Source.draw_returns drawn)
  · rename_i drawn
    cases filled
    exact (Source.draw_returns drawn).leads

theorem awaitLine_history {receiver after : Receiver} {result : Except FrameError Line}
    (awaited : receiver.awaitLine = (result, after)) :
    receiver.source.Explains result after.source := by
  fun_induction awaitLine receiver with
  | case1 receiver line rest cut =>
    cases awaited
    exact .refl
  | case2 receiver _ next fills ih =>
    exact (ih awaited).later (fill_history fills)
  | case3 receiver _ error next fills =>
    cases awaited
    exact fill_history fills

theorem takeFrame_history {receiver after : Receiver} {result : Except FrameError (Option Frame)}
    (taken : receiver.takeFrame = (result, after)) :
    receiver.source.Leads after.source ∧
      ∀ error, result = .error error → ∃ size max, error = .oversized size max := by
  unfold takeFrame at taken
  split at taken
  · cases taken
    exact ⟨.refl, nofun⟩
  · cases taken
    refine ⟨.refl, ?_⟩
    rintro error ⟨⟩
    exact ⟨_, _, rfl⟩
  · cases taken
    exact ⟨.refl, nofun⟩

theorem stepFrame_history {receiver after : Receiver} {result : Except FrameError (Option Frame)}
    (stepped : receiver.stepFrame = (result, after)) :
    receiver.source.Explains result after.source ∨
      (∃ size max, result = .error (.oversized size max)) ∧
        receiver.source.Leads after.source := by
  have taken_history {middle : Receiver} (leads : receiver.source.Leads middle.source)
      (taken : middle.takeFrame = (result, after)) :
      receiver.source.Explains result after.source ∨
        (∃ size max, result = .error (.oversized size max)) ∧
          receiver.source.Leads after.source := by
    obtain ⟨further, refused⟩ := takeFrame_history taken
    cases result with
    | ok frame => exact .inl (leads.trans further)
    | error error =>
      obtain ⟨size, max, rfl⟩ := refused error rfl
      exact .inr ⟨⟨size, max, rfl⟩, leads.trans further⟩
  unfold stepFrame at stepped
  split at stepped
  · rename_i same taken
    cases takeFrame_none taken
    split at stepped
    · rename_i filled fills
      exact taken_history (fill_history fills) stepped
    · rename_i error filled fills
      cases stepped
      exact .inl (fill_history fills)
  · exact taken_history .refl stepped

theorem stepFrame_leads {receiver after : Receiver} {result : Except FrameError (Option Frame)}
    (stepped : receiver.stepFrame = (result, after)) :
    receiver.source.Leads after.source := by
  rcases stepFrame_history stepped with explains | ⟨_, leads⟩
  · exact explains.leads
  · exact leads

/-- A frame that does not come was refused for its length, or a read has failed. -/
theorem awaitFrame_history {receiver after : Receiver} {result : Except FrameError Frame}
    (awaited : receiver.awaitFrame = (result, after)) :
    receiver.source.Explains result after.source ∨
      (∃ size max, result = .error (.oversized size max)) ∧
        receiver.source.Leads after.source := by
  fun_induction awaitFrame receiver with
  | case1 receiver frame next stepped =>
    cases awaited
    exact .inl (stepFrame_leads stepped)
  | case2 receiver next stepped ih =>
    have leads := stepFrame_leads stepped
    rcases ih awaited with explains | ⟨refused, further⟩
    · exact .inl (explains.later leads)
    · exact .inr ⟨refused, leads.trans further⟩
  | case3 receiver error next stepped =>
    cases awaited
    rcases stepFrame_history stepped with explains | ⟨⟨size, max, refused⟩, leads⟩
    · exact .inl explains
    · cases refused
      exact .inr ⟨⟨size, max, rfl⟩, leads⟩

theorem awaitFrame_leads {receiver after : Receiver} {result : Except FrameError Frame}
    (awaited : receiver.awaitFrame = (result, after)) : receiver.source.Leads after.source := by
  rcases awaitFrame_history awaited with explains | ⟨_, leads⟩
  · exact explains.leads
  · exact leads

end Receiver

namespace Sink

/-- One thing that happens to a sink. -/
inductive Step : Sink → Sink → Prop where
  | write (bytes : Bytes) (sink : Sink) : Step sink (sink.write bytes).2
  | flush (sink : Sink) : Step sink sink.flush.2

/-- The sink comes to be the other by being written to and flushed. -/
def Leads : Sink → Sink → Prop := Relation.ReflTransGen Step

/-- The last thing that happened was that these bytes were offered, and this came of it. -/
def Accepts (before : Sink) (bytes : Bytes) (result : Except IoError Nat) (after : Sink) : Prop :=
  ∃ last, before.Leads last ∧ last.write bytes = (result, after)

/-- The last thing that happened was a flush, and this came of it. -/
def Flushes (before : Sink) (result : Except IoError Unit) (after : Sink) : Prop :=
  ∃ last, before.Leads last ∧ last.flush = (result, after)

/-- A failure of the sending side and what it comes from: a write that took none of the bytes that
it was offered, or a write or a flush whose error is of no kind to try again. -/
inductive Fails (before : Sink) : FrameError → Sink → Prop where
  | refused {bytes : Bytes} {after : Sink} (offered : bytes ≠ [])
      (accepted : before.Accepts bytes (.ok 0) after) : Fails before .closed after
  | unwritten {cause : IoError} {bytes : Bytes} {after : Sink}
      (kind : cause.kind.isTransient = false)
      (accepted : before.Accepts bytes (.error cause) after) : Fails before (.io cause) after
  | unflushed {cause : IoError} {after : Sink} (kind : cause.kind.isTransient = false)
      (flushed : before.Flushes (.error cause) after) : Fails before (.io cause) after

/-- A call of the sending side has only written and flushed, and if it failed then with one of the
two. -/
def Explains {α : Type} (before : Sink) : Except FrameError α → Sink → Prop
  | .ok _, after => before.Leads after
  | .error error, after => before.Fails error after

theorem Leads.trans {first middle last : Sink} (left : first.Leads middle)
    (right : middle.Leads last) : first.Leads last :=
  Relation.ReflTransGen.trans left right

private theorem leads_of_write {sink after : Sink} {bytes : Bytes} {result : Except IoError Nat}
    (written : sink.write bytes = (result, after)) : sink.Leads after := by
  have step := Step.write bytes sink
  rw [written] at step
  exact .single step

theorem leads_of_flush {sink after : Sink} {result : Except IoError Unit}
    (flushed : sink.flush = (result, after)) : sink.Leads after := by
  have step := Step.flush sink
  rw [flushed] at step
  exact .single step

theorem Fails.later {before middle after : Sink} {error : FrameError}
    (fails : middle.Fails error after) (leads : before.Leads middle) :
    before.Fails error after := by
  cases fails with
  | refused offered accepted =>
    obtain ⟨last, reached, written⟩ := accepted
    exact .refused offered ⟨last, leads.trans reached, written⟩
  | unwritten kind accepted =>
    obtain ⟨last, reached, written⟩ := accepted
    exact .unwritten kind ⟨last, leads.trans reached, written⟩
  | unflushed kind flushed =>
    obtain ⟨last, reached, flushing⟩ := flushed
    exact .unflushed kind ⟨last, leads.trans reached, flushing⟩

theorem Fails.leads {before after : Sink} {error : FrameError} (fails : before.Fails error after) :
    before.Leads after := by
  cases fails with
  | refused _ accepted =>
    obtain ⟨last, reached, written⟩ := accepted
    exact reached.trans (leads_of_write written)
  | unwritten _ accepted =>
    obtain ⟨last, reached, written⟩ := accepted
    exact reached.trans (leads_of_write written)
  | unflushed _ flushed =>
    obtain ⟨last, reached, flushing⟩ := flushed
    exact reached.trans (leads_of_flush flushing)

theorem Explains.later {α : Type} {before middle after : Sink} {result : Except FrameError α}
    (explains : middle.Explains result after) (leads : before.Leads middle) :
    before.Explains result after := by
  cases result with
  | ok value => exact leads.trans explains
  | error error => exact Fails.later explains leads

theorem writeAll_history {sink after : Sink} {bytes : Bytes} {result : Except FrameError Unit}
    (written : sink.writeAll bytes = (result, after)) : sink.Explains result after := by
  fun_induction writeAll bytes sink with
  | case1 bytes sink none =>
    cases written
    exact .refl
  | case2 bytes sink some next writing =>
    cases written
    have offered : bytes ≠ [] := by simpa using some
    exact .refused offered ⟨sink, .refl, writing⟩
  | case3 bytes sink some count next writing ih => exact (ih written).later (leads_of_write writing)
  | case4 bytes sink some error next writing transient ih =>
    exact (ih written).later (leads_of_write writing)
  | case5 bytes sink some error next writing lasting =>
    cases written
    exact .unwritten (Bool.eq_false_iff.mpr lasting) ⟨sink, .refl, writing⟩

private theorem flushAll_history {sink after : Sink} {result : Except FrameError Unit}
    (flushed : sink.flushAll = (result, after)) : sink.Explains result after := by
  fun_induction flushAll sink with
  | case1 sink next flushing =>
    cases flushed
    exact leads_of_flush flushing
  | case2 sink error next flushing transient ih =>
    exact (ih flushed).later (leads_of_flush flushing)
  | case3 sink error next flushing lasting =>
    cases flushed
    exact .unflushed (Bool.eq_false_iff.mpr lasting) ⟨sink, .refl, flushing⟩

end Sink

namespace Transmitter

theorem sendRaw_history {transmitter after : Transmitter} {bytes : Bytes}
    {result : Except FrameError Unit} (sent : transmitter.sendRaw bytes = (result, after)) :
    transmitter.sink.Explains result after.sink := by
  unfold sendRaw at sent
  split at sent
  · rename_i sink written
    cases sent
    have flushed : sink.Explains sink.flushAll.1 sink.flushAll.2 := Sink.flushAll_history rfl
    exact flushed.later (Sink.writeAll_history written)
  · rename_i error sink written
    cases sent
    exact Sink.writeAll_history written

theorem send_history {transmitter after : Transmitter} {payload : Bytes}
    {result : Except FrameError Unit} (sent : transmitter.send payload = (result, after)) :
    transmitter.sink.Explains result after.sink ∨
      (∃ size max, result = .error (.oversized size max)) ∧ after.sink = transmitter.sink := by
  unfold send at sent
  split at sent
  · cases sent
    exact .inr ⟨⟨_, _, rfl⟩, rfl⟩
  · split at sent
    · rename_i wire encoded
      exact .inl (@sendRaw_history { transmitter with buffer := [] ++ wire } after _ result sent)
    · rename_i error refused
      cases sent
      unfold Frame.encode at refused
      split at refused
      · cases refused
      · cases refused
        exact .inr ⟨⟨_, _, rfl⟩, rfl⟩

end Transmitter

end Provisioning
