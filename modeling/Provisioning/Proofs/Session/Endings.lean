import Provisioning.Proofs.Session.Conduct

/-! # What ends a run

Whatever a device sends, a run goes on. It finishes only if it finds that the program is to stop, if
a read brings no bytes, or if a write takes none; it fails only with an error that a read, a write
or a flush has come back with, and with none after which the call is made again. Neither a wrong
checksum nor a length above the limit, neither a file that cannot be read nor a key log that cannot
be added to is among these.
-/

namespace Provisioning.Session

/-- What can come of a line that was taken up. -/
inductive Ended (before : Session) : Ending → Session → Prop where
  | done {after : Session} (leads : before.Leads after) : Ended before .done after
  | failed {error : FrameError} {after : Session} (broken : before.Broken error after) :
      Ended before (.failed (.frame error)) after
  | waiting {pending : Exchange} {after : Session} (forsaken : after.isForsaken = true) :
      Ended before (.waiting pending) after

theorem Ended.later {before middle after : Session} {ending : Ending}
    (ended : middle.Ended ending after) (leads : before.Leads middle) :
    before.Ended ending after := by
  cases ended with
  | done further => exact .done (leads.trans further)
  | failed broken => exact .failed (broken.later leads)
  | waiting forsaken => exact .waiting forsaken

theorem Obeyed.ended {before after : Session} {ending : Ending}
    (obeyed : before.Obeyed ending after) : before.Ended ending after := by
  cases obeyed with
  | done works => exact .done works.toLeads
  | failed _ fails => exact .failed (.sending fails)

theorem exchange_ended (pending : Exchange) (session : Session) :
    session.Ended (session.exchange pending).1 (session.exchange pending).2 := by
  fun_induction exchange pending session with
  | case1 session ending after advanced =>
    have outcome := advance_advanced pending session
    rw [advanced] at outcome
    cases outcome with
    | received works arrived =>
      exact .done (works.toLeads.trans (accept_accepted pending.part _ _).leads)
    | abandoned works none => exact .done works.toLeads
    | failed works none broken => exact .failed broken
    | waiting works none forsaken => exact .waiting forsaken
  | case2 session after advanced ih =>
    have outcome := advance_advanced pending session
    rw [advanced] at outcome
    cases outcome with
    | pending works none => exact ih.later works.toLeads

theorem dispatch_ended (line : String) (session : Session) :
    session.Ended (session.dispatch line).1 (session.dispatch line).2 := by
  cases announced : KeyPart.announcedBy? line with
  | none => exact (dispatch_obeyed announced session).ended
  | some part =>
    rw [dispatch_of_announced announced]
    exact (exchange_ended _ _).later ((Works.refl session).heed part.command).toLeads

/-! ## Turns -/

/-- What can come of a turn. -/
inductive Turned (before : Session) : Turn → Session → Prop where
  | onward {after : Session} (leads : before.Leads after) : Turned before .onward after
  | stopped {after : Session} (clear : after.running = false) : Turned before .stopped after
  | hungUp {after : Session} (broken : before.Broken .closed after) : Turned before .stopped after
  | failed {cause : IoError} {after : Session} (broken : before.Broken (.io cause) after) :
      Turned before (.failed (.frame (.io cause))) after
  | waiting {pending : Option Exchange} {after : Session} (forsaken : after.isForsaken = true) :
      Turned before (.waiting pending) after

private theorem settle_turned {before session : Session} {ending : Ending}
    (ended : before.Ended ending session) :
    before.Turned (session.settle ending).1 (session.settle ending).2 := by
  cases ended with
  | done leads => exact .onward leads
  | waiting forsaken => exact .waiting forsaken
  | @failed error _ broken =>
    cases broken with
    | receiving fails lasting =>
      cases fails with
      | hungUp returned => exact .hungUp (.receiving (.hungUp returned) lasting)
      | broken kind returned => exact .failed (.receiving (.broken kind returned) lasting)
    | sending fails =>
      cases fails with
      | refused offered accepted => exact .hungUp (.sending (.refused offered accepted))
      | unwritten kind accepted => exact .failed (.sending (.unwritten kind accepted))
      | unflushed kind flushed => exact .failed (.sending (.unflushed kind flushed))

private theorem turn_turned (session : Session) : session.Turned session.turn.1 session.turn.2 := by
  have checked := ((Works.refl session).check).toLeads
  rcases turned : session.turn with ⟨outcome, after⟩
  cases turn_cases turned with
  | stopped stopped => exact .stopped stopped
  | failed hears =>
    cases Listened.of_hears hears with
    | failed _ broken => exact .failed (broken.later checked)
  | hungUp hears =>
    cases Listened.of_hears hears with
    | heard _ some => exact absurd rfl some
    | hungUp _ broken => exact .hungUp ((broken.later checked).note _ _ _)
  | quiet hears _ => exact .onward (Works.hears hears).toLeads
  | forsaken _ forsaken => exact .waiting forsaken
  | skipped hears => exact .onward ((Works.hears hears).skip _).toLeads
  | @line text middle _ _ _ _ heard dispatched settled =>
    have ended := (dispatch_ended text middle).later (heard?_works heard).toLeads
    rw [dispatched] at ended
    have outcome := settle_turned ended
    rwa [settled] at outcome

/-! ## Runs -/

/-- What can come of a run. -/
inductive Ran (before : Session) : RunEnd → Session → Prop where
  | stopped {after : Session} (clear : after.running = false) :
      Ran before (.finished after.tally) after
  | hungUp {after : Session} (broken : before.Broken .closed after) :
      Ran before (.finished after.tally) after
  | failed {cause : IoError} {after : Session} (broken : before.Broken (.io cause) after) :
      Ran before (.failed (.frame (.io cause))) after
  | waiting {pending : Option Exchange} {after : Session} (forsaken : after.isForsaken = true) :
      Ran before (.waiting pending) after

theorem Ran.later {before middle after : Session} {outcome : RunEnd}
    (ran : middle.Ran outcome after) (leads : before.Leads middle) : before.Ran outcome after := by
  cases ran with
  | stopped clear => exact .stopped clear
  | hungUp broken => exact .hungUp (broken.later leads)
  | failed broken => exact .failed (broken.later leads)
  | waiting forsaken => exact .waiting forsaken

private theorem loop_ran (session : Session) : session.Ran session.loop.1 session.loop.2 := by
  fun_induction loop session with
  | case1 session after turned ih =>
    have outcome := turn_turned session
    rw [turned] at outcome
    cases outcome with
    | onward leads => exact ih.later leads
  | case2 session after turned =>
    have outcome := turn_turned session
    rw [turned] at outcome
    cases outcome with
    | stopped clear => exact .stopped clear
    | hungUp broken => exact .hungUp broken
  | case3 session error after turned =>
    have outcome := turn_turned session
    rw [turned] at outcome
    cases outcome with
    | failed broken => exact .failed broken
  | case4 session pending after turned =>
    have outcome := turn_turned session
    rw [turned] at outcome
    cases outcome with
    | waiting forsaken => exact .waiting forsaken

theorem run_ran (session : Session) : session.Ran session.run.1 session.run.2 :=
  (loop_ran _).later ((Works.refl session).note _ _ _).toLeads

/-- A run fails only with the error of a read, a write or a flush, and with none after which the
call is made again. It finishes only if the program is to stop, a read has brought no bytes or a
write has taken none of those it was offered. A run that does neither has nothing left to wait
for. -/
theorem run_ends (session : Session) :
    match session.run with
    | (.failed error, after) => ∃ cause, error = .frame (.io cause) ∧
        (cause.kind ∉ [.interrupted, .timedOut, .wouldBlock] ∧
            session.receiver.source.Returns (.error cause) after.receiver.source ∨
          cause.kind ∉ [.interrupted, .wouldBlock] ∧
            ((∃ bytes,
                session.transmitter.sink.Accepts bytes (.error cause) after.transmitter.sink) ∨
              session.transmitter.sink.Flushes (.error cause) after.transmitter.sink))
    | (.finished tally, after) => tally = after.tally ∧
        (after.running = false ∨
          session.receiver.source.Returns (.ok []) after.receiver.source ∨
          ∃ bytes, bytes ≠ [] ∧
            session.transmitter.sink.Accepts bytes (.ok 0) after.transmitter.sink)
    | (.waiting _, after) => after.isForsaken = true := by
  have outcome := run_ran session
  rcases ran : session.run with ⟨result, after⟩
  rw [ran] at outcome
  simp only at outcome ⊢
  cases outcome with
  | stopped clear => exact ⟨rfl, .inl clear⟩
  | hungUp broken =>
    refine ⟨rfl, .inr ?_⟩
    cases broken with
    | receiving fails lasting =>
      cases fails with
      | hungUp returned => exact .inl returned
    | sending fails =>
      cases fails with
      | refused offered accepted => exact .inr ⟨_, offered, accepted⟩
  | @failed cause _ broken =>
    refine ⟨cause, rfl, ?_⟩
    cases broken with
    | receiving fails lasting =>
      cases fails with
      | broken kind returned =>
        refine .inl ⟨?_, returned⟩
        simp [FrameError.isTimeout, IoKind.isTimeout] at lasting
        simp [kind, lasting]
    | sending fails =>
      cases fails with
      | unwritten kind accepted =>
        refine .inr ⟨?_, .inl ⟨_, accepted⟩⟩
        simpa [IoKind.isTransient] using kind
      | unflushed kind flushed =>
        refine .inr ⟨?_, .inr flushed⟩
        simpa [IoKind.isTransient] using kind
  | waiting forsaken => exact forsaken

end Provisioning.Session
