import Provisioning.Proofs.Link.Moments
import Provisioning.Proofs.Session.Intake

/-! # How much a session holds

A session only calls its receiving side or leaves the buffer alone, so it never holds more than a
receiver does, in a run and outside one, also while a frame is awaited and whatever others do to the
session in between: `Course.bounded`.
-/

namespace Provisioning

namespace Receiver

/-- Neither the clock nor the flag has a part in what is held. -/
theorem Bounded.of_untimed {before after : Receiver} (bounded : before.Bounded)
    (same : after.untimed = before.untimed) : after.Bounded := by
  obtain ⟨_, limit, buffer⟩ := untimed_eq_iff.mp same
  rwa [Bounded, limit, buffer]

private theorem discard_bounded (receiver : Receiver) : receiver.discard.2.Bounded := Nat.zero_le _

end Receiver

namespace Session

private theorem listen_bounded {session : Session} (bounded : session.receiver.Bounded) :
    session.listen.2.receiver.Bounded := by
  rcases listened : session.listen with ⟨heard, after⟩
  cases listen_cases listened with
  | line awaited _ | undecodable awaited _ =>
    exact (Receiver.awaitLine_bounded awaited bounded).of_untimed (intake_receive _ _ _)
  | hungUp awaited | quiet awaited _ | failed awaited _ _ =>
    exact Receiver.awaitLine_bounded awaited bounded

private theorem check_bounded {session : Session} (bounded : session.receiver.Bounded) :
    session.check.receiver.Bounded :=
  bounded.of_untimed (intake_check session)

private theorem advance_bounded (exchange : Exchange) {session : Session}
    (bounded : session.receiver.Bounded) : (session.advance exchange).2.receiver.Bounded := by
  have emptied := session.check.receiver.discard_bounded
  have looked {result : Except FrameError (Option Frame)} {receiver : Receiver}
      (looks : session.Looks exchange result receiver) : receiver.Bounded :=
    Receiver.stepFrame_bounded looks.stepped (check_bounded bounded)
  rcases advanced : session.advance exchange with ⟨progress, after⟩
  cases advance_cases advanced with
  | cancelled _ | expired _ _ => exact emptied.of_untimed (intake_abandon _ _ _)
  | arrived looks => exact (looked looks).of_untimed (intake_accept _ _ _)
  | oversized looks => exact (looked looks).of_untimed (intake_abandon _ _ _)
  | incomplete looks | idle looks _ _ | forsaken looks _ _ | failed looks _ _ => exact looked looks

theorem Awaits.bounded {exchange : Exchange} {session after : Session} {acts : List Act}
    {ending : Ending} (awaits : Awaits exchange session acts ending after)
    (bounded : session.receiver.Bounded) : after.receiver.Bounded := by
  induction awaits with
  | @ended session after ending advanced =>
    have kept := advance_bounded exchange bounded
    rwa [advanced] at kept
  | @onward session middle after progress acts ending advanced undecided rest ih =>
    have kept := advance_bounded exchange bounded
    rw [advanced] at kept
    exact ih kept
  | disturbed clock running files rest ih => exact ih bounded

theorem Dispatches.bounded {line : String} {session after : Session} {acts : List Act}
    {ending : Ending} (taken : Dispatches line session acts ending after)
    (bounded : session.receiver.Bounded) : after.receiver.Bounded := by
  cases taken with
  | ordinary ordinary => exact bounded.of_untimed (intake_dispatch ordinary session)
  | announced _ awaits => exact awaits.bounded bounded

theorem Hears.bounded {before after : Session} {heard : Except SessionError Heard}
    (hears : before.Hears heard after) (bounded : before.receiver.Bounded) :
    after.receiver.Bounded := by
  have kept := listen_bounded (check_bounded bounded)
  rwa [hears.listened] at kept

private theorem heard?_bounded {session middle : Session} {line : String}
    (heard : session.heard? = some (line, middle)) (bounded : session.receiver.Bounded) :
    middle.receiver.Bounded := by
  obtain ⟨after, hears, rfl⟩ := heard?_eq_some_iff.mp heard
  exact hears.bounded bounded

private theorem turn_bounded {session : Session} (unheard : session.heard? = none)
    (bounded : session.receiver.Bounded) : session.turn.2.receiver.Bounded := by
  rcases turned : session.turn with ⟨outcome, after⟩
  cases turn_cases turned with
  | stopped _ => exact check_bounded bounded
  | failed hears | hungUp hears | quiet hears _ | forsaken hears _ => exact hears.bounded bounded
  | skipped hears => exact (hears.bounded bounded).of_untimed (intake_deliver _ _)
  | line heard _ _ =>
    rw [unheard] at heard
    cases heard

theorem Move.bounded {before after : Point} {acts : List Act} (move : Move before acts after)
    (bounded : before.session.receiver.Bounded) : after.session.receiver.Bounded := by
  cases move with
  | begin session => exact bounded
  | turn unheard => exact turn_bounded unheard bounded
  | heard heard taken =>
    exact (taken.bounded (heard?_bounded heard bounded)).of_untimed (intake_ended _ _ _)
  | listen session => exact listen_bounded bounded
  | dispatch taken => exact (taken.bounded bounded).of_untimed (intake_ended _ _ _)
  | disturbed => exact bounded

theorem Course.bounded {before after : Point} {acts : List Act} (course : Course before acts after)
    (bounded : before.session.receiver.Bounded) : after.session.receiver.Bounded := by
  induction course with
  | nil => exact bounded
  | cons move rest ih => exact ih (move.bounded bounded)

/-- However a new receiver is called, at every moment it holds less than a piece of text or the
largest frame that it accepts, and at most one read more; every sequence of calls goes through such
moments, and each call through those of its own. A session holds no more either, wherever it has
come to, and every call is such a course. -/
theorem buffer_bounded :
    (∀ (source : Source) (maxPayload : Nat),
      (∀ moment, Receiver.Becomes ⟨.idle, { source, maxPayload }⟩ moment →
        moment.receiver.buffer.length ≤ Receiver.capacity maxPayload) ∧
      (∀ calls, Receiver.Becomes ⟨.idle, { source, maxPayload }⟩
        ⟨.idle, (Receiver.performAll { source, maxPayload } calls).2⟩) ∧
      ∀ call receiver, Receiver.Ends call ⟨.looking call false, receiver⟩
        (receiver.perform call).2 ∧
        ∀ moment, Receiver.During call ⟨.looking call false, receiver⟩ moment →
          Receiver.Ends call moment (receiver.perform call).2) ∧
    (∀ (profile : Profile) (source : Source) (sink : Sink) (files : FileTree) (pauses : List Nat)
        (interludes : List Interlude) (acts : List Act) (point : Point),
      Course ⟨.idle, { start profile source sink files with pauses, interludes }⟩ acts point →
        point.session.receiver.buffer.length ≤ Receiver.capacity profile.maxPayload) ∧
    ∀ session : Session,
      Proceeds ⟨.idle, session⟩ ⟨session.run.1.standing, session.run.2⟩ ∧
        Proceeds ⟨.idle, session⟩ ⟨.idle, session.listen.2⟩ ∧
        ∀ line, Proceeds ⟨.idle, session⟩
          ⟨(session.dispatch line).1.standing, (session.dispatch line).2⟩ := by
  refine ⟨?receiver, ?session, calls_proceed⟩
  case receiver =>
    intro source maxPayload
    refine ⟨fun moment path => Receiver.length_buffer_le path, ?_, ?_⟩
    · intro calls
      exact Receiver.performAll_becomes calls _
    · intro call receiver
      have ends := Receiver.perform_ends call receiver
      exact ⟨ends, fun moment during => ends.of_during rfl during⟩
  case session =>
    intro profile source sink files pauses interludes acts point course
    have begun : Receiver.Bounded (start profile source sink files).receiver := Nat.zero_le _
    have bounded := course.bounded begun
    obtain ⟨_, _, limit, _⟩ := course.spends
    rwa [Receiver.Bounded, limit] at bounded

end Session

end Provisioning
