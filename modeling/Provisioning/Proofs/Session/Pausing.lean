import Provisioning.Proofs.Session.Twins

/-! # Pausing a session

The operator may stop a session while an event is delivered to him, set the flag again once the run
has returned, and run the session again. `Persists` says what comes of doing so for as long as runs
return stopped. Nothing is lost by it: `run_persists` compares the last of these runs with the one
run in which no event stops the session.

A run that is stopped returns before it has begun its next turn, so a session that is run again is
still a twin of the one that was never stopped (`Twins.rerun`), and the two take their turns in step
(`loop_persists`).
-/

namespace Provisioning.Session

/-- Run a session again that has been stopped. -/
def rerun (session : Session) : RunEnd × Session := (session.setRunning true).run

/-- What a run has returned is the end, or the run was stopped and more runs lead there. -/
inductive Persists : RunEnd × Session → RunEnd → Session → Prop where
  | ended {outcome : RunEnd} {last : Session} (running : last.running = true) :
      Persists (outcome, last) outcome last
  | again {paused outcome : RunEnd} {middle last : Session} (stopped : middle.running = false)
      (rest : Persists middle.rerun outcome last) : Persists (paused, middle) outcome last

theorem Persists.unique {ran : RunEnd × Session} {outcome other : RunEnd} {last final : Session}
    (persists : Persists ran outcome last) (also : Persists ran other final) :
    other = outcome ∧ final = last := by
  induction persists with
  | ended running =>
    cases also with
    | ended => exact ⟨rfl, rfl⟩
    | again stopped => cases running.symm.trans stopped
  | again stopped rest ih =>
    cases also with
    | ended running => cases running.symm.trans stopped
    | again _ later => exact ih later

/-- The session without the events that stop it. -/
def unpaused (session : Session) : Session := { session with pauses := [] }

/-- Two sessions have told, written, recorded and counted the same, and have left the same on the
line. -/
structure Agrees (whole last : Session) : Prop where
  events : last.events = whole.events
  written : last.transmitter = whole.transmitter
  files : last.files = whole.files
  tally : last.tally = whole.tally
  buffered : last.receiver.buffer = whole.receiver.buffer
  unread : last.receiver.source.untimed = whole.receiver.source.untimed

namespace Twins

variable {first second : Session}

theorem agrees (twins : first.Twins second) : first.Agrees second := by
  obtain ⟨unread, _, buffered⟩ := Receiver.untimed_eq_iff.mp twins.intake
  exact ⟨twins.events, twins.transmitter, twins.files, twins.tally, buffered, unread⟩

/-- The second session has been stopped before a turn, and has begun to run again. -/
theorem rerun (twins : first.Twins second) :
    first.Twins ((second.check.setRunning true).note .info "awaiting device commands" []) := by
  have checked := twins.right.check
  have intake : second.check.intake = first.intake := (intake_check second).trans twins.intake
  obtain ⟨receiver, interludes, kept⟩ := check_kept second
  rw [kept] at checked intake ⊢
  exact { twins with
    right := checked.same rfl rfl rfl
    intake }

end Twins

variable {first second : Session}

private theorem loop_of_stopped {session : Session} (stopped : session.check.running = false) :
    session.loop = (.finished session.check.tally, session.check) := by
  have turned : session.turn = (.stopped, session.check) := by
    simp only [turn, stopped, Bool.false_eq_true, if_false]
  rw [loop_eq, turned]

/-- A session that has been stopped needs only be run again. -/
theorem persists_of_going {outcome : RunEnd} {whole : Session}
    (going : ∀ other : Session, first.Twins other → other.check.running = true →
      ∃ last, Persists other.loop outcome last ∧ whole.Twins last)
    (twins : first.Twins second) :
    ∃ last, Persists second.loop outcome last ∧ whole.Twins last := by
  cases running : second.check.running with
  | true => exact going second twins running
  | false =>
    have again := twins.rerun
    obtain ⟨last, rest, alike⟩ := going _ again (again.right.running_check rfl)
    rw [loop_of_stopped running]
    exact ⟨last, .again running rest, alike⟩

/-- The second session takes the turn that the first has taken. -/
theorem turn_alike {turn : Turn} {after : Session} (twins : first.Twins second)
    (running : second.check.running = true) (turned : first.turn = (turn, after)) :
    ∃ other, second.turn = (turn, other) ∧ after.Twins other ∧
      (turn = .onward ∨ other.running = true) := by
  obtain ⟨alike, _⟩ := turn_matches twins running
  rcases otherTurned : second.turn with ⟨otherTurn, other⟩
  rw [turned, otherTurned] at alike
  cases alike.result
  exact ⟨other, rfl, alike.twins, alike.running⟩

/-- Running the second session again after each stop brings it where the first session's loop ends.
The induction is on the turns of the first session; the second takes each of them too, and may be
stopped and run again before it does. -/
theorem loop_persists (twins : first.Twins second) :
    ∃ last, Persists second.loop first.loop.1 last ∧ first.loop.2.Twins last := by
  fun_induction loop first generalizing second with
  | case1 first after turned ih =>
    apply persists_of_going _ twins
    intro second twins running
    obtain ⟨other, otherTurned, alike, _⟩ := turn_alike twins running turned
    rw [loop_eq, otherTurned]
    exact ih alike
  | case2 first after turned =>
    apply persists_of_going _ twins
    intro second twins running
    obtain ⟨other, otherTurned, alike, still⟩ := turn_alike twins running turned
    have tally : other.tally = after.tally := alike.tally
    rw [loop_eq, otherTurned, ← tally]
    exact ⟨other, .ended (still.resolve_left (by simp)), alike⟩
  | case3 first error after turned =>
    apply persists_of_going _ twins
    intro second twins running
    obtain ⟨other, otherTurned, alike, still⟩ := turn_alike twins running turned
    rw [loop_eq, otherTurned]
    exact ⟨other, .ended (still.resolve_left (by simp)), alike⟩
  | case4 first pending after turned =>
    -- The device hangs up in the end, so nothing is waited for for ever.
    apply persists_of_going _ twins
    intro second twins running
    obtain ⟨_, ends⟩ := turn_matches twins running
    rw [turned] at ends
    cases ends

/-- A session that events stop is run to its end by running it again after each stop, and ends as if
no event had stopped it. -/
theorem run_persists {session : Session} (undisturbed : session.Undisturbed)
    (running : session.running = true) :
    (∃ outcome last, Persists session.run outcome last) ∧
      ∀ outcome last, Persists session.run outcome last →
        outcome = session.unpaused.run.1 ∧ session.unpaused.run.2.Agrees last := by
  have twins : session.unpaused.Twins session :=
    { left := undisturbed.same rfl rfl rfl, right := undisturbed, running, unpaused := rfl,
      profile := rfl, intake := rfl, transmitter := rfl, files := rfl, tally := rfl, events := rfl }
  obtain ⟨last, persists, alike⟩ :=
    loop_persists (twins.note .info "awaiting device commands" [] [])
  refine ⟨⟨_, last, persists⟩, ?_⟩
  intro outcome final also
  obtain ⟨rfl, rfl⟩ := persists.unique also
  exact ⟨rfl, alike.agrees⟩

/-- The operator stops the session when he is shown the first line that the device has sent. The
device has begun to ask for a host and goes on after a while. -/
def greeted : Session where
  profile := {}
  receiver := {
    source := { script := [{ delay := 7, outcome := .error (.ofKind .timedOut) },
      { outcome := .ok (Bytes.ofText "check\n") }] }
    buffer := Bytes.ofText "hello\nMFG:host" }
  transmitter := { sink := {} }
  pauses := [1]

private theorem greeted_stopped : greeted.run.2.running = false := by
  generalize begun : greeted.note .info "awaiting device commands" [] = session
  have cut : cutLine? session.receiver.buffer =
      some (.whole (Bytes.ofText "hello"), Bytes.ofText "MFG:host") := by
    rw [← begun]
    decide
  have awaited := Receiver.awaitLine_eq session.receiver
  rw [cut] at awaited
  have ordinary : Command.ofLine? "hello" = none := by decide
  have turned : ∃ after, session.turn = (.onward, after) ∧ after.check.running = false := by
    have checked : session.check = session := by
      rw [← begun]
      rfl
    have going : session.running = true := by
      rw [← begun]
      rfl
    simp only [turn, checked, going, if_true, listen, awaited, Line.text, Bytes.text?_ofText,
      dispatch, ordinary, settle]
    refine ⟨_, rfl, ?_⟩
    rw [← begun]
    rfl
  obtain ⟨after, turned, stopped⟩ := turned
  rw [run, begun, loop_eq, turned]
  simp only [loop_of_stopped stopped]
  exact stopped

theorem run_persists_greeted :
    greeted.run.2.running = false ∧ (∃ outcome last, Persists greeted.run outcome last) ∧
      ∀ outcome last, Persists greeted.run outcome last →
        outcome = greeted.unpaused.run.1 ∧ greeted.unpaused.run.2.Agrees last :=
  ⟨greeted_stopped, run_persists ⟨rfl, ⟨by decide, rfl⟩, by decide⟩ rfl⟩

end Provisioning.Session
