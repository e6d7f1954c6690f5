import Provisioning.Proofs.Session.Timeline

/-! # Lines that are taken up

`dispatch_confined` says what a line touches when it is taken up, and what it leaves alone. A line
that announces no key material is taken up at once; one that announces some goes through the
instants of its exchange (`TakesUp`). Either way the session accounts for what has been done, so
that the flag which keeps it running is not changed by a line of its own accord (`Tells`).
-/

namespace Provisioning

namespace Session

/-- How a line is taken up when these things are done for it. -/
inductive TakesUp (line : String) (before : Session) : List Deed → Ending → Session → Prop where
  | told {ending : Ending} {after : Session} (events : List Event)
      (ordinary : KeyPart.announcedBy? line = none) :
      TakesUp line before (events.map .told) ending after
  | exchanged {part : KeyPart} {deeds : List Deed} {ending : Ending} {after : Session}
      (announced : KeyPart.announcedBy? line = some part)
      (path : Instant.Path Instant.Does (fun _ => True)
        ⟨.checking (.frame ⟨part, before.clock⟩), before.heed part.command⟩ deeds
        (.ofTurn (after.settle ending))) :
      TakesUp line before deeds ending after

/-- What a turn makes of the ending of its line is not done by the line. -/
theorem Tells.unsettled {before middle : Session} {deeds : List Deed} {ending : Ending}
    (tells : before.Tells deeds (middle.settle ending).2) : before.Tells deeds middle := by
  apply tells.also
  unfold Session.settle
  split
  · exact .nil _
  · exact .nil _
  · split
    · exact .of_same rfl rfl rfl rfl rfl rfl rfl
    · exact .nil _

theorem dispatch_takesUp (line : String) (session : Session) :
    ∃ deeds, session.Tells (.dispatched line :: deeds) (session.dispatch line).2 ∧
      session.TakesUp line deeds (session.dispatch line).1 (session.dispatch line).2 := by
  cases announced : KeyPart.announcedBy? line with
  | none =>
    have dispatched : session.dispatch line = (_, _) := rfl
    obtain ⟨events, told⟩ := Instant.dispatch_told announced dispatched
    exact ⟨_, dispatch_tells announced rfl told, .told events announced⟩
  | some part =>
    rw [dispatch_of_announced announced]
    obtain ⟨deeds, path⟩ :=
      Instant.exchange_becomes ⟨part, session.clock⟩ (session.heed part.command)
    have awaited := path.tells
    rw [Instant.session_ofTurn] at awaited
    have heeded := (Tells.nil session).heed part.command line
    exact ⟨deeds, heeded.append awaited.unsettled, .exchanged announced path⟩

/-- A line touches only what it needs. One that announces no key material comes out the same
whatever the receiving side is, leaves that side alone and the host's files too; one that announces
some writes nothing, whatever happens from outside in the meantime; one that is only reported comes
out well, is told once and does neither. No line changes what the session was set up with, and none
sets the flag that keeps it running. -/
theorem dispatch_confined (line : String) (session : Session) :
    (line ≠ Command.ekCert.literal → line ≠ Command.ekPublic.literal →
      ∃ (ending : Ending) (after : Session), after.files = session.files ∧ ∀ receiver,
        dispatch line { session with receiver } =
          (ending, { after with receiver := receiver.halted (session.pausedSince after) })) ∧
    (line = Command.ekCert.literal ∨ line = Command.ekPublic.literal →
      (∃ acts, Dispatches line session acts (session.dispatch line).1 (session.dispatch line).2) ∧
      ∀ acts ending after, Dispatches line session acts ending after →
        after.transmitter = session.transmitter) ∧
    (∀ event, report? line = some event → ∃ after, session.dispatch line = (.done, after) ∧
      after.events = session.events.push event ∧
      after.receiver = session.receiver.halted (session.pausedSince after) ∧
      after.transmitter = session.transmitter ∧ after.files = session.files) ∧
    session.KeepsSettings (session.dispatch line).2 ∧
    ∃ deeds, session.Tells (.dispatched line :: deeds) (session.dispatch line).2 ∧
      session.TakesUp line deeds (session.dispatch line).1 (session.dispatch line).2 := by
  refine ⟨?spares, ?announced, ?reported, dispatch_keepsSettings line session,
    dispatch_takesUp line session⟩
  case spares =>
    intro certificate publicKey
    have ordinary : KeyPart.announcedBy? line = none := by
      rw [KeyPart.announcedBy?, if_neg certificate, if_neg publicKey]
    refine ⟨(session.dispatch line).1, (session.dispatch line).2,
      (dispatch_obeyed ordinary session).works.files, ?_⟩
    intro receiver
    exact dispatch_withReceiver ordinary receiver session
  case announced =>
    intro literal
    have announced : ∃ part, KeyPart.announcedBy? line = some part := by
      rcases literal with rfl | rfl
      · exact ⟨_, KeyPart.announcedBy?_literal .certificate⟩
      · exact ⟨_, KeyPart.announcedBy?_literal .publicKey⟩
    obtain ⟨part, announced⟩ := announced
    refine ⟨dispatch_dispatches line session, ?_⟩
    intro acts ending after taken
    exact taken.transmitter announced
  case reported =>
    intro event reported
    obtain ⟨ordinary, done, told, transmitter, files⟩ := dispatch_of_report reported session
    exact ⟨_, Prod.ext done rfl, told, receiver_dispatch ordinary session, transmitter, files⟩

/-- The beginning of a frame has arrived ahead of time, the line is about to fail, the device takes
one byte at a time, and the operator stops the program at the first event. The flag is set again
before the second check. -/
def crowded : Session where
  profile := {}
  receiver := {
    source := { script := [{ stops := true, outcome := .error (.ofKind .timedOut) },
      { outcome := .error (.ofKind .brokenPipe) }] }
    buffer := [16, 0, 0, 0, 1, 2] }
  transmitter := { sink := { writes := [.take 1, .take 1] } }
  pauses := [1]
  interludes := [{}, { running := some true }]

theorem dispatch_confined_crowded :
    (∃ (ending : Ending) (after : Session), after.files = crowded.files ∧ ∀ receiver,
      dispatch "MFG:hostcheck" { crowded with receiver } =
        (ending, { after with receiver := receiver.halted (crowded.pausedSince after) })) ∧
    (∀ acts ending after, Dispatches "MFG:ekcert" crowded acts ending after →
      after.transmitter = crowded.transmitter) ∧
    (∃ deeds, crowded.Tells (.dispatched "MFG:ekcert" :: deeds) (crowded.dispatch "MFG:ekcert").2) ∧
    ∃ after, crowded.dispatch "boot" = (.done, after) ∧ after.events = #[.echo "boot"] ∧
      after.receiver = crowded.receiver.halted true := by
  refine ⟨?_, ?_, ?_, ?_⟩
  · exact (dispatch_confined "MFG:hostcheck" crowded).1 (by decide) (by decide)
  · exact ((dispatch_confined "MFG:ekcert" crowded).2.1 (.inl rfl)).2
  · obtain ⟨deeds, tells, _⟩ := (dispatch_confined "MFG:ekcert" crowded).2.2.2.2
    exact ⟨deeds, tells⟩
  · obtain ⟨after, dispatched, told, receiver, _⟩ :=
      (dispatch_confined "boot" crowded).2.2.1 (.echo "boot") (by decide)
    refine ⟨after, dispatched, told, ?_⟩
    rw [receiver, pausedSince, told]
    rfl

end Session

end Provisioning
