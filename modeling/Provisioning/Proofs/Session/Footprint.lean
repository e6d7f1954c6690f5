import Provisioning.Proofs.Link.Attempts
import Provisioning.Proofs.Session.Conclusion
import Provisioning.Proofs.Session.Outcome

/-! # What taking up a line reaches

A session has a receiving side, a sending side and the host's files, and no line needs all of them.
A line that announces no key material comes out the same whatever the receiving side is, which it
leaves alone (`dispatch_withReceiver`), so commands may be sent ahead of one another. A line that
announces some leaves the sending side alone (`Dispatches.transmitter`). A line that only tells the
operator something leaves both alone, and the files too.

The flag that keeps a session running lies with its source, where a read may find it cleared. An
operator who stops the program at an event (`pausedSince`) clears it too, whatever line is being
taken up.
-/

namespace Provisioning

namespace Receiver

/-- The receiver once the operator has stopped the program, or not. -/
def halted (stopped : Bool) (receiver : Receiver) : Receiver :=
  { receiver with
    source := { receiver.source with running := receiver.source.running && !stopped } }

@[simp] theorem halted_false (receiver : Receiver) : receiver.halted false = receiver := by
  simp [halted]

end Receiver

namespace Session

/-- Whether the operator has stopped the program at an event that was delivered in between. -/
def pausedSince (before after : Session) : Bool :=
  before.pauses.any fun number => before.events.size < number && number ≤ after.events.size

private theorem pausedSince_of_events {before after : Session}
    (same : after.events = before.events) :
    before.pausedSince after = false := by
  rw [pausedSince, List.any_eq_false]
  intro number _
  rw [same, Bool.and_eq_true, decide_eq_true_eq, decide_eq_true_eq]
  omega

private theorem pausedSince_deliver (event : Event) (session : Session) :
    session.pausedSince (session.deliver event) =
      decide (session.events.size + 1 ∈ session.pauses) := by
  rw [pausedSince, events_deliver, Array.size_push, Bool.eq_iff_iff, List.any_eq_true,
    decide_eq_true_eq]
  constructor
  · rintro ⟨number, member, next⟩
    rw [Bool.and_eq_true, decide_eq_true_eq, decide_eq_true_eq] at next
    obtain rfl : number = session.events.size + 1 := by omega
    exact member
  · intro member
    exact ⟨_, member, by simp⟩

/-! ## The receiving side -/

/-- The session with another receiving side. -/
def withReceiver (receiver : Receiver) (session : Session) : Session := { session with receiver }

/-- What an operation comes to that began with this session and another receiving side, if it takes
no notice of that side. -/
def besides {α : Type} (before : Session) (receiver : Receiver) (outcome : α × Session) :
    α × Session :=
  (outcome.1, outcome.2.withReceiver (receiver.halted (before.pausedSince outcome.2)))

private theorem deliver_withReceiver (event : Event) (receiver : Receiver) (session : Session) :
    (session.withReceiver receiver).deliver event =
      (session.deliver event).withReceiver
        (receiver.halted (session.pausedSince (session.deliver event))) := by
  rw [pausedSince_deliver]
  simp only [deliver, withReceiver, Array.size_push]
  split <;> rename_i stopped <;> simp [stopped, setRunning, Receiver.halted]

private theorem besides_of_events {α : Type} {result : α} {before after : Session}
    (same : after.events = before.events) (receiver : Receiver) :
    before.besides receiver (result, after) = (result, after.withReceiver receiver) := by
  rw [besides, pausedSince_of_events same, Receiver.halted_false]

private theorem served_withReceiver (command : Command) (size : Nat) (receiver : Receiver)
    (session : Session) :
    (session.withReceiver receiver).served command size =
      (session.served command size).withReceiver
        (receiver.halted (session.pausedSince (session.served command size))) :=
  deliver_withReceiver (.served command size) receiver
    ((session.note .info "answered device"
      [("command", .quoted command.literal), ("size", .number size)]).count fun tally =>
        { tally with served := tally.served + 1 })

private theorem abandon_withReceiver (command : Command) (reason : String) (receiver : Receiver)
    (session : Session) :
    (session.withReceiver receiver).abandon command reason =
      (session.abandon command reason).withReceiver
        (receiver.halted (session.pausedSince (session.abandon command reason))) :=
  deliver_withReceiver (.abandoned command reason) receiver
    ((session.note .error "exchange abandoned"
      [("command", .quoted command.literal), ("reason", .plain reason)]).count fun tally =>
        { tally with abandoned := tally.abandoned + 1 })

theorem transmitter_withReceiver (receiver : Receiver) (session : Session) :
    (session.withReceiver receiver).transmitter = session.transmitter := rfl

private theorem answerRaw_withReceiver (command : Command) (bytes : Bytes) (receiver : Receiver)
    (session : Session) :
    (session.withReceiver receiver).answerRaw command bytes =
      session.besides receiver (session.answerRaw command bytes) := by
  simp only [answerRaw, transmitter_note, transmitter_withReceiver]
  rcases session.transmitter.sendRaw bytes with ⟨error | ⟨⟩, transmitter⟩
  · have kept : Session.events
        { session.note .trace "sending raw bytes" [("size", .number bytes.length)] with
          transmitter } = session.events := rfl
    exact (besides_of_events kept receiver).symm
  · exact congrArg (Prod.mk _) (served_withReceiver command bytes.length receiver
      { session.note .trace "sending raw bytes" [("size", .number bytes.length)] with transmitter })

private theorem answerFramed_withReceiver (command : Command) (payload : Bytes)
    (receiver : Receiver)
    (session : Session) :
    (session.withReceiver receiver).answerFramed command payload =
      session.besides receiver (session.answerFramed command payload) := by
  simp only [answerFramed, transmitter_withReceiver]
  rcases session.transmitter.send payload with ⟨error | done, transmitter⟩
  · have kept : Session.events ({ session with transmitter }.note .trace "sending frame"
        [("size", .number payload.length), ("wire", .number (frameOverhead + payload.length))]) =
          session.events := rfl
    cases error with
    | oversized size max =>
      exact congrArg (Prod.mk _) (abandon_withReceiver command
        (FrameError.oversized size max).message receiver { session with transmitter })
    | io | closed | mismatch => exact (besides_of_events kept receiver).symm
  · have answered := served_withReceiver command (frameOverhead + payload.length) receiver
      (note .trace "sending frame"
        [("size", .number payload.length), ("wire", .number (frameOverhead + payload.length))]
        { session with transmitter })
    exact congrArg (Prod.mk (Except.ok done)) answered

private theorem respond_withReceiver (command : Command) (answer : Answer) (receiver : Receiver)
    (session : Session) :
    (session.withReceiver receiver).respond command answer =
      session.besides receiver (session.respond command answer) := by
  cases answer with
  | silence => exact (besides_of_events rfl receiver).symm
  | unavailable reason =>
    exact congrArg (Prod.mk _) (abandon_withReceiver command reason receiver session)
  | raw bytes => exact answerRaw_withReceiver command bytes receiver session
  | framed payload file =>
    cases file with
    | none => exact answerFramed_withReceiver command payload receiver session
    | some path =>
      exact answerFramed_withReceiver command payload receiver (session.note .debug "sending file"
        [("path", .plain path), ("size", .number payload.length)])

/-- A line that announces no key material comes out the same whatever the receiving side is. -/
theorem dispatch_withReceiver {line : String} (ordinary : KeyPart.announcedBy? line = none)
    (receiver : Receiver) (session : Session) :
    (session.withReceiver receiver).dispatch line =
      session.besides receiver (session.dispatch line) := by
  cases known : Command.ofLine? line with
  | none =>
    rw [dispatch, dispatch, known]
    exact congrArg (Prod.mk Ending.done) (deliver_withReceiver (.echo line) receiver
      (session.count fun tally => { tally with echoed := tally.echoed + 1 }))
  | some command =>
    rw [dispatch_of_ofLine? known, dispatch_of_ofLine? known]
    change ((session.heed command).withReceiver receiver).obey command =
      (session.heed command).besides receiver _
    generalize session.heed command = heeded
    cases asks : command.asks with
    | true =>
      rw [obey_of_asks asks, obey_of_asks asks]
      exact congrArg (fun outcome => (Ending.ofAnswer outcome.1, outcome.2))
        (respond_withReceiver command (command.answer heeded.profile heeded.files) receiver heeded)
    | false =>
      cases command with
      | success =>
        exact congrArg (Prod.mk Ending.done) (deliver_withReceiver (.provisioned successMessage)
          receiver ((heeded.note .info "device reported provisioning success" []).count
            fun tally => { tally with provisioned := true }))
      | failure step =>
        exact congrArg (Prod.mk Ending.done) (deliver_withReceiver (.deviceFailure step) receiver
          ((heeded.note .warn step.message [("failure", .quoted step.literal)]).count
            fun tally => { tally with deviceFailures := tally.deviceFailures + 1 }))
      | ekCert | ekPublic =>
        rw [Command.ofLine?_eq_some_iff.mp known] at ordinary
        cases ordinary
      | requestMac | hostCheck | deviceCert | ekCertificate | smbiosSerial => cases asks

/-- So it leaves that side alone, unless the operator stops the program at what it tells. -/
theorem receiver_dispatch {line : String} (ordinary : KeyPart.announcedBy? line = none)
    (session : Session) :
    (session.dispatch line).2.receiver =
      session.receiver.halted (session.pausedSince (session.dispatch line).2) :=
  congrArg (fun outcome => outcome.2.receiver)
    (dispatch_withReceiver ordinary session.receiver session)

/-! ## The sending side -/

/-- A step of an exchange writes nothing. -/
theorem advance_transmitter {exchange : Exchange} {session after : Session} {progress : Progress}
    (advanced : session.advance exchange = (progress, after)) :
    after.transmitter = session.transmitter := by
  have checked := (Lingers.check session).transmitter
  cases advance_cases advanced with
  | cancelled _ => exact (cancel_speaks _ _).transmitter.trans checked
  | expired _ _ => exact (expire_speaks _ _ _).transmitter.trans checked
  | oversized _ => exact (abandon_speaks _ _ _).transmitter.trans checked
  | arrived _ =>
    obtain ⟨_, speaks, _⟩ := accept_settles exchange.part _ _
    exact speaks.transmitter.trans checked
  | incomplete _ | idle _ _ _ | forsaken _ _ _ | failed _ _ _ => exact checked

theorem Awaits.transmitter {exchange : Exchange} {session after : Session} {acts : List Act}
    {ending : Ending} (awaits : Awaits exchange session acts ending after) :
    after.transmitter = session.transmitter := by
  induction awaits with
  | ended advanced => exact advance_transmitter advanced
  | onward advanced _ _ ih => exact ih.trans (advance_transmitter advanced)
  | disturbed _ _ _ _ ih => exact ih

/-- A line that announces key material writes nothing, whatever happens from outside while its
frame is awaited. -/
theorem Dispatches.transmitter {line : String} {part : KeyPart} {session after : Session}
    {acts : List Act} {ending : Ending} (announced : KeyPart.announcedBy? line = some part)
    (taken : Dispatches line session acts ending after) :
    after.transmitter = session.transmitter := by
  cases taken with
  | ordinary ordinary =>
    rw [announced] at ordinary
    cases ordinary
  | announced _ awaits => exact awaits.transmitter

/-! ## Reports -/

/-- What the operator is told of a line that asks for nothing and announces nothing. -/
def report? (line : String) : Option Event :=
  match Command.ofLine? line with
  | none => some (.echo line)
  | some .success => some (.provisioned successMessage)
  | some (.failure step) => some (.deviceFailure step)
  | some _ => none

/-- A line that is only reported comes out well, is told once and writes nothing. -/
theorem dispatch_of_report {line : String} {event : Event} (reported : report? line = some event)
    (session : Session) :
    KeyPart.announcedBy? line = none ∧ (session.dispatch line).1 = .done ∧
      (session.dispatch line).2.events = session.events.push event ∧
      (session.dispatch line).2.transmitter = session.transmitter ∧
      (session.dispatch line).2.files = session.files := by
  have ordinary : KeyPart.announcedBy? line = none := by
    cases announced : KeyPart.announcedBy? line with
    | none => rfl
    | some part =>
      rw [report?, KeyPart.announcedBy?_eq_some announced,
        Command.ofLine?_eq_some_iff.mpr rfl] at reported
      cases part <;> cases reported
  have files := (dispatch_obeyed ordinary session).works.files
  rcases dispatched : session.dispatch line with ⟨ending, after⟩
  rw [dispatched] at files
  cases dispatch_cases ordinary dispatched with
  | echoed unknown =>
    rw [report?, unknown] at reported
    cases reported
    exact ⟨ordinary, rfl, events_deliver _ _, transmitter_deliver _ _, files⟩
  | @answered command _ _ known asks _ =>
    rw [report?, known] at reported
    cases command with
    | ekCert | ekPublic | success | failure => cases asks
    | requestMac | hostCheck | deviceCert | ekCertificate | smbiosSerial => cases reported
  | provisioned known =>
    rw [report?, known] at reported
    cases reported
    exact ⟨ordinary, rfl, events_deliver _ _, transmitter_deliver _ _, files⟩
  | deviceFailure known =>
    rw [report?, known] at reported
    cases reported
    exact ⟨ordinary, rfl, events_deliver _ _, transmitter_deliver _ _, files⟩

/-! ## What is in store -/

/-- What may still happen to the session from outside, apart from its line. -/
def outlook (session : Session) : List Interlude × List Nat := (session.interludes, session.pauses)

private theorem outlook_deliver (event : Event) (session : Session) :
    (session.deliver event).outlook = session.outlook := by
  simp only [deliver]
  split <;> rfl

private theorem outlook_abandon (command : Command) (reason : String) (session : Session) :
    (session.abandon command reason).outlook = session.outlook :=
  outlook_deliver _ _

private theorem outlook_served (command : Command) (size : Nat) (session : Session) :
    (session.served command size).outlook = session.outlook :=
  outlook_deliver _ _

private theorem outlook_answerRaw (command : Command) (bytes : Bytes) (session : Session) :
    (session.answerRaw command bytes).2.outlook = session.outlook := by
  simp only [answerRaw]
  split
  · exact outlook_served _ _ _
  · rfl

private theorem outlook_answerFramed (command : Command) (payload : Bytes) (session : Session) :
    (session.answerFramed command payload).2.outlook = session.outlook := by
  simp only [answerFramed]
  split
  · exact outlook_abandon _ _ _
  · split
    · exact outlook_served _ _ _
    · rfl

private theorem outlook_respond (command : Command) (answer : Answer) (session : Session) :
    (session.respond command answer).2.outlook = session.outlook := by
  cases answer with
  | silence => rfl
  | unavailable reason => exact outlook_abandon _ _ _
  | raw bytes => exact outlook_answerRaw _ _ _
  | framed payload file => cases file with
    | none => exact outlook_answerFramed _ _ _
    | some path => exact outlook_answerFramed _ _ _

/-- A line that announces no key material is taken up without a check. -/
theorem outlook_dispatch {line : String} (ordinary : KeyPart.announcedBy? line = none)
    (session : Session) : (session.dispatch line).2.outlook = session.outlook := by
  rcases dispatched : session.dispatch line with ⟨ending, after⟩
  cases dispatch_cases ordinary dispatched with
  | echoed _ => exact outlook_deliver _ _
  | @answered command _ _ _ _ responded =>
    have kept := outlook_respond command (command.answer session.profile session.files)
      (session.heed command)
    rw [responded] at kept
    exact kept
  | provisioned _ => exact outlook_deliver _ _
  | deviceFailure _ => exact outlook_deliver _ _

/-! ## What the session was set up with -/

private theorem maxPayload_respond (command : Command) (answer : Answer) (session : Session) :
    (session.respond command answer).2.transmitter.maxPayload =
      session.transmitter.maxPayload := by
  have framed (payload : Bytes) (session : Session) :
      (session.answerFramed command payload).2.transmitter.maxPayload =
        session.transmitter.maxPayload := by
    have kept := Transmitter.perform_maxPayload (.send payload) session.transmitter
    rw [Transmitter.perform] at kept
    simp only [answerFramed]
    split
    · rename_i sent
      rw [(abandon_speaks _ _ _).transmitter, ← kept, sent]
    · rename_i sent
      rw [sent] at kept
      split
      · rw [transmitter_served]
        exact kept
      · exact kept
  cases answer with
  | silence => rfl
  | unavailable reason => rw [respond, (abandon_speaks _ _ _).transmitter]
  | raw bytes =>
    have kept := Transmitter.sendRaw_maxPayload bytes session.transmitter
    simp only [respond, answerRaw, transmitter_note]
    split
    · rename_i sent
      rw [transmitter_served, ← kept, sent]
    · rename_i sent
      rw [← kept, sent]
  | framed payload file => cases file with
    | none => exact framed payload session
    | some path => exact framed payload _

/-- What the session was set up with is as it was. -/
structure KeepsSettings (before after : Session) : Prop where
  profile : after.profile = before.profile
  receiving : after.receiver.maxPayload = before.receiver.maxPayload
  sending : after.transmitter.maxPayload = before.transmitter.maxPayload

theorem dispatch_keepsSettings (line : String) (session : Session) :
    session.KeepsSettings (session.dispatch line).2 := by
  obtain ⟨acts, taken⟩ := dispatch_dispatches line session
  obtain ⟨_, _, spent⟩ := taken.spends
  refine ⟨taken.profile, spent.1, ?_⟩
  cases announced : KeyPart.announcedBy? line with
  | some part => rw [taken.transmitter announced]
  | none =>
    rcases dispatched : session.dispatch line with ⟨ending, after⟩
    cases dispatch_cases announced dispatched with
    | echoed _ => exact congrArg Transmitter.maxPayload (transmitter_deliver _ _)
    | @answered command _ _ _ _ responded =>
      have kept := maxPayload_respond command (command.answer session.profile session.files)
        (session.heed command)
      rw [responded] at kept
      exact kept
    | provisioned _ => exact congrArg Transmitter.maxPayload (transmitter_deliver _ _)
    | deviceFailure _ => exact congrArg Transmitter.maxPayload (transmitter_deliver _ _)

end Session

end Provisioning
