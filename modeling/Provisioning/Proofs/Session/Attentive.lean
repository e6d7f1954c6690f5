import Provisioning.Proofs.Session.Meaning

/-! # Attentive sessions

A session is attentive if nothing but the stream decides what it does: nobody stops it, no exchange
has a limit, its source is steady and its sink willing. What such a session does is told by two
things, the stream that it has before it and the ledger of what it has brought about; `Leaves` says
where some work has brought both. Every operation of a session moves them as the corresponding
operation of the ledger says, and keeps the session attentive.
-/

namespace Provisioning.Session

/-- What the session has brought about so far. -/
def ledger (session : Session) : Ledger where
  files := session.files
  tally := session.tally
  events := session.events.toList
  written := session.transmitter.sink.written

/-- The stream that the session has before it. -/
def stream (session : Session) : Bytes := session.receiver.stream

/-- Nothing but the stream decides what the session does. -/
structure Attentive (session : Session) : Prop where
  running : session.running = true
  unpaused : session.pauses = []
  undisturbed : ∀ interlude ∈ session.interludes, interlude.running ≠ some false
  unlimited : session.profile.exchangeLimit = none
  steady : session.receiver.source.isSteady = true
  receives : session.receiver.maxPayload = session.profile.maxPayload
  sends : session.transmitter.maxPayload = session.profile.maxPayload
  willing : session.transmitter.sink.isWilling = true

/-- The session goes on attentively, with this much of the stream before it and this ledger. -/
structure Leaves (before : Session) (rest : Bytes) (ledger : Ledger) (after : Session) : Prop where
  attentive : after.Attentive
  profile : after.profile = before.profile
  stream : after.stream = rest
  ledger : after.ledger = ledger

theorem Attentive.leaves {session : Session} (attentive : session.Attentive) :
    session.Leaves session.stream session.ledger session :=
  ⟨attentive, rfl, rfl, rfl⟩

namespace Leaves

variable {before middle after : Session} {here rest : Bytes} {ledger later : Ledger}

theorem trans (left : before.Leaves here ledger middle) (right : middle.Leaves rest later after) :
    before.Leaves rest later after :=
  ⟨right.attentive, right.profile.trans left.profile, right.stream, right.ledger⟩

/-- Whatever touches neither the line nor what comes from outside changes the ledger at most. -/
theorem carry (leaves : before.Leaves rest ledger middle) (profile : after.profile = middle.profile)
    (receiver : after.receiver = middle.receiver)
    (transmitter : after.transmitter = middle.transmitter) (pauses : after.pauses = middle.pauses)
    (interludes : after.interludes = middle.interludes) (account : after.ledger = later) :
    before.Leaves rest later after := by
  obtain ⟨attentive, same, stream, _⟩ := leaves
  constructor
  · constructor
    · rw [Session.running, receiver]
      exact attentive.running
    · exact pauses.trans attentive.unpaused
    · rw [interludes]
      exact attentive.undisturbed
    · rw [profile]
      exact attentive.unlimited
    · rw [receiver]
      exact attentive.steady
    · rw [receiver, profile]
      exact attentive.receives
    · rw [transmitter, profile]
      exact attentive.sends
    · rw [transmitter]
      exact attentive.willing
  · exact profile.trans same
  · rw [Session.stream, receiver]
    exact stream
  · exact account

theorem note (leaves : before.Leaves rest ledger middle) (level : Level) (message : String)
    (fields : List (String × Journal.Value)) :
    before.Leaves rest ledger (middle.note level message fields) :=
  leaves.carry rfl rfl rfl rfl rfl leaves.ledger

theorem count (leaves : before.Leaves rest ledger middle) (change : Tally → Tally) :
    before.Leaves rest (ledger.count change) (middle.count change) := by
  refine leaves.carry rfl rfl rfl rfl rfl ?_
  rw [← leaves.ledger]
  rfl

theorem deliver (leaves : before.Leaves rest ledger middle) (event : Event) :
    before.Leaves rest (ledger.tell event) (middle.deliver event) := by
  have told : middle.deliver event = { middle with events := middle.events.push event } := by
    simp [Session.deliver, leaves.attentive.unpaused]
  rw [told]
  refine leaves.carry rfl rfl rfl rfl rfl ?_
  rw [← leaves.ledger]
  simp [Session.ledger, Ledger.tell]

/-- The host's files have changed. -/
theorem store (leaves : before.Leaves rest ledger middle) (files : FileTree) :
    before.Leaves rest { ledger with files } { middle with files } := by
  refine leaves.carry rfl rfl rfl rfl rfl ?_
  rw [← leaves.ledger]
  rfl

theorem check (leaves : before.Leaves rest ledger middle) :
    before.Leaves rest ledger middle.check := by
  obtain ⟨attentive, profile, stream, account⟩ := leaves
  unfold Session.check
  split
  · exact ⟨attentive, profile, stream, account⟩
  · rename_i interlude others script
    have undisturbed := attentive.undisturbed
    rw [script] at undisturbed
    have going : interlude.running.getD middle.receiver.source.running = true := by
      have unstopped := undisturbed interlude (List.mem_cons_self ..)
      cases flag : interlude.running with
      | none => exact attentive.running
      | some running => cases running <;> simp_all
    exact ⟨⟨going, attentive.unpaused,
      fun other member => undisturbed other (List.mem_cons_of_mem _ member), attentive.unlimited,
      attentive.steady, attentive.receives, attentive.sends, attentive.willing⟩, profile, stream,
      account⟩

/-- The receiving side has taken something off the stream. -/
theorem receive (leaves : before.Leaves here ledger middle) {receiver : Receiver}
    (received : middle.receiver.Leaves rest receiver) :
    before.Leaves rest ledger { middle with receiver } := by
  obtain ⟨attentive, profile, stream, account⟩ := leaves
  exact ⟨⟨received.running.trans attentive.running, attentive.unpaused, attentive.undisturbed,
    attentive.unlimited, received.steady, received.maxPayload.trans attentive.receives,
    attentive.sends, attentive.willing⟩, profile, received.stream, account⟩

/-- The sending side has written something. -/
theorem transmit (leaves : before.Leaves rest ledger middle) {bytes : Bytes}
    {transmitter : Transmitter} (sent : middle.transmitter.Sends bytes transmitter) :
    before.Leaves rest (ledger.write bytes) { middle with transmitter } := by
  obtain ⟨attentive, profile, stream, rfl⟩ := leaves
  exact ⟨⟨attentive.running, attentive.unpaused, attentive.undisturbed, attentive.unlimited,
    attentive.steady, attentive.receives, sent.maxPayload.trans attentive.sends,
    sent.takes.willing⟩, profile, stream,
    by simp [Session.ledger, Ledger.write, sent.takes.written]⟩

theorem abandon (leaves : before.Leaves rest ledger middle) (command : Command) (reason : String) :
    before.Leaves rest (ledger.abandon command reason) (middle.abandon command reason) :=
  ((leaves.note _ _ _).count _).deliver _

theorem served (leaves : before.Leaves rest ledger middle) (command : Command) (size : Nat) :
    before.Leaves rest
      (ledger.count (fun tally => { tally with served := tally.served + 1 })
        |>.tell (.served command size))
      (middle.served command size) :=
  ((leaves.note _ _ _).count _).deliver _

end Leaves

/-! ## Answers -/

variable {before middle : Session} {rest : Bytes} {ledger : Ledger}

private theorem answerRaw_of_attentive (leaves : before.Leaves rest ledger middle)
    (command : Command)
    (bytes : Bytes) :
    ∃ after, middle.answerRaw command bytes = (.ok (), after) ∧
      before.Leaves rest (ledger.serve command bytes) after := by
  have noted := leaves.note .trace "sending raw bytes" [("size", .number bytes.length)]
  obtain ⟨transmitter, sent, sends⟩ :=
    Transmitter.sendRaw_of_willing bytes noted.attentive.willing
  refine ⟨_, ?_, (noted.transmit sends).served command bytes.length⟩
  simp only [answerRaw, sent]

private theorem answerFramed_of_attentive (leaves : before.Leaves rest ledger middle)
    (command : Command)
    (payload : Bytes) (file : Option String) :
    ∃ after, middle.answerFramed command payload = (.ok (), after) ∧
      before.Leaves rest (ledger.respond before.profile command (.framed payload file)) after := by
  have limit : middle.transmitter.maxPayload = before.profile.maxPayload :=
    leaves.attentive.sends.trans (congrArg Profile.maxPayload leaves.profile)
  cases encoded : Frame.encodeWithin before.profile.maxPayload payload with
  | ok wire =>
    have loaded := Transmitter.send_of_encoded (limit.symm ▸ encoded)
    obtain ⟨transmitter, sent, sends⟩ := @Transmitter.sendRaw_of_willing wire
      { middle.transmitter with buffer := wire } leaves.attentive.willing
    have sends : middle.transmitter.Sends wire transmitter := ⟨sends.takes, sends.maxPayload⟩
    have account : ledger.respond before.profile command (.framed payload file) =
        ledger.serve command wire := by
      rw [Ledger.respond, encoded]
    rw [account, Ledger.serve, Frame.length_of_encodeWithin encoded]
    have noted := (leaves.transmit sends).note .trace "sending frame"
      [("size", .number payload.length), ("wire", .number (frameOverhead + payload.length))]
    exact ⟨_, by simp only [answerFramed, loaded, sent], noted.served command _⟩
  | error error =>
    obtain ⟨size, max, rfl⟩ := Frame.oversized_of_encodeWithin encoded
    have account : ledger.respond before.profile command (.framed payload file) =
        ledger.abandon command (FrameError.oversized size max).message := by
      rw [Ledger.respond, encoded]
    rw [account]
    obtain ⟨transmitter, refused, untouched, kept⟩ :=
      Transmitter.send_of_refused (limit.symm ▸ encoded)
    have sends : middle.transmitter.Sends [] transmitter := by
      refine ⟨⟨?_, ?_⟩, kept⟩
      · rw [untouched]
        exact leaves.attentive.willing
      · rw [untouched, List.append_nil]
    have left := leaves.transmit sends
    rw [Ledger.write, List.append_nil] at left
    exact ⟨_, by simp only [answerFramed, refused], left.abandon command _⟩

theorem respond_of_attentive (leaves : before.Leaves rest ledger middle) (command : Command)
    (answer : Answer) :
    ∃ after, middle.respond command answer = (.ok (), after) ∧
      before.Leaves rest (ledger.respond before.profile command answer) after := by
  cases answer with
  | silence => exact ⟨middle, rfl, leaves⟩
  | unavailable reason => exact ⟨_, rfl, leaves.abandon command reason⟩
  | raw bytes => exact answerRaw_of_attentive leaves command bytes
  | framed payload file =>
    cases file with
    | none => exact answerFramed_of_attentive leaves command payload none
    | some path => exact answerFramed_of_attentive (leaves.note _ _ _) command payload (some path)

end Provisioning.Session
