import Provisioning.Proofs.Link.History
import Provisioning.Proofs.Session.Steps

/-! # What the operations of a session do and leave alone

A session goes about its line only by reading, writing and flushing (`Leads`), and hardly anything
that it does reaches beyond the line, the counters and what it tells: `Works` says that profile,
files and key records are as before. The exception is a frame of key material that has arrived, and
`Advanced` sets it apart from the other ways in which a step of an exchange can come out.

The errors of a session pass through three layers. `Broken` is what the uppermost of them makes of a
line that failed: which call of which side the error comes from.
-/

namespace Provisioning

namespace Session

/-- The session has gone on to another state of its line. -/
structure Leads (before after : Session) : Prop where
  source : before.receiver.source.Leads after.receiver.source
  sink : before.transmitter.sink.Leads after.transmitter.sink

/-- The session has gone on without recording anything. -/
structure Works (before after : Session) : Prop extends Leads before after where
  profile : after.profile = before.profile
  files : after.files = before.files
  keyRecords : after.tally.keyRecords = before.tally.keyRecords

/-- The line has failed for good, on either of its sides. -/
inductive Broken (before : Session) (error : FrameError) (after : Session) : Prop where
  | receiving (fails : before.receiver.source.Fails error after.receiver.source)
      (lasting : error.isTimeout = false)
  | sending (fails : before.transmitter.sink.Fails error after.transmitter.sink)

theorem Leads.trans {before middle after : Session} (left : before.Leads middle)
    (right : middle.Leads after) : before.Leads after :=
  ⟨left.source.trans right.source, left.sink.trans right.sink⟩

theorem Broken.later {before middle after : Session} {error : FrameError}
    (broken : middle.Broken error after) (leads : before.Leads middle) :
    before.Broken error after := by
  cases broken with
  | receiving fails lasting => exact .receiving (fails.later leads.source) lasting
  | sending fails => exact .sending (fails.later leads.sink)

theorem Broken.note {before after : Session} {error : FrameError}
    (broken : before.Broken error after) (level : Level) (message : String)
    (fields : List (String × Journal.Value)) :
    before.Broken error (after.note level message fields) := by
  cases broken with
  | receiving fails lasting => exact .receiving fails lasting
  | sending fails => exact .sending fails

namespace Works

variable {before middle after : Session}

theorem refl (session : Session) : session.Works session := ⟨⟨.refl, .refl⟩, rfl, rfl, rfl⟩

theorem trans (left : before.Works middle) (right : middle.Works after) : before.Works after :=
  ⟨left.toLeads.trans right.toLeads, right.profile.trans left.profile,
    right.files.trans left.files, right.keyRecords.trans left.keyRecords⟩

theorem note (works : before.Works middle) (level : Level) (message : String)
    (fields : List (String × Journal.Value)) : before.Works (middle.note level message fields) :=
  ⟨⟨works.source, works.sink⟩, works.profile, works.files, works.keyRecords⟩

theorem count (works : before.Works middle) {change : Tally → Tally}
    (kept : ∀ tally, (change tally).keyRecords = tally.keyRecords) :
    before.Works (middle.count change) :=
  ⟨⟨works.source, works.sink⟩, works.profile, works.files, (kept _).trans works.keyRecords⟩

theorem deliver (works : before.Works middle) (event : Event) :
    before.Works (middle.deliver event) := by
  simp only [Session.deliver]
  split
  · exact ⟨⟨works.source.trans (.outside _ _ _), works.sink⟩, works.profile, works.files,
      works.keyRecords⟩
  · exact ⟨⟨works.source, works.sink⟩, works.profile, works.files, works.keyRecords⟩

theorem check (works : before.Works middle) : before.Works middle.check := by
  unfold Session.check
  split
  · exact works
  · exact ⟨⟨works.source.trans (.outside _ _ _), works.sink⟩, works.profile, works.files,
      works.keyRecords⟩

theorem receive (works : before.Works middle) {receiver : Receiver}
    (received : middle.receiver.source.Leads receiver.source) :
    before.Works { middle with receiver } :=
  ⟨⟨works.source.trans received, works.sink⟩, works.profile, works.files, works.keyRecords⟩

theorem transmit (works : before.Works middle) {transmitter : Transmitter}
    (sent : middle.transmitter.sink.Leads transmitter.sink) :
    before.Works { middle with transmitter } :=
  ⟨⟨works.source, works.sink.trans sent⟩, works.profile, works.files, works.keyRecords⟩

theorem receiveLine (works : before.Works middle) {receiver : Receiver} (line : Line)
    (received : middle.receiver.source.Leads receiver.source) :
    before.Works (middle.receive line receiver) := by
  cases line with
  | whole text => exact works.receive received
  | piece text => exact (works.receive received).note _ _ _

/-- Something is counted and told to the operator. -/
theorem tell (works : before.Works middle) {change : Tally → Tally}
    (kept : ∀ tally, (change tally).keyRecords = tally.keyRecords) (event : Event) :
    before.Works ((middle.count change).deliver event) :=
  (works.count kept).deliver event

theorem heed (works : before.Works middle) (command : Command) :
    before.Works (middle.heed command) :=
  (works.note _ _ _).count fun _ => rfl

theorem abandon (works : before.Works middle) (command : Command) (reason : String) :
    before.Works (middle.abandon command reason) :=
  (works.note _ _ _).tell (by simp) _

theorem served (works : before.Works middle) (command : Command) (size : Nat) :
    before.Works (middle.served command size) :=
  (works.note _ _ _).tell (by simp) _

theorem display (works : before.Works middle) (part : KeyPart) (frame : Frame) :
    before.Works (middle.display part frame) :=
  (works.note _ _ _).deliver _

theorem reportMismatch (works : before.Works middle) (part : KeyPart) (frame : Frame) :
    before.Works (middle.reportMismatch part frame) :=
  (works.note _ _ _).tell (by simp) _

theorem reportSuccess (works : before.Works middle) : before.Works middle.reportSuccess :=
  (works.note _ _ _).tell (by simp) _

theorem reportFailure (works : before.Works middle) (step : FailedStep) :
    before.Works (middle.reportFailure step) :=
  (works.note _ _ _).tell (by simp) _

theorem echo (works : before.Works middle) (line : String) : before.Works (middle.echo line) :=
  works.tell (by simp) _

theorem skip (works : before.Works middle) (size : Nat) : before.Works (middle.skip size) :=
  (works.note _ _ _).tell (by simp) _

theorem cancel (works : before.Works middle) (exchange : Exchange) :
    before.Works (middle.cancel exchange) := by
  have dropped : before.Works { middle with receiver := middle.receiver.discard.2 } :=
    works.receive .refl
  exact (dropped.note _ _ _).abandon _ _

theorem expire (works : before.Works middle) (exchange : Exchange) (limit : Duration) :
    before.Works (middle.expire exchange limit) := by
  have dropped : before.Works { middle with receiver := middle.receiver.discard.2 } :=
    works.receive .refl
  exact dropped.abandon _ _

end Works

/-! ## Answers -/

/-- What can come of answering a command. -/
inductive Answered (before : Session) : Except SessionError Unit → Session → Prop where
  | ok {after : Session} (works : before.Works after) : Answered before (.ok ()) after
  | failed {error : FrameError} {after : Session} (works : before.Works after)
      (fails : before.transmitter.sink.Fails error after.transmitter.sink) :
      Answered before (.error (.frame error)) after

theorem Answered.later {before middle after : Session} {result : Except SessionError Unit}
    (answered : middle.Answered result after) (works : before.Works middle) :
    before.Answered result after := by
  cases answered with
  | ok further => exact .ok (works.trans further)
  | failed further fails => exact .failed (works.trans further) (fails.later works.sink)

private theorem answerRaw_answered (command : Command) (bytes : Bytes) (session : Session) :
    session.Answered (session.answerRaw command bytes).1 (session.answerRaw command bytes).2 := by
  simp only [answerRaw]
  have noted :=
    (Works.refl session).note .trace "sending raw bytes" [("size", .number bytes.length)]
  split
  · rename_i transmitter sent
    exact .ok ((noted.transmit (Transmitter.sendRaw_history sent)).served _ _)
  · rename_i error transmitter sent
    have fails : session.transmitter.sink.Fails error transmitter.sink :=
      Transmitter.sendRaw_history sent
    exact .failed (noted.transmit fails.leads) fails

private theorem answerFramed_answered (command : Command) (payload : Bytes) (session : Session) :
    session.Answered (session.answerFramed command payload).1
      (session.answerFramed command payload).2 := by
  simp only [answerFramed]
  split
  · rename_i size max transmitter sent
    rcases Transmitter.send_history sent with fails | ⟨_, untouched⟩
    · cases fails
    · have leads : session.transmitter.sink.Leads transmitter.sink := untouched ▸ .refl
      exact .ok (((Works.refl session).transmit leads).abandon _ _)
  · rename_i result transmitter small sent
    rcases Transmitter.send_history sent with explains | ⟨⟨size, max, rfl⟩, _⟩
    · split
      · exact .ok ((((Works.refl session).transmit explains).note _ _ _).served _ _)
      · have leads := Sink.Fails.leads explains
        exact .failed (((Works.refl session).transmit leads).note _ _ _) explains
    · exact absurd rfl (small size max)

private theorem respond_answered (command : Command) (answer : Answer) (session : Session) :
    session.Answered (session.respond command answer).1 (session.respond command answer).2 := by
  cases answer with
  | silence => exact .ok (.refl session)
  | unavailable reason => exact .ok ((Works.refl session).abandon _ _)
  | raw bytes => exact answerRaw_answered command bytes session
  | framed payload file =>
    cases file with
    | none => exact answerFramed_answered command payload session
    | some path =>
      exact (answerFramed_answered command payload _).later ((Works.refl session).note _ _ _)

/-! ## Lines and commands -/

/-- What can come of a command that announces no key material. -/
inductive Obeyed (before : Session) : Ending → Session → Prop where
  | done {after : Session} (works : before.Works after) : Obeyed before .done after
  | failed {error : FrameError} {after : Session} (works : before.Works after)
      (fails : before.transmitter.sink.Fails error after.transmitter.sink) :
      Obeyed before (.failed (.frame error)) after

theorem Obeyed.later {before middle after : Session} {ending : Ending}
    (obeyed : middle.Obeyed ending after) (works : before.Works middle) :
    before.Obeyed ending after := by
  cases obeyed with
  | done further => exact .done (works.trans further)
  | failed further fails => exact .failed (works.trans further) (fails.later works.sink)

theorem Obeyed.works {before after : Session} {ending : Ending}
    (obeyed : before.Obeyed ending after) : before.Works after := by
  cases obeyed with
  | done works => exact works
  | failed works _ => exact works

theorem Answered.obeyed {before after : Session} {result : Except SessionError Unit}
    (answered : before.Answered result after) : before.Obeyed (.ofAnswer result) after := by
  cases answered with
  | ok works => exact .done works
  | failed works fails => exact .failed works fails

theorem dispatch_obeyed {line : String} (ordinary : KeyPart.announcedBy? line = none)
    (session : Session) :
    session.Obeyed (session.dispatch line).1 (session.dispatch line).2 := by
  have still := Works.refl session
  rcases dispatched : session.dispatch line with ⟨ending, after⟩
  cases dispatch_cases ordinary dispatched with
  | echoed _ => exact .done (still.echo line)
  | @answered command _ _ _ _ responded =>
    have answered := respond_answered command
      (command.answer session.profile session.files) (session.heed command)
    rw [responded] at answered
    exact answered.obeyed.later (still.heed _)
  | provisioned _ => exact .done (still.heed _).reportSuccess
  | deviceFailure _ => exact .done ((still.heed _).reportFailure _)

/-- What can come of waiting for a line. -/
inductive Listened (before : Session) : Except SessionError Heard → Session → Prop where
  | heard {heard : Heard} {after : Session} (works : before.Works after) (some : heard ≠ .hungUp) :
      Listened before (.ok heard) after
  | hungUp {after : Session} (works : before.Works after) (broken : before.Broken .closed after) :
      Listened before (.ok .hungUp) after
  | failed {cause : IoError} {after : Session} (works : before.Works after)
      (broken : before.Broken (.io cause) after) :
      Listened before (.error (.frame (.io cause))) after

theorem listen_listened (session : Session) :
    session.Listened session.listen.1 session.listen.2 := by
  have still := Works.refl session
  have failing {error : FrameError} {receiver : Receiver}
      (awaited : session.receiver.awaitLine = (.error error, receiver)) :
      session.receiver.source.Fails error receiver.source :=
    Receiver.awaitLine_history awaited
  rcases listened : session.listen with ⟨heard, after⟩
  cases listen_cases listened with
  | line awaited _ =>
    exact .heard (still.receiveLine _ (Receiver.awaitLine_history awaited)) (by simp)
  | undecodable awaited _ =>
    exact .heard (still.receiveLine _ (Receiver.awaitLine_history awaited)) (by simp)
  | hungUp awaited =>
    have fails := failing awaited
    exact .hungUp (still.receive fails.leads) (.receiving fails rfl)
  | quiet awaited _ => exact .heard (still.receive (failing awaited).leads) (by simp)
  | @failed error receiver awaited unclosed lasting =>
    have fails := failing awaited
    have works := still.receive fails.leads
    have broken : session.Broken error { session with receiver } := .receiving fails lasting
    cases fails with
    | hungUp => exact absurd rfl unclosed
    | broken => exact .failed works broken

theorem Listened.works {before after : Session} {heard : Except SessionError Heard}
    (listened : before.Listened heard after) : before.Works after := by
  cases listened with
  | heard works _ => exact works
  | hungUp works _ => exact works
  | failed works _ => exact works

theorem Listened.of_hears {before after : Session} {heard : Except SessionError Heard}
    (hears : before.Hears heard after) : before.check.Listened heard after := by
  have listened := listen_listened before.check
  rwa [hears.listened] at listened

theorem Works.hears {before after : Session} {heard : Except SessionError Heard}
    (hears : before.Hears heard after) : before.Works after :=
  ((Works.refl before).check).trans (Listened.of_hears hears).works

theorem heard?_works {session middle : Session} {line : String}
    (heard : session.heard? = some (line, middle)) : session.Works middle := by
  obtain ⟨after, hears, rfl⟩ := heard?_eq_some_iff.mp heard
  exact (Works.hears hears).count (by simp)

/-! ## Exchanges -/

/-- What becomes of a frame that has arrived: it is dropped if its checksum is wrong, and otherwise
its record is added to the key log or, if the key log cannot be added to, abandoned. -/
inductive Accepted (part : KeyPart) (frame : Frame) (before : Session) : Session → Prop where
  | dropped {after : Session} (wrong : frame.verified = false) (works : before.Works after) :
      Accepted part frame before after
  | refused {error : IoError} {middle after : Session} (right : frame.verified = true)
      (refused : before.files.append before.profile.keyLog
        (Bytes.ofText (Base64.mime (part.select before.profile.certRange frame.payload))) =
          .error error)
      (works : before.Works middle)
      (further : Works { middle with files := before.files.tried } after) :
      Accepted part frame before after
  | recorded {files : FileTree} {middle : Session} (right : frame.verified = true)
      (appended : before.files.append before.profile.keyLog
        (Bytes.ofText (Base64.mime (part.select before.profile.certRange frame.payload))) =
          .ok files)
      (works : before.Works middle) :
      Accepted part frame before
        ({ middle with files }.count fun tally =>
          { tally with keyRecords := tally.keyRecords + 1 })

theorem accept_accepted (part : KeyPart) (frame : Frame) (session : Session) :
    Accepted part frame session (session.accept part frame) := by
  have still := Works.refl session
  generalize accepted : session.accept part frame = after
  cases accept_cases accepted with
  | mismatched wrong => exact .dropped wrong (still.reportMismatch part frame)
  | recorded right appended => exact .recorded right appended (still.display part frame)
  | refused right refused =>
    exact .refused right refused (still.display part frame) ((Works.refl _).abandon _ _)

theorem Accepted.leads {part : KeyPart} {frame : Frame} {before after : Session}
    (accepted : Accepted part frame before after) : before.Leads after := by
  cases accepted with
  | dropped _ works => exact works.toLeads
  | refused _ _ works further =>
    exact ⟨works.source.trans further.source, works.sink.trans further.sink⟩
  | recorded _ _ works => exact ⟨works.source, works.sink⟩

theorem Accepted.profile {part : KeyPart} {frame : Frame} {before after : Session}
    (accepted : Accepted part frame before after) : after.profile = before.profile := by
  cases accepted with
  | dropped _ works => exact works.profile
  | refused _ _ works further => exact further.profile.trans works.profile
  | recorded _ _ works => exact works.profile

/-- The frame that arrives whole at a step of an exchange, if one does. -/
def arrival? (exchange : Exchange) (session : Session) : Option Frame :=
  let session := session.check
  if session.running && (session.expired? exchange).isNone then
    match session.receiver.stepFrame with
    | (.ok arrived, _) => arrived
    | (.error _, _) => none
  else none

/-- What can come of a step of an exchange. -/
inductive Advanced (exchange : Exchange) (before : Session) : Progress → Session → Prop where
  | pending {after : Session} (works : before.Works after)
      (none : before.arrival? exchange = none) : Advanced exchange before .pending after
  | received {frame : Frame} {middle : Session} (works : before.Works middle)
      (arrived : before.arrival? exchange = some frame) :
      Advanced exchange before (.ended .done) (middle.accept exchange.part frame)
  | abandoned {after : Session} (works : before.Works after)
      (none : before.arrival? exchange = none) : Advanced exchange before (.ended .done) after
  | failed {error : FrameError} {after : Session} (works : before.Works after)
      (none : before.arrival? exchange = none) (broken : before.Broken error after) :
      Advanced exchange before (.ended (.failed (.frame error))) after
  | waiting {after : Session} (works : before.Works after)
      (none : before.arrival? exchange = none) (forsaken : after.isForsaken = true) :
      Advanced exchange before (.ended (.waiting exchange)) after

theorem arrival?_of_looks {exchange : Exchange} {session : Session} {receiver : Receiver}
    {result : Except FrameError (Option Frame)} (looks : session.Looks exchange result receiver) :
    session.arrival? exchange = match result with
      | .ok arrived => arrived
      | .error _ => none := by
  simp only [arrival?, looks.running, looks.inTime, looks.stepped]
  cases result <;> rfl

theorem Works.looked {exchange : Exchange} {session : Session} {receiver : Receiver}
    {result : Except FrameError (Option Frame)} (looks : session.Looks exchange result receiver) :
    session.Works { session.check with receiver } := by
  have checked := (Works.refl session).check
  have history := Receiver.stepFrame_history looks.stepped
  cases result with
  | ok arrived =>
    rcases history with leads | ⟨⟨_, _, refused⟩, _⟩
    · exact checked.receive leads
    · cases refused
  | error error =>
    rcases history with fails | ⟨_, leads⟩
    · exact checked.receive (Source.Fails.leads fails)
    · exact checked.receive leads

theorem advance_advanced (exchange : Exchange) (session : Session) :
    Advanced exchange session (session.advance exchange).1 (session.advance exchange).2 := by
  have checked := (Works.refl session).check
  rcases advanced : session.advance exchange with ⟨progress, after⟩
  cases advance_cases advanced with
  | cancelled stopped => exact .abandoned (checked.cancel _) (by simp [arrival?, stopped])
  | expired _ late => exact .abandoned (checked.expire _ _) (by simp [arrival?, late])
  | arrived looks => exact .received ((Works.looked looks).note _ _ _) (arrival?_of_looks looks)
  | incomplete looks => exact .pending (.looked looks) (arrival?_of_looks looks)
  | idle looks _ _ => exact .pending (.looked looks) (arrival?_of_looks looks)
  | forsaken looks _ hopeless =>
    exact .waiting (.looked looks) (arrival?_of_looks looks) (isForsaken_of_givesUp hopeless)
  | oversized looks =>
    exact .abandoned ((Works.looked looks).abandon _ _) (arrival?_of_looks looks)
  | failed looks lasting small =>
    rcases Receiver.stepFrame_history looks.stepped with fails | ⟨⟨size, max, refused⟩, _⟩
    · have broken : session.check.Broken _ { session.check with receiver := _ } :=
        .receiving fails lasting
      exact .failed (.looked looks) (arrival?_of_looks looks) (broken.later checked.toLeads)
    · cases refused
      exact absurd rfl (small size max)

theorem Advanced.profile {exchange : Exchange} {before after : Session} {progress : Progress}
    (advanced : Advanced exchange before progress after) : after.profile = before.profile := by
  cases advanced with
  | pending works _ => exact works.profile
  | received works _ => exact (accept_accepted _ _ _).profile.trans works.profile
  | abandoned works _ => exact works.profile
  | failed works _ _ => exact works.profile
  | waiting works _ _ => exact works.profile

end Session

end Provisioning
