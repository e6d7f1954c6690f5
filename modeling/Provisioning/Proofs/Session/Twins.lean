import Provisioning.Proofs.Session.Intake

/-! # Sessions that are alike

Without a limit on exchanges the clock decides nothing, and the flag that keeps a session running
decides only whether it goes on. So two sessions that differ in these, and in what is noted in their
logs, do the same as long as both go on: they read, write, count, record and tell the same.

`Twins` says that two sessions are alike, that nothing from outside stops either of them, and that
no event stops the first. Every operation keeps it, up to a turn of a run (`turn_matches`).
-/

namespace Provisioning

/-- It is waited for something that will not come any more. -/
def Ending.isWaiting : Ending → Bool
  | waiting _ => true
  | done | failed _ => false

def Turn.isWaiting : Turn → Bool
  | waiting _ => true
  | onward | stopped | failed _ => false

namespace Session

def Progress.isWaiting : Progress → Bool
  | ended ending => ending.isWaiting
  | pending => false

/-! ## Sessions that nothing from outside stops -/

/-- Exchanges may take as long as they like, the device hangs up in the end, and neither at a read
nor at a check does anything from outside stop the session. -/
structure Undisturbed (session : Session) : Prop where
  unlimited : session.profile.exchangeLimit = none
  closes : session.receiver.source.Closes
  unstopped : ∀ interlude ∈ session.interludes, interlude.running ≠ some false

namespace Undisturbed

variable {session : Session}

theorem same {other : Session} (undisturbed : session.Undisturbed)
    (profile : other.profile = session.profile)
    (source : other.receiver.source.untimed = session.receiver.source.untimed)
    (interludes : other.interludes = session.interludes) : other.Undisturbed := by
  obtain ⟨unlimited, closes, unstopped⟩ := undisturbed
  have script := congrArg Source.script source
  have tail := congrArg Source.tail source
  change other.receiver.source.script = session.receiver.source.script at script
  change other.receiver.source.tail = session.receiver.source.tail at tail
  constructor
  · rwa [profile]
  · constructor
    · rw [script]
      exact closes.unstopped
    · rw [tail]
      exact closes.closed
  · rwa [interludes]

theorem check (undisturbed : session.Undisturbed) : session.check.Undisturbed := by
  obtain ⟨unlimited, closes, unstopped⟩ := undisturbed
  unfold Session.check
  split
  · exact ⟨unlimited, closes, unstopped⟩
  · rename_i interlude rest pending
    refine ⟨unlimited, ⟨closes.unstopped, closes.closed⟩, ?_⟩
    intro other member
    apply unstopped
    rw [pending]
    exact List.mem_cons_of_mem _ member

/-- A check does not stop the session. -/
theorem running_check (undisturbed : session.Undisturbed) (running : session.running = true) :
    session.check.running = true := by
  have unstopped := undisturbed.unstopped
  unfold Session.check
  split
  · exact running
  · rename_i interlude rest pending
    have here : interlude ∈ session.interludes := by
      rw [pending]
      exact List.mem_cons_self
    change interlude.running.getD session.running = true
    cases set : interlude.running with
    | none => exact running
    | some value =>
      cases value with
      | true => rfl
      | false => exact absurd set (unstopped interlude here)

theorem deliver (undisturbed : session.Undisturbed) (event : Event) :
    (session.deliver event).Undisturbed := by
  simp only [Session.deliver]
  split <;> exact undisturbed.same rfl rfl rfl

theorem receive (undisturbed : session.Undisturbed) {receiver : Receiver} {consumed : Bytes}
    (accounts : session.receiver.Accounts consumed receiver) :
    ({ session with receiver } : Session).Undisturbed :=
  ⟨undisturbed.unlimited, (accounts.closes undisturbed.closes).1, undisturbed.unstopped⟩

/-- The time for an exchange is never up. -/
theorem expired?_eq_none (undisturbed : session.Undisturbed) (exchange : Exchange) :
    session.expired? exchange = none := by
  rw [expired?, undisturbed.unlimited]
  rfl

/-- The device will hang up if nothing else comes. -/
theorem isForsaken_eq_false (undisturbed : session.Undisturbed) : session.isForsaken = false := by
  have closed := undisturbed.closes.closed
  simp [isForsaken, Receiver.isSilent, Source.isSilent, closed]

end Undisturbed

/-! ## Twins -/

/-- Two sessions are alike up to the clock, the flag and the log, nothing from outside stops either
of them, and no event stops the first. -/
structure Twins (first second : Session) : Prop where
  left : first.Undisturbed
  right : second.Undisturbed
  running : first.running = true
  unpaused : first.pauses = []
  profile : second.profile = first.profile
  intake : second.intake = first.intake
  transmitter : second.transmitter = first.transmitter
  files : second.files = first.files
  tally : second.tally = first.tally
  events : second.events = first.events

namespace Twins

variable {first second : Session}

theorem note (twins : first.Twins second) (level : Level) (message : String)
    (fields otherFields : List (String × Journal.Value)) :
    (first.note level message fields).Twins (second.note level message otherFields) :=
  { twins with left := twins.left.same rfl rfl rfl, right := twins.right.same rfl rfl rfl }

theorem count (twins : first.Twins second) (change : Tally → Tally) :
    (first.count change).Twins (second.count change) :=
  { twins with
    left := twins.left.same rfl rfl rfl
    right := twins.right.same rfl rfl rfl
    tally := congrArg change twins.tally }

theorem transmit (twins : first.Twins second) (transmitter : Transmitter) :
    ({ first with transmitter } : Session).Twins { second with transmitter } :=
  { twins with
    left := twins.left.same rfl rfl rfl
    right := twins.right.same rfl rfl rfl
    transmitter := rfl }

theorem store (twins : first.Twins second) (files : FileTree) :
    ({ first with files } : Session).Twins { second with files } :=
  { twins with
    left := twins.left.same rfl rfl rfl
    right := twins.right.same rfl rfl rfl
    files := rfl }

theorem check (twins : first.Twins second) : first.check.Twins second.check := by
  have left := twins.left.check
  have right := twins.right.check
  have running := twins.left.running_check twins.running
  have intake : second.check.intake = first.check.intake := by
    rw [intake_check, intake_check, twins.intake]
  obtain ⟨receiver, interludes, kept⟩ := check_kept first
  obtain ⟨otherReceiver, otherInterludes, otherKept⟩ := check_kept second
  rw [kept] at left running intake ⊢
  rw [otherKept] at right intake ⊢
  exact { twins with left, right, running, intake }

theorem deliver (twins : first.Twins second) (event : Event) :
    (first.deliver event).Twins (second.deliver event) := by
  have told : first.deliver event = { first with events := first.events.push event } := by
    simp only [Session.deliver, twins.unpaused, List.not_mem_nil, if_false]
  have left := twins.left.deliver event
  rw [told] at left ⊢
  simp only [Session.deliver]
  split
  all_goals
    exact { twins with
      left
      right := twins.right.same rfl rfl rfl
      events := congrArg (·.push event) twins.events }

theorem receive (twins : first.Twins second) {receiver other : Receiver}
    {consumed otherConsumed : Bytes} (accounts : first.receiver.Accounts consumed receiver)
    (otherAccounts : second.receiver.Accounts otherConsumed other)
    (same : other.untimed = receiver.untimed) :
    ({ first with receiver } : Session).Twins { second with receiver := other } :=
  { twins with
    left := twins.left.receive accounts
    right := twins.right.receive otherAccounts
    running := (accounts.closes twins.left.closes).2.trans twins.running
    intake := same }

/-- Something is counted and told to the operator. -/
theorem tell (twins : first.Twins second) (change : Tally → Tally) (event : Event) :
    ((first.count change).deliver event).Twins ((second.count change).deliver event) :=
  (twins.count change).deliver event

theorem heed (twins : first.Twins second) (command : Command) :
    (first.heed command).Twins (second.heed command) :=
  (twins.note _ _ _ _).count _

theorem abandon (twins : first.Twins second) (command : Command) (reason : String) :
    (first.abandon command reason).Twins (second.abandon command reason) :=
  (twins.note _ _ _ _).tell _ _

theorem served (twins : first.Twins second) (command : Command) (size : Nat) :
    (first.served command size).Twins (second.served command size) :=
  (twins.note _ _ _ _).tell _ _

theorem skip (twins : first.Twins second) (size : Nat) :
    (first.skip size).Twins (second.skip size) :=
  (twins.note _ _ _ _).tell _ _

theorem receiveLine (twins : first.Twins second) (line : Line) {receiver other : Receiver}
    {consumed otherConsumed : Bytes} (accounts : first.receiver.Accounts consumed receiver)
    (otherAccounts : second.receiver.Accounts otherConsumed other)
    (same : other.untimed = receiver.untimed) :
    (first.receive line receiver).Twins (second.receive line other) := by
  have received := twins.receive accounts otherAccounts same
  cases line with
  | whole text => exact received
  | piece text => exact received.note _ _ _ _

end Twins

/-- The same comes of a call on either session. Unless it is something with which an event may have
been told, the second session is still to go on. -/
structure Matches {α : Type} (tells : α → Prop) (first second : α × Session) : Prop where
  result : second.1 = first.1
  twins : first.2.Twins second.2
  running : tells first.1 ∨ second.2.running = true

variable {first second : Session}

/-! ## Answers -/

section Answers

variable (twins : first.Twins second) (running : second.running = true)

include twins running

private theorem answerRaw_matches (command : Command) (bytes : Bytes) :
    Matches (· = .ok ()) (first.answerRaw command bytes) (second.answerRaw command bytes) := by
  have noted := twins.note .trace "sending raw bytes" [("size", .number bytes.length)]
    [("size", .number bytes.length)]
  simp only [answerRaw]
  rw [noted.transmitter]
  split
  · exact ⟨rfl, (noted.transmit _).served command bytes.length, .inl rfl⟩
  · exact ⟨rfl, noted.transmit _, .inr running⟩

private theorem answerFramed_matches (command : Command) (payload : Bytes) :
    Matches (· = .ok ()) (first.answerFramed command payload)
      (second.answerFramed command payload) := by
  simp only [answerFramed]
  rw [twins.transmitter]
  split
  · exact ⟨rfl, (twins.transmit _).abandon command _, .inl rfl⟩
  · split
    · exact ⟨rfl, ((twins.transmit _).note _ _ _ _).served command _, .inl rfl⟩
    · exact ⟨rfl, (twins.transmit _).note _ _ _ _, .inr running⟩

private theorem respond_matches (command : Command) (answer : Answer) :
    Matches (· = .ok ()) (first.respond command answer) (second.respond command answer) := by
  cases answer with
  | silence => exact ⟨rfl, twins, .inr running⟩
  | unavailable reason =>
    exact ⟨rfl, twins.abandon command reason, .inl rfl⟩
  | raw bytes => exact answerRaw_matches twins running command bytes
  | framed payload file =>
    cases file with
    | none => exact answerFramed_matches twins running command payload
    | some path => exact answerFramed_matches (twins.note _ _ _ _) running command payload

end Answers

/-! ## Exchanges -/

/-- The key log takes a record of either session or of neither. -/
theorem record_twins (twins : first.Twins second) (text : String) :
    (first.record text).1 = (second.record text).1 ∧
      (first.record text).2.Twins (second.record text).2 := by
  have same : second.files.append second.profile.keyLog (Bytes.ofText text) =
      first.files.append first.profile.keyLog (Bytes.ofText text) := by
    rw [twins.files, twins.profile]
  cases appended : first.files.append first.profile.keyLog (Bytes.ofText text) with
  | ok files =>
    rw [record_of_append appended, record_of_append (same.trans appended)]
    exact ⟨rfl, twins.store files⟩
  | error error =>
    have kept : second.files.tried = first.files.tried := congrArg FileTree.tried twins.files
    have named : SessionError.keyLog second.profile.keyLog error =
        .keyLog first.profile.keyLog error := by rw [twins.profile]
    rw [record_of_append_error appended, record_of_append_error (same.trans appended), kept, named]
    exact ⟨rfl, twins.store first.files.tried⟩

private theorem accept_twins (twins : first.Twins second) (part : KeyPart) (frame : Frame) :
    (first.accept part frame).Twins (second.accept part frame) := by
  simp only [accept, twins.profile]
  split
  · -- The record is offered behind the event, and so by what the event leaves.
    generalize noted : first.note .info "key material received" _ = before
    generalize otherNoted : second.note .info "key material received" _ = other
    have twins : before.Twins other := by
      rw [← noted, ← otherNoted]
      exact twins.note _ _ _ _
    have shown := twins.deliver (.keyMaterial part
      (part.select first.profile.certRange frame.payload).length
      (Base64.mime (part.select first.profile.certRange frame.payload)))
    obtain ⟨same, offered⟩ :=
      record_twins shown (Base64.mime (part.select first.profile.certRange frame.payload))
    generalize record _ (before.deliver _) = outcome at same offered ⊢
    generalize record _ (other.deliver _) = otherwise at same offered ⊢
    obtain ⟨result, after⟩ := outcome
    obtain ⟨otherResult, otherAfter⟩ := otherwise
    cases same
    cases result with
    | ok => exact offered.count _
    | error error => exact offered.abandon _ _
  · exact (twins.note _ _ _ _).tell _ _

/-- A step of an exchange on either session. Nothing is waited for for ever. -/
theorem advance_matches (twins : first.Twins second) (running : second.running = true)
    {exchange other : Exchange} (part : other.part = exchange.part) :
    Matches (· = .ended .done) (first.advance exchange) (second.advance other) ∧
      (first.advance exchange).1.isWaiting = false := by
  have checked := twins.check
  have going := twins.right.running_check running
  rcases stepped : first.check.receiver.stepFrame with ⟨result, receiver⟩
  obtain ⟨otherReceiver, otherStepped, same⟩ :=
    Receiver.stepFrame_alike stepped checked.intake
  obtain ⟨_, _, accounts⟩ := Receiver.stepFrame_accounts stepped
  obtain ⟨_, _, otherAccounts⟩ := Receiver.stepFrame_accounts otherStepped
  have received := checked.receive accounts otherAccounts same
  have still : otherReceiver.source.running = true :=
    (otherAccounts.closes checked.right.closes).2.trans going
  simp only [advance, checked.running, going, checked.left.expired?_eq_none,
    checked.right.expired?_eq_none, stepped, otherStepped, if_true, part]
  cases result with
  | ok arrived =>
    cases arrived with
    | none => exact ⟨⟨rfl, received, .inr still⟩, rfl⟩
    | some frame =>
      have accepted := accept_twins (received.note .trace "frame received"
        [("size", .number frame.payload.length)] [("size", .number frame.payload.length)])
        exchange.part frame
      exact ⟨⟨rfl, accepted, .inl rfl⟩, rfl⟩
  | error error =>
    simp only [received.left.isForsaken_eq_false, received.right.isForsaken_eq_false,
      Bool.false_and]
    cases timeout : error.isTimeout with
    | true => exact ⟨⟨rfl, received, .inr still⟩, rfl⟩
    | false =>
      cases error with
      | oversized size max =>
        exact ⟨⟨rfl, received.abandon _ _, .inl rfl⟩, rfl⟩
      | mismatch | io | closed => exact ⟨⟨rfl, received, .inr still⟩, rfl⟩

/-- The first step of an exchange, and how it goes on from there. -/
theorem exchange_eq (pending : Exchange) (session : Session) :
    session.exchange pending = match session.advance pending with
      | (.ended ending, after) => (ending, after)
      | (.pending, after) => after.exchange pending := by
  rw [exchange]
  split
  all_goals
    rename_i advanced
    rw [advanced]

theorem exchange_matches (twins : first.Twins second) (running : second.running = true)
    {pending other : Exchange} (part : other.part = pending.part) :
    Matches (· = .done) (first.exchange pending) (second.exchange other) ∧
      (first.exchange pending).1.isWaiting = false := by
  fun_induction Session.exchange pending first generalizing second with
  | case1 first ending after advanced =>
    obtain ⟨alike, ended⟩ := advance_matches twins running part
    rcases otherAdvanced : second.advance other with ⟨progress, otherAfter⟩
    rw [advanced] at ended
    rw [advanced, otherAdvanced] at alike
    cases alike.result
    rw [exchange_eq, otherAdvanced]
    constructor
    · exact ⟨rfl, alike.twins, alike.running.imp_left Progress.ended.inj⟩
    · exact ended
  | case2 first after advanced ih =>
    obtain ⟨alike, _⟩ := advance_matches twins running part
    rcases otherAdvanced : second.advance other with ⟨progress, otherAfter⟩
    rw [advanced, otherAdvanced] at alike
    cases alike.result
    rw [exchange_eq other second, otherAdvanced]
    exact ih alike.twins (alike.running.resolve_left (by simp))

/-! ## Lines -/

theorem dispatch_matches (twins : first.Twins second) (running : second.running = true)
    (line : String) :
    Matches (· = .done) (first.dispatch line) (second.dispatch line) ∧
      (first.dispatch line).1.isWaiting = false := by
  cases known : Command.ofLine? line with
  | none =>
    rw [dispatch, dispatch, known]
    exact ⟨⟨rfl, twins.tell _ _, .inl rfl⟩, rfl⟩
  | some command =>
    rw [dispatch_of_ofLine? known, dispatch_of_ofLine? known]
    have heeded := twins.heed command
    cases asks : command.asks with
    | true =>
      have answer : command.answer (second.heed command).profile (second.heed command).files =
          command.answer (first.heed command).profile (first.heed command).files := by
        rw [heeded.profile, heeded.files]
      rw [obey_of_asks asks, obey_of_asks asks, answer]
      have alike := respond_matches heeded running command
        (command.answer (first.heed command).profile (first.heed command).files)
      generalize (first.heed command).respond command _ = taken at alike ⊢
      generalize (second.heed command).respond command _ = other at alike ⊢
      obtain ⟨result, after⟩ := taken
      obtain ⟨otherResult, otherAfter⟩ := other
      cases alike.result
      cases result with
      | ok => exact ⟨⟨rfl, alike.twins, .inl rfl⟩, rfl⟩
      | error error => exact ⟨⟨rfl, alike.twins, .inr (alike.running.resolve_left (by simp))⟩, rfl⟩
    | false =>
      cases command with
      | success =>
        exact ⟨⟨rfl, (heeded.note _ _ _ _).tell _ _, .inl rfl⟩, rfl⟩
      | failure step =>
        exact ⟨⟨rfl, (heeded.note _ _ _ _).tell _ _, .inl rfl⟩, rfl⟩
      | ekCert | ekPublic => exact exchange_matches heeded running rfl
      | requestMac | hostCheck | deviceCert | ekCertificate | smbiosSerial => cases asks

/-- Waiting for a line tells nothing. -/
theorem listen_matches (twins : first.Twins second) (running : second.running = true) :
    Matches (fun _ => False) first.listen second.listen := by
  rcases awaited : first.receiver.awaitLine with ⟨result, receiver⟩
  obtain ⟨otherReceiver, otherAwaited, same⟩ := Receiver.awaitLine_alike awaited twins.intake
  obtain ⟨_, _, accounts⟩ := Receiver.awaitLine_accounts awaited
  obtain ⟨_, _, otherAccounts⟩ := Receiver.awaitLine_accounts otherAwaited
  have still : otherReceiver.source.running = true :=
    (otherAccounts.closes twins.right.closes).2.trans running
  simp only [listen, awaited, otherAwaited]
  cases result with
  | ok line =>
    have received := twins.receiveLine line accounts otherAccounts same
    cases line with
    | whole text | piece text =>
      simp only
      split
      · exact ⟨rfl, received, .inr still⟩
      · exact ⟨rfl, received, .inr still⟩
  | error error =>
    have received := twins.receive accounts otherAccounts same
    simp only
    split
    · exact ⟨rfl, received, .inr still⟩
    · split
      · exact ⟨rfl, received, .inr still⟩
      · exact ⟨rfl, received, .inr still⟩

/-! ## Turns -/

private theorem settle_matches {ending : Ending} (twins : first.Twins second)
    (running : ending = .done ∨ second.running = true) (ended : ending.isWaiting = false) :
    Matches (· = .onward) (first.settle ending) (second.settle ending) ∧
      (first.settle ending).1.isWaiting = false := by
  cases ending with
  | done => exact ⟨⟨rfl, twins, .inl rfl⟩, rfl⟩
  | waiting pending => cases ended
  | failed error =>
    have still := running.resolve_left (by simp)
    simp only [settle]
    split
    · exact ⟨⟨rfl, twins.note _ _ _ _, .inr still⟩, rfl⟩
    · exact ⟨⟨rfl, twins, .inr still⟩, rfl⟩

/-- A turn that both sessions take comes out the same. -/
theorem turn_matches (twins : first.Twins second) (running : second.check.running = true) :
    Matches (· = .onward) first.turn second.turn ∧
      first.turn.1.isWaiting = false := by
  have checked := twins.check
  have alike := listen_matches checked running
  rcases listened : first.check.listen with ⟨result, after⟩
  rcases otherListened : second.check.listen with ⟨otherResult, other⟩
  rw [listened, otherListened] at alike
  cases alike.result
  have twins : after.Twins other := alike.twins
  have still : other.running = true := alike.running.resolve_left id
  simp only [turn, checked.running, running, listened, otherListened, if_true]
  cases result with
  | error error => exact ⟨⟨rfl, twins, .inr still⟩, rfl⟩
  | ok heard =>
    cases heard with
    | hungUp => exact ⟨⟨rfl, twins.note _ _ _ _, .inr still⟩, rfl⟩
    | quiet =>
      simp only [twins.left.isForsaken_eq_false, twins.right.isForsaken_eq_false]
      exact ⟨⟨rfl, twins, .inr still⟩, rfl⟩
    | undecodable size => exact ⟨⟨rfl, twins.skip size, .inl rfl⟩, rfl⟩
    | line text =>
      have counted := twins.count fun tally => { tally with lines := tally.lines + 1 }
      obtain ⟨taken, ended⟩ := dispatch_matches counted still text
      simp only [taken.result]
      exact settle_matches taken.twins taken.running ended

end Session

end Provisioning
