import Provisioning.Proofs.Link.Sending
import Provisioning.Proofs.Session.Course
import Provisioning.Proofs.Session.Meaning

/-! # How a line that was taken up comes out

What a session brings about is told by its books: what it has counted, what it has told the operator
and what it has written to the device. `Outcome` lists the ways in which a line that was taken up
can change them, whatever becomes of the sink, the source, the files and the flag in the meantime:
each of them tells the operator what has been counted, and none writes anything but the answer to
the line. A line that fails has counted its command and nothing else.
-/

namespace Provisioning

/-- The frame that carries a file, if one is named and can be read. -/
def FileTree.framed (files : FileTree) : Option String → Bytes
  | none => []
  | some path => match files.read path with
    | .ok contents => (Frame.ofPayload contents).wire
    | .error _ => []

/-- What a device is answered, given the host's files at that moment. -/
def Profile.answerTo (profile : Profile) (files : FileTree) (line : String) : Bytes :=
  match Command.ofLine? line with
  | some .requestMac =>
    Bytes.ofWord profile.mac0 ++ Bytes.ofWord profile.mac1 ++
      Bytes.ofWord (UInt32.ofNat ((profile.mac0.toNat + profile.mac1.toNat) % UInt32.size))
  | some .hostCheck => Bytes.ofWord profile.hostToken
  | some .deviceCert => files.framed profile.deviceCert
  | some .ekCertificate => files.framed (profile.ekCertificate <|> profile.deviceCert)
  | some .smbiosSerial => (Frame.ofPayload profile.serialNumber).wire
  | _ => []

/-- The bytes of an answer on the line. -/
def Answer.bytes : Answer → Bytes
  | silence | unavailable _ => []
  | raw bytes => bytes
  | framed payload _ => (Frame.ofPayload payload).wire

private theorem Answer.bytes_ofFile (files : FileTree) (file : Option String) :
    (ofFile files file).bytes = files.framed file := by
  cases file with
  | none => rfl
  | some path =>
    rw [ofFile, FileTree.framed]
    cases files.read path with
    | ok contents => rfl
    | error error => rfl

private theorem Profile.macBlock_eq (mac0 mac1 : UInt32) :
    macBlock mac0 mac1 = Bytes.ofWord mac0 ++ Bytes.ofWord mac1 ++
      Bytes.ofWord (UInt32.ofNat ((mac0.toNat + mac1.toNat) % UInt32.size)) := by
  have sum : UInt32.ofNat ((mac0.toNat + mac1.toNat) % UInt32.size) = mac0 + mac1 := by
    rw [← UInt32.toNat_add, UInt32.ofNat_toNat]
  rw [macBlock, sum]

/-- A command that asks for an answer is not met with silence. -/
theorem Command.answer_ne_silence {command : Command} (asks : command.asks = true)
    (profile : Profile) (files : FileTree) : command.answer profile files ≠ .silence := by
  have file (path : Option String) : Answer.ofFile files path ≠ .silence := by
    cases path with
    | none => nofun
    | some path =>
      rw [Answer.ofFile]
      split <;> nofun
  cases command with
  | ekCert | ekPublic | success | failure => cases asks
  | requestMac | hostCheck | smbiosSerial => nofun
  | deviceCert => exact file _
  | ekCertificate => exact file _

private theorem Command.bytes_answer {line : String} {command : Command}
    (known : ofLine? line = some command) (profile : Profile) (files : FileTree) :
    (command.answer profile files).bytes = profile.answerTo files line := by
  rw [Profile.answerTo, known]
  cases command with
  | requestMac => exact Profile.macBlock_eq _ _
  | deviceCert => exact Answer.bytes_ofFile _ _
  | ekCertificate => exact Answer.bytes_ofFile _ _
  | hostCheck | smbiosSerial | ekCert | ekPublic | success | failure => rfl

namespace Ledger

/-- A command has been taken up. -/
def heed (ledger : Ledger) : Ledger :=
  ledger.count fun tally => { tally with commands := tally.commands + 1 }

/-- What an exchange that ends without an error leaves in the ledger, and how many records it could
not add to the key log. -/
inductive Concludes (ledger : Ledger) (part : KeyPart) : Nat → Ledger → Prop where
  | abandoned (reason : String) : Concludes ledger part 0 (ledger.abandon part.command reason)
  | mismatched (declared computed : UInt32) :
      Concludes ledger part 0
        (ledger.count (fun tally =>
            { tally with checksumMismatches := tally.checksumMismatches + 1 })
          |>.tell (.checksumMismatch part declared computed))
  | recorded (size : Nat) (encoded : String) :
      Concludes ledger part 0
        (ledger.tell (.keyMaterial part size encoded)
          |>.count fun tally => { tally with keyRecords := tally.keyRecords + 1 })
  | refused (size : Nat) (encoded reason : String) :
      Concludes ledger part 1
        (ledger.tell (.keyMaterial part size encoded) |>.abandon part.command reason)

end Ledger

/-- How many commands are pending between two moves: the one whose frame is awaited. -/
def Standing.pending : Standing → Nat
  | .idle | .running => 0
  | .awaiting _ _ => 1

namespace Session

/-- What the session has counted, told and written. The host's files are left out: others may change
them. -/
def books (session : Session) : Ledger where
  files := {}
  tally := session.tally
  events := session.events.toList
  written := session.transmitter.sink.written

theorem books_deliver (event : Event) (session : Session) :
    (session.deliver event).books = session.books.tell event := by
  simp only [deliver]
  split <;> simp [books, Ledger.tell, setRunning]

@[simp] theorem books_note (level : Level) (message : String)
    (fields : List (String × Journal.Value)) (session : Session) :
    (session.note level message fields).books = session.books := rfl

private theorem books_count (change : Tally → Tally) (session : Session) :
    (session.count change).books = session.books.count change := rfl

private theorem books_transmit {session : Session} {transmitter : Transmitter} {part : Bytes}
    (written : transmitter.sink.written = session.transmitter.sink.written ++ part) :
    books { session with transmitter } = session.books.write part := by
  rw [books, written]
  rfl

theorem books_check (session : Session) : session.check.books = session.books := by
  unfold check
  split <;> rfl

theorem books_disturbed (clock : Nat) (running : Bool) (files : FileTree) (session : Session) :
    (session.disturbed clock running files).books = session.books := rfl

private theorem books_abandon (command : Command) (reason : String) (session : Session) :
    (session.abandon command reason).books = session.books.abandon command reason :=
  books_deliver _ _

private theorem books_served (command : Command) (size : Nat) (session : Session) :
    (session.served command size).books =
      (session.books.count (fun tally => { tally with served := tally.served + 1 })
        |>.tell (.served command size)) :=
  books_deliver _ _

theorem transmitter_served (command : Command) (size : Nat) (session : Session) :
    (session.served command size).transmitter = session.transmitter := by
  simp only [served, deliver]
  split <;> rfl

private theorem books_settle (ending : Ending) (session : Session) :
    (session.settle ending).2.books = session.books := by
  unfold settle
  split
  · rfl
  · rfl
  · split <;> rfl

private theorem books_receive (line : Line) (receiver : Receiver) (session : Session) :
    (session.receive line receiver).books = session.books := by
  cases line <;> rfl

theorem books_listen (session : Session) : session.listen.2.books = session.books := by
  rcases listened : session.listen with ⟨heard, after⟩
  cases listen_cases listened with
  | line _ _ | undecodable _ _ => exact books_receive _ _ _
  | hungUp _ | quiet _ _ | failed _ _ _ => rfl

theorem books_hears {before after : Session} {heard : Except SessionError Heard}
    (hears : before.Hears heard after) : after.books = before.books := by
  have same := books_listen before.check
  rw [hears.listened] at same
  exact same.trans (books_check before)

theorem books_of_heard? {session middle : Session} {line : String}
    (heard : session.heard? = some (line, middle)) : middle.books = session.books.lineRead := by
  obtain ⟨after, hears, rfl⟩ := heard?_eq_some_iff.mp heard
  rw [books_count, books_hears hears, Ledger.lineRead]

/-! ## Answers -/

/-- What can come of answering a command. -/
inductive Responded (before : Session) (command : Command) (answer : Bytes) :
    Except SessionError Unit → Session → Prop where
  | served {after : Session} (books : after.books = before.books.serve command answer)
      (flushed : before.transmitter.sink.Flushes (.ok ()) after.transmitter.sink) :
      Responded before command answer (.ok ()) after
  | abandoned {after : Session} (reason : String)
      (books : after.books = before.books.abandon command reason) :
      Responded before command answer (.ok ()) after
  | failed {error : SessionError} {part : Bytes} {after : Session} (beginning : part <+: answer)
      (books : after.books = before.books.write part) :
      Responded before command answer (.error error) after

theorem Responded.later {command : Command} {answer : Bytes} {before middle after : Session}
    {result : Except SessionError Unit} (responded : middle.Responded command answer result after)
    (books : middle.books = before.books) (transmitter : middle.transmitter = before.transmitter) :
    before.Responded command answer result after := by
  cases responded with
  | served told flushed => exact .served (books ▸ told) (transmitter ▸ flushed)
  | abandoned reason told => exact .abandoned reason (books ▸ told)
  | failed beginning told => exact .failed beginning (books ▸ told)

private theorem answerRaw_responded (command : Command) (bytes : Bytes) (session : Session) :
    session.Responded command bytes (session.answerRaw command bytes).1
      (session.answerRaw command bytes).2 := by
  simp only [answerRaw]
  split
  · rename_i transmitter sending
    cases Transmitter.sendRaw_sent sending with
    | whole written flushed =>
      apply Responded.served
      · rw [books_served, books_transmit written]
        rfl
      · rw [transmitter_served]
        exact flushed
  · rename_i error transmitter sending
    cases Transmitter.sendRaw_sent sending with
    | cut beginning written fails => exact .failed beginning (books_transmit written)

private theorem answerFramed_responded (command : Command) (payload : Bytes) (session : Session) :
    session.Responded command (Frame.ofPayload payload).wire
      (session.answerFramed command payload).1 (session.answerFramed command payload).2 := by
  simp only [answerFramed]
  split
  · rename_i size max transmitter sending
    rcases Transmitter.send_sent sending with sent | ⟨_, untouched⟩
    · cases sent with
      | cut beginning written fails => cases fails
    · have unwritten : books { session with transmitter } = session.books := by
        rw [books, untouched]
        rfl
      apply Responded.abandoned
      rw [books_abandon, unwritten]
  · rename_i result transmitter small sending
    rcases Transmitter.send_sent sending with sent | ⟨⟨size, max, rfl⟩, _⟩
    · cases sent with
      | whole written flushed =>
        apply Responded.served
        · rw [books_served, books_note, books_transmit written, Ledger.serve, Frame.length_wire]
          rfl
        · rw [transmitter_served]
          exact flushed
      | cut beginning written fails => exact .failed beginning (books_transmit written)
    · exact absurd rfl (small size max)

private theorem respond_responded (command : Command) {answer : Answer} (speaks : answer ≠ .silence)
    (session : Session) :
    session.Responded command answer.bytes (session.respond command answer).1
      (session.respond command answer).2 := by
  cases answer with
  | silence => exact absurd rfl speaks
  | unavailable reason => exact .abandoned reason (books_abandon _ _ _)
  | raw bytes => exact answerRaw_responded command bytes session
  | framed payload file =>
    cases file with
    | none => exact answerFramed_responded command payload session
    | some path => exact (answerFramed_responded command payload _).later rfl rfl

/-! ## Exchanges -/

/-- A frame that has arrived is told to the operator and counted. -/
theorem accept_concludes (part : KeyPart) (frame : Frame) (session : Session) :
    session.books.Concludes part (refusals (session.acceptActs part frame))
      (session.accept part frame).books := by
  have displayed : (session.display part frame).books = session.books.tell _ := books_deliver _ _
  generalize accepted : session.accept part frame = after
  cases accept_cases accepted with
  | mismatched wrong =>
    rw [acceptActs, wrong, reportMismatch, books_deliver]
    exact .mismatched _ _
  | recorded right appended =>
    have taken : session.takesRecord part frame = true := by
      rw [entry] at appended
      simp [takesRecord, appended, Except.isOk, Except.toBool]
    rw [acceptActs, right, taken, books_count]
    change session.books.Concludes part 0 ((session.display part frame).books.count _)
    rw [displayed]
    exact .recorded _ _
  | refused right refused =>
    have untaken : session.takesRecord part frame = false := by
      rw [entry] at refused
      simp [takesRecord, refused, Except.isOk, Except.toBool]
    rw [acceptActs, right, untaken, books_abandon]
    change session.books.Concludes part 1 ((session.display part frame).books.abandon _ _)
    rw [displayed]
    exact .refused _ _ _

/-- What an exchange leaves in the books, and how many records it could not add: nothing until it
has come to an end of its own. -/
inductive Stepped (exchange : Exchange) (before : Session) : Nat → Progress → Session → Prop where
  | quiet {progress : Progress} {after : Session} (undecided : progress ≠ .ended .done)
      (books : after.books = before.books) : Stepped exchange before 0 progress after
  | concluded {refused : Nat} {after : Session}
      (concludes : before.books.Concludes exchange.part refused after.books) :
      Stepped exchange before refused (.ended .done) after

namespace Stepped

variable {exchange : Exchange} {before middle after : Session} {first second : Nat}
  {progress last : Progress}

theorem of_books (same : middle.books = before.books)
    (stepped : Stepped exchange middle second last after) :
    Stepped exchange before second last after := by
  cases stepped with
  | quiet undecided books => exact .quiet undecided (books.trans same)
  | concluded concludes => exact .concluded (same ▸ concludes)

/-- A step that has decided nothing leaves the exchange as it was. -/
theorem append (stepped : Stepped exchange before first progress middle)
    (undecided : progress ≠ .ended .done) (rest : Stepped exchange middle second last after) :
    Stepped exchange before (first + second) last after := by
  cases stepped with
  | concluded => exact absurd rfl undecided
  | quiet _ same =>
    rw [Nat.zero_add]
    exact rest.of_books same

end Stepped

/-- An offer to the key log depends on nothing but the profile and the host's files. -/
theorem acceptActs_eq {part : KeyPart} {frame : Frame} {before after : Session}
    (works : before.Works after) : after.acceptActs part frame = before.acceptActs part frame := by
  simp only [acceptActs, takesRecord, works.profile, works.files]

private theorem refusals_advanceActs_of_none {exchange : Exchange} {session : Session}
    (none : session.arrival? exchange = none) : refusals (session.advanceActs exchange) = 0 := by
  rw [advanceActs, none]
  rfl

private theorem refusals_advanceActs_of_some {exchange : Exchange} {session : Session}
    {frame : Frame}
    (arrived : session.arrival? exchange = some frame) :
    refusals (session.advanceActs exchange) =
      refusals (session.acceptActs exchange.part frame) := by
  rw [advanceActs, arrived]
  exact List.countP_cons_of_neg (by simp [Act.isRefusal])

private theorem advance_stepped (exchange : Exchange) (session : Session) :
    Stepped exchange session (refusals (session.advanceActs exchange))
      (session.advance exchange).1 (session.advance exchange).2 := by
  apply Stepped.of_books (books_check session)
  have quiet {progress : Progress} {after : Session} (none : session.arrival? exchange = none)
      (undecided : progress ≠ .ended .done) (books : after.books = session.check.books) :
      Stepped exchange session.check (refusals (session.advanceActs exchange)) progress after := by
    rw [refusals_advanceActs_of_none none]
    exact .quiet undecided books
  have abandoned {after : Session} {reason : String} (none : session.arrival? exchange = none)
      (books : after.books = session.check.books.abandon exchange.part.command reason) :
      Stepped exchange session.check (refusals (session.advanceActs exchange)) (.ended .done)
        after := by
    rw [refusals_advanceActs_of_none none]
    exact .concluded (books ▸ .abandoned reason)
  rcases advanced : session.advance exchange with ⟨progress, after⟩
  cases advance_cases advanced with
  | cancelled stopped => exact abandoned (by simp [arrival?, stopped]) (books_abandon _ _ _)
  | expired _ late => exact abandoned (by simp [arrival?, late]) (books_abandon _ _ _)
  | @arrived frame receiver looks =>
    have noted := (Works.looked looks).note .trace "frame received"
      [("size", .number frame.payload.length)]
    have concludes := accept_concludes exchange.part frame
      ({ session.check with receiver }.note .trace "frame received"
        [("size", .number frame.payload.length)])
    rw [acceptActs_eq noted] at concludes
    rw [refusals_advanceActs_of_some (arrival?_of_looks looks)]
    exact .concluded concludes
  | oversized looks => exact abandoned (arrival?_of_looks looks) (books_abandon _ _ _)
  | incomplete looks | idle looks _ _ | forsaken looks _ _ | failed looks _ _ =>
    exact quiet (arrival?_of_looks looks) (by simp) rfl

private theorem awaits_stepped {exchange : Exchange} {session after : Session} {acts : List Act}
    {ending : Ending} (awaits : Awaits exchange session acts ending after) :
    Stepped exchange session (refusals acts) (.ended ending) after := by
  induction awaits with
  | @ended session after ending advanced =>
    have stepped := advance_stepped exchange session
    rwa [advanced] at stepped
  | @onward session middle after progress acts ending advanced undecided rest ih =>
    have stepped := advance_stepped exchange session
    rw [advanced] at stepped
    rw [refusals_append]
    refine stepped.append ?_ ih
    rcases undecided with rfl | rfl <;> nofun
  | disturbed clock running files rest ih => exact ih.of_books (books_disturbed _ _ _ _)

/-! ## Lines -/

/-- The ways in which a line that was taken up can come out. -/
inductive Outcome (line : String) (before : Session) : List Act → Ending → Session → Prop where
  | echoed {after : Session} (unknown : Command.ofLine? line = none)
      (books : after.books = (before.books.count (fun tally =>
        { tally with echoed := tally.echoed + 1 }) |>.tell (.echo line))) :
      Outcome line before [] .done after
  | served {command : Command} {after : Session} (known : Command.ofLine? line = some command)
      (books : after.books =
        before.books.heed.serve command (before.profile.answerTo before.files line))
      (flushed : before.transmitter.sink.Flushes (.ok ()) after.transmitter.sink) :
      Outcome line before [] .done after
  | abandoned {command : Command} {reason : String} {after : Session}
      (books : after.books = before.books.heed.abandon command reason) :
      Outcome line before [] .done after
  | provisioned {after : Session} (books : after.books =
      (before.books.heed.count (fun tally => { tally with provisioned := true })
        |>.tell (.provisioned successMessage))) :
      Outcome line before [] .done after
  | deviceFailure {step : FailedStep} {after : Session} (books : after.books =
      (before.books.heed.count (fun tally =>
        { tally with deviceFailures := tally.deviceFailures + 1 })
          |>.tell (.deviceFailure step))) :
      Outcome line before [] .done after
  | concluded {part : KeyPart} {acts : List Act} {after : Session}
      (concludes : before.books.heed.Concludes part (refusals acts) after.books) :
      Outcome line before acts .done after
  | failed {error : SessionError} {acts : List Act} {part : Bytes} {after : Session}
      (unrefused : refusals acts = 0)
      (beginning : part <+: before.profile.answerTo before.files line)
      (books : after.books = before.books.heed.write part) :
      Outcome line before acts (.failed error) after
  | waiting {exchange : Exchange} {acts : List Act} {after : Session}
      (unrefused : refusals acts = 0) (books : after.books = before.books.heed) :
      Outcome line before acts (.waiting exchange) after

theorem Responded.outcome {line : String} {command : Command} {before after : Session}
    {result : Except SessionError Unit} (known : Command.ofLine? line = some command)
    (responded : (before.heed command).Responded command (before.profile.answerTo before.files line)
      result after) : Outcome line before [] (.ofAnswer result) after := by
  cases responded with
  | served books flushed => exact .served known books flushed
  | abandoned reason books => exact .abandoned books
  | failed beginning books => exact .failed rfl beginning books

theorem Stepped.outcome {line : String} {exchange : Exchange} {before after : Session}
    {acts : List Act} {refused : Nat} {ending : Ending}
    (stepped : Stepped exchange (before.heed exchange.part.command) refused (.ended ending) after)
    (counted : refusals acts = refused) : Outcome line before acts ending after := by
  cases stepped with
  | concluded concludes => exact .concluded (counted ▸ concludes)
  | quiet undecided books => cases ending with
    | done => exact absurd rfl undecided
    | failed error =>
      refine .failed counted List.nil_prefix (books.trans ?_)
      rw [Ledger.write, List.append_nil]
      rfl
    | waiting exchange => exact .waiting counted books

theorem Dispatches.outcome {line : String} {before after : Session} {acts : List Act}
    {ending : Ending} (taken : Dispatches line before acts ending after) :
    Outcome line before acts ending after := by
  cases taken with
  | ordinary ordinary =>
    rcases dispatched : before.dispatch line with ⟨ending, after⟩
    cases dispatch_cases ordinary dispatched with
    | echoed unknown => exact .echoed unknown (books_deliver _ _)
    | @answered command _ _ known asks responded =>
      have speaks := Command.answer_ne_silence asks before.profile before.files
      have outcome := respond_responded command speaks (before.heed command)
      rw [responded, Command.bytes_answer known] at outcome
      exact outcome.outcome known
    | provisioned _ => exact .provisioned (books_deliver _ _)
    | deviceFailure _ => exact .deviceFailure (books_deliver _ _)
  | announced announced awaits => exact (awaits_stepped awaits).outcome rfl

/-! ## Moves -/

/-- A turn that hears no line of text leaves no command pending, and at most tells of a line that
is not text. -/
theorem books_turn {session : Session} (unheard : session.heard? = none) :
    session.turn.1.standing.pending = 0 ∧
      (session.turn.2.books = session.books ∨
        ∃ size, session.turn.2.books =
          (session.books.count (fun tally => { tally with undecodable := tally.undecodable + 1 })
            |>.tell (.undecodable size))) := by
  rcases turned : session.turn with ⟨outcome, after⟩
  cases turn_cases turned with
  | stopped _ => exact ⟨rfl, .inl (books_check session)⟩
  | failed hears | quiet hears _ | forsaken hears _ => exact ⟨rfl, .inl (books_hears hears)⟩
  | hungUp hears => exact ⟨rfl, .inl ((books_note _ _ _ _).trans (books_hears hears))⟩
  | @skipped size _ hears =>
    refine ⟨rfl, .inr ⟨size, ?_⟩⟩
    rw [skip, books_deliver, ← books_hears hears]
    rfl
  | line heard _ _ =>
    rw [unheard] at heard
    cases heard

theorem books_ended (inRun : Bool) (ending : Ending) (session : Session) :
    (Point.ended inRun ending session).session.books = session.books := by
  unfold Point.ended
  split
  · exact books_settle ending session
  · rfl

theorem pending_ended (inRun : Bool) (ending : Ending) (session : Session) :
    (Point.ended inRun ending session).standing.pending = ending.standing.pending := by
  unfold Point.ended
  split
  · cases ending with
    | done => rfl
    | waiting pending => rfl
    | failed error =>
      simp only [settle]
      split <;> rfl
  · rfl

end Session

end Provisioning
