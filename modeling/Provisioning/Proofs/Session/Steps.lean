import Provisioning.Session.Run

/-! # The cases of a step

What an operation of a session does is told here once, case by case: which checks lead to the case,
how the operation comes out there and which session it leaves. Whatever is proved of an operation
for every session goes by these cases and does not open the operation again.
-/

namespace Provisioning

/-- The command asks for an answer. -/
def Command.asks : Command → Bool
  | requestMac | hostCheck | deviceCert | ekCertificate | smbiosSerial => true
  | ekCert | ekPublic | success | failure _ => false

/-- How a command that was answered, or could not be, leaves its line. -/
def Ending.ofAnswer : Except SessionError Unit → Ending
  | .ok () => .done
  | .error error => .failed error

/-- What a session waits for: the next line, or the frame that a line has announced. -/
inductive Purpose where
  | line
  | frame (exchange : Exchange)
  deriving DecidableEq, Repr

namespace Session

/-! ## Waiting for a line -/

/-- A line has come in. It is noted if it was cut. -/
def receive (line : Line) (receiver : Receiver) (session : Session) : Session :=
  match line with
  | .whole _ => { session with receiver }
  | .piece text =>
    { session with receiver }.note .debug "overlong line split"
      [("size", .number (text.length + receiver.buffer.length))]

inductive ListenCase (before : Session) : Except SessionError Heard → Session → Prop where
  | line {line : Line} {receiver : Receiver} {text : String}
      (awaited : before.receiver.awaitLine = (.ok line, receiver))
      (decoded : Bytes.text? line.text = some text) :
      ListenCase before (.ok (.line text)) (before.receive line receiver)
  | undecodable {line : Line} {receiver : Receiver}
      (awaited : before.receiver.awaitLine = (.ok line, receiver))
      (garbled : Bytes.text? line.text = none) :
      ListenCase before (.ok (.undecodable line.text.length)) (before.receive line receiver)
  | hungUp {receiver : Receiver}
      (awaited : before.receiver.awaitLine = (.error .closed, receiver)) :
      ListenCase before (.ok .hungUp) { before with receiver }
  | quiet {error : FrameError} {receiver : Receiver}
      (awaited : before.receiver.awaitLine = (.error error, receiver))
      (timeout : error.isTimeout = true) : ListenCase before (.ok .quiet) { before with receiver }
  | failed {error : FrameError} {receiver : Receiver}
      (awaited : before.receiver.awaitLine = (.error error, receiver)) (unclosed : error ≠ .closed)
      (lasting : error.isTimeout = false) :
      ListenCase before (.error (.frame error)) { before with receiver }

theorem listen_cases {session after : Session} {heard : Except SessionError Heard}
    (listened : session.listen = (heard, after)) : session.ListenCase heard after := by
  simp only [listen] at listened
  split at listened
  · rename_i line receiver awaited
    cases line with
    | whole text =>
      split at listened
      all_goals
        rename_i decoded
        cases listened
      · exact .line awaited decoded
      · exact .undecodable awaited decoded
    | piece text =>
      split at listened
      all_goals
        rename_i decoded
        cases listened
      · exact .line awaited decoded
      · exact .undecodable awaited decoded
  · rename_i error receiver awaited
    split at listened
    · rename_i closed
      cases listened
      exact .hungUp (closed ▸ awaited)
    · rename_i unclosed
      split at listened
      · rename_i timeout
        cases listened
        exact .quiet awaited timeout
      · rename_i lasting
        cases listened
        exact .failed awaited unclosed (Bool.eq_false_iff.mpr lasting)

/-! ## Frames of key material -/

/-- The record of a frame. -/
def entry (part : KeyPart) (frame : Frame) (session : Session) : String :=
  Base64.mime (part.select session.profile.certRange frame.payload)

/-- The operator is shown the record of a frame. -/
def display (part : KeyPart) (frame : Frame) (session : Session) : Session :=
  let material := part.select session.profile.certRange frame.payload
  session
    |>.note .info "key material received" [("kind", .quoted part.label),
      ("received", .number frame.payload.length), ("recorded", .number material.length)]
    |>.deliver (.keyMaterial part material.length (session.entry part frame))

/-- The operator is told of a frame whose checksum is wrong. -/
def reportMismatch (part : KeyPart) (frame : Frame) (session : Session) : Session :=
  session
    |>.note .warn part.mismatchMessage [("declared", .number frame.declared.toNat),
      ("computed", .number frame.computed.toNat), ("size", .number frame.payload.length)]
    |>.count (fun tally => { tally with checksumMismatches := tally.checksumMismatches + 1 })
    |>.deliver (.checksumMismatch part frame.declared frame.computed)

inductive AcceptCase (part : KeyPart) (frame : Frame) (before : Session) : Session → Prop where
  | mismatched (wrong : frame.verified = false) :
      AcceptCase part frame before (before.reportMismatch part frame)
  | recorded {files : FileTree} (right : frame.verified = true)
      (appended : before.files.append before.profile.keyLog
        (Bytes.ofText (before.entry part frame)) = .ok files) :
      AcceptCase part frame before ({ before.display part frame with files }.count fun tally =>
        { tally with keyRecords := tally.keyRecords + 1 })
  | refused {error : IoError} (right : frame.verified = true)
      (refused : before.files.append before.profile.keyLog
        (Bytes.ofText (before.entry part frame)) = .error error) :
      AcceptCase part frame before ({ before.display part frame with
        files := before.files.tried }.abandon part.command
          (SessionError.keyLog before.profile.keyLog error).message)

theorem display_kept (part : KeyPart) (frame : Frame) (session : Session) :
    (session.display part frame).profile = session.profile ∧
      (session.display part frame).files = session.files := by
  simp only [display, deliver]
  split <;> exact ⟨rfl, rfl⟩

theorem accept_cases {part : KeyPart} {frame : Frame} {session after : Session}
    (accepted : session.accept part frame = after) : AcceptCase part frame session after := by
  obtain ⟨profile, files⟩ := display_kept part frame session
  have offered (text : String) : (session.display part frame).files.append
      (session.display part frame).profile.keyLog (Bytes.ofText text) =
        session.files.append session.profile.keyLog (Bytes.ofText text) := by rw [profile, files]
  simp only [accept] at accepted
  split at accepted
  · rename_i right
    cases appended : session.files.append session.profile.keyLog
        (Bytes.ofText (session.entry part frame)) with
    | ok longer =>
      have recorded := record_of_append ((offered _).trans appended)
      rw [display, entry] at recorded
      rw [recorded] at accepted
      cases accepted
      exact .recorded right appended
    | error error =>
      have refused : (session.display part frame).record (session.entry part frame) =
          (.error (.keyLog session.profile.keyLog error),
            { session.display part frame with files := session.files.tried }) := by
        simp only [record_of_append_error ((offered _).trans appended), profile, files]
      rw [display, entry] at refused
      rw [refused] at accepted
      cases accepted
      exact .refused right appended
  · rename_i wrong
    cases accepted
    exact .mismatched (Bool.eq_false_iff.mpr wrong)

/-! ## Steps of an exchange -/

/-- Nothing will come any more, and waiting for this is given up. -/
def givesUp (purpose : Purpose) (session : Session) : Bool :=
  session.isForsaken && match purpose with
    | .line => true
    | .frame _ => session.isOpen

theorem givesUp_line (session : Session) : session.givesUp .line = session.isForsaken :=
  Bool.and_true _

theorem isForsaken_of_givesUp {purpose : Purpose} {session : Session}
    (hopeless : session.givesUp purpose = true) : session.isForsaken = true :=
  (Bool.and_eq_true_iff.mp hopeless).1

/-- Neither is the program to stop nor the time for the exchange up, and this comes of the read. -/
structure Looks (exchange : Exchange) (before : Session) (result : Except FrameError (Option Frame))
    (receiver : Receiver) : Prop where
  running : before.check.running = true
  inTime : before.check.expired? exchange = none
  stepped : before.check.receiver.stepFrame = (result, receiver)

inductive AdvanceCase (exchange : Exchange) (before : Session) : Progress → Session → Prop where
  | cancelled (stopped : before.check.running = false) :
      AdvanceCase exchange before (.ended .done) (before.check.cancel exchange)
  | expired {limit : Duration} (running : before.check.running = true)
      (late : before.check.expired? exchange = some limit) :
      AdvanceCase exchange before (.ended .done) (before.check.expire exchange limit)
  | arrived {frame : Frame} {receiver : Receiver}
      (looks : before.Looks exchange (.ok (some frame)) receiver) :
      AdvanceCase exchange before (.ended .done)
        ({ before.check with receiver }
          |>.note .trace "frame received" [("size", .number frame.payload.length)]
          |>.accept exchange.part frame)
  | incomplete {receiver : Receiver} (looks : before.Looks exchange (.ok none) receiver) :
      AdvanceCase exchange before .pending { before.check with receiver }
  | idle {error : FrameError} {receiver : Receiver}
      (looks : before.Looks exchange (.error error) receiver) (timeout : error.isTimeout = true)
      (hopeful : givesUp (.frame exchange) { before.check with receiver } = false) :
      AdvanceCase exchange before .pending { before.check with receiver }
  | forsaken {error : FrameError} {receiver : Receiver}
      (looks : before.Looks exchange (.error error) receiver) (timeout : error.isTimeout = true)
      (hopeless : givesUp (.frame exchange) { before.check with receiver } = true) :
      AdvanceCase exchange before (.ended (.waiting exchange)) { before.check with receiver }
  | oversized {size max : Nat} {receiver : Receiver}
      (looks : before.Looks exchange (.error (.oversized size max)) receiver) :
      AdvanceCase exchange before (.ended .done)
        ({ before.check with receiver }.abandon exchange.part.command
          (FrameError.oversized size max).message)
  | failed {error : FrameError} {receiver : Receiver}
      (looks : before.Looks exchange (.error error) receiver) (lasting : error.isTimeout = false)
      (small : ∀ size max, error ≠ .oversized size max) :
      AdvanceCase exchange before (.ended (.failed (.frame error))) { before.check with receiver }

theorem advance_cases {exchange : Exchange} {session after : Session} {progress : Progress}
    (advanced : session.advance exchange = (progress, after)) :
    AdvanceCase exchange session progress after := by
  simp only [advance] at advanced
  split at advanced
  · rename_i running
    split at advanced
    · rename_i limit late
      cases advanced
      exact .expired running late
    · rename_i inTime
      split at advanced
      · rename_i frame receiver stepped
        cases advanced
        exact .arrived ⟨running, inTime, stepped⟩
      · rename_i receiver stepped
        cases advanced
        exact .incomplete ⟨running, inTime, stepped⟩
      · rename_i error receiver stepped
        have looks : session.Looks exchange (.error error) receiver := ⟨running, inTime, stepped⟩
        split at advanced
        · rename_i timeout
          split at advanced
          · rename_i hopeless
            cases advanced
            exact .forsaken looks timeout hopeless
          · rename_i hopeful
            cases advanced
            exact .idle looks timeout (Bool.eq_false_iff.mpr hopeful)
        · rename_i lasting
          split at advanced
          · cases advanced
            exact .oversized looks
          · rename_i small
            cases advanced
            exact .failed looks (Bool.eq_false_iff.mpr lasting) small
  · rename_i stopped
    cases advanced
    exact .cancelled (Bool.eq_false_iff.mpr stopped)

/-! ## Lines that are taken up -/

/-- The session has taken up a command. -/
def heed (command : Command) (session : Session) : Session :=
  session
    |>.note .debug "dispatching device command" [("command", .quoted command.literal)]
    |>.count (fun tally => { tally with commands := tally.commands + 1 })

theorem dispatch_of_ofLine? {line : String} {command : Command} {session : Session}
    (known : Command.ofLine? line = some command) :
    session.dispatch line = (session.heed command).obey command := by
  rw [dispatch, known]
  rfl

/-- A line that announces key material begins an exchange. -/
theorem dispatch_of_announced {line : String} {part : KeyPart} {session : Session}
    (announced : KeyPart.announcedBy? line = some part) :
    session.dispatch line = (session.heed part.command).exchange ⟨part, session.clock⟩ := by
  rw [dispatch_of_ofLine?
    (Command.ofLine?_eq_some_iff.mpr (KeyPart.announcedBy?_eq_some announced))]
  cases part with
  | certificate => rfl
  | publicKey => rfl

theorem obey_of_asks {command : Command} {session : Session} (asks : command.asks = true) :
    session.obey command =
      (.ofAnswer (session.respond command (command.answer session.profile session.files)).1,
        (session.respond command (command.answer session.profile session.files)).2) := by
  cases command with
  | ekCert | ekPublic | success | failure => cases asks
  | requestMac | hostCheck | deviceCert | ekCertificate | smbiosSerial =>
    simp only [obey]
    split
    all_goals
      rename_i responded
      rw [responded]
      rfl

/-- The device has reported that it is provisioned. -/
def reportSuccess (session : Session) : Session :=
  session
    |>.note .info "device reported provisioning success" []
    |>.count (fun tally => { tally with provisioned := true })
    |>.deliver (.provisioned successMessage)

/-- The device has reported that a step of its own has failed. -/
def reportFailure (step : FailedStep) (session : Session) : Session :=
  session
    |>.note .warn step.message [("failure", .quoted step.literal)]
    |>.count (fun tally => { tally with deviceFailures := tally.deviceFailures + 1 })
    |>.deliver (.deviceFailure step)

/-- A line that is no command is shown to the operator. -/
def echo (line : String) (session : Session) : Session :=
  session
    |>.count (fun tally => { tally with echoed := tally.echoed + 1 })
    |>.deliver (.echo line)

/-- The cases of a line that announces no key material. -/
inductive DispatchCase (line : String) (before : Session) : Ending → Session → Prop where
  | echoed (unknown : Command.ofLine? line = none) :
      DispatchCase line before .done (before.echo line)
  | answered {command : Command} {result : Except SessionError Unit} {after : Session}
      (known : Command.ofLine? line = some command) (asks : command.asks = true)
      (responded : (before.heed command).respond command
        (command.answer before.profile before.files) = (result, after)) :
      DispatchCase line before (.ofAnswer result) after
  | provisioned (known : Command.ofLine? line = some .success) :
      DispatchCase line before .done (before.heed .success).reportSuccess
  | deviceFailure {step : FailedStep} (known : Command.ofLine? line = some (.failure step)) :
      DispatchCase line before .done ((before.heed (.failure step)).reportFailure step)

theorem dispatch_cases {line : String} {session after : Session} {ending : Ending}
    (ordinary : KeyPart.announcedBy? line = none)
    (dispatched : session.dispatch line = (ending, after)) :
    DispatchCase line session ending after := by
  cases known : Command.ofLine? line with
  | none =>
    rw [dispatch, known] at dispatched
    cases dispatched
    exact .echoed known
  | some command =>
    rw [dispatch_of_ofLine? known] at dispatched
    cases asks : command.asks with
    | true =>
      rw [obey_of_asks asks] at dispatched
      cases dispatched
      exact .answered known asks rfl
    | false =>
      cases command with
      | success =>
        cases dispatched
        exact .provisioned known
      | failure step =>
        cases dispatched
        exact .deviceFailure known
      | ekCert | ekPublic =>
        rw [Command.ofLine?_eq_some_iff.mp known] at ordinary
        cases ordinary
      | requestMac | hostCheck | deviceCert | ekCertificate | smbiosSerial => cases asks

/-! ## Turns -/

/-- The run goes on, and this comes of waiting for a line. -/
structure Hears (before : Session) (heard : Except SessionError Heard) (after : Session) :
    Prop where
  running : before.check.running = true
  listened : before.check.listen = (heard, after)

/-- The line of text that the next turn of a run takes up, and the session that has read it. -/
def heard? (session : Session) : Option (String × Session) :=
  let session := session.check
  if session.running then
    match session.listen with
    | (.ok (.line text), session) =>
      some (text, session.count fun tally => { tally with lines := tally.lines + 1 })
    | _ => none
  else none

/-- Hearing a line is reading it and counting it. -/
theorem heard?_eq_some_iff {session middle : Session} {line : String} :
    session.heard? = some (line, middle) ↔
      ∃ after, session.Hears (.ok (.line line)) after ∧
        middle = after.count fun tally => { tally with lines := tally.lines + 1 } := by
  constructor
  · intro heard
    simp only [heard?] at heard
    split at heard
    · rename_i running
      split at heard
      · rename_i listened
        cases heard
        exact ⟨_, ⟨running, listened⟩, rfl⟩
      · cases heard
    · cases heard
  · rintro ⟨after, hears, rfl⟩
    simp only [heard?, hears.running, hears.listened, if_true]

/-- A line that is not text is skipped. -/
def skip (size : Nat) (session : Session) : Session :=
  session
    |>.note .debug "skipping undecodable line" [("size", .number size)]
    |>.count (fun tally => { tally with undecodable := tally.undecodable + 1 })
    |>.deliver (.undecodable size)

inductive TurnCase (before : Session) : Turn → Session → Prop where
  | stopped (stopped : before.check.running = false) : TurnCase before .stopped before.check
  | failed {error : SessionError} {after : Session} (hears : before.Hears (.error error) after) :
      TurnCase before (.failed error) after
  | hungUp {after : Session} (hears : before.Hears (.ok .hungUp) after) :
      TurnCase before .stopped (after.note .info "device closed the link" [])
  | quiet {after : Session} (hears : before.Hears (.ok .quiet) after)
      (hopeful : after.isForsaken = false) : TurnCase before .onward after
  | forsaken {after : Session} (hears : before.Hears (.ok .quiet) after)
      (forsaken : after.isForsaken = true) : TurnCase before (.waiting none) after
  | skipped {size : Nat} {after : Session} (hears : before.Hears (.ok (.undecodable size)) after) :
      TurnCase before .onward (after.skip size)
  | line {text : String} {middle last after : Session} {ending : Ending} {turn : Turn}
      (heard : before.heard? = some (text, middle))
      (dispatched : middle.dispatch text = (ending, last))
      (settled : last.settle ending = (turn, after)) : TurnCase before turn after

theorem turn_cases {session after : Session} {outcome : Turn}
    (turned : session.turn = (outcome, after)) : session.TurnCase outcome after := by
  simp only [turn] at turned
  split at turned
  · rename_i running
    split at turned
    · rename_i listened
      cases turned
      exact .failed ⟨running, listened⟩
    · rename_i listened
      cases turned
      exact .hungUp ⟨running, listened⟩
    · rename_i listened
      split at turned
      · rename_i forsaken
        cases turned
        exact .forsaken ⟨running, listened⟩ forsaken
      · rename_i hopeful
        cases turned
        exact .quiet ⟨running, listened⟩ (Bool.eq_false_iff.mpr hopeful)
    · rename_i listened
      cases turned
      exact .skipped ⟨running, listened⟩
    · rename_i listened
      exact .line (heard?_eq_some_iff.mpr ⟨_, ⟨running, listened⟩, rfl⟩) rfl turned
  · rename_i stopped
    cases turned
    exact .stopped (Bool.eq_false_iff.mpr stopped)

/-- A turn that hears a line of text takes it up. -/
theorem turn_of_heard? {session middle : Session} {line : String}
    (heard : session.heard? = some (line, middle)) :
    session.turn = (middle.dispatch line).2.settle (middle.dispatch line).1 := by
  obtain ⟨after, hears, rfl⟩ := heard?_eq_some_iff.mp heard
  simp only [turn, hears.running, hears.listened, if_true]

/-- The first turn of a loop, and how the loop goes on from there. -/
theorem loop_eq (session : Session) :
    session.loop = match session.turn with
      | (.onward, after) => after.loop
      | (.stopped, after) => (.finished after.tally, after)
      | (.failed error, after) => (.failed error, after)
      | (.waiting pending, after) => (.waiting pending, after) := by
  rw [loop]
  split
  all_goals
    rename_i turned
    rw [turned]

end Session

end Provisioning
