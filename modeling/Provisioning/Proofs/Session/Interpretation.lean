import Provisioning.Proofs.Session.Attentive
import Provisioning.Proofs.Session.Conduct

/-! # A run computes the meaning of its stream

An attentive session takes up its stream message by message. Where the reads cut the stream, and how
often they come back empty-handed, shows in nothing: a step that only waits leaves stream and ledger
alone, and every other step takes the next message off the stream and puts on the ledger what it
means. `advance_of_attentive` says so for one step of an exchange, `turn_of_attentive` for one turn
of the loop, and `loop_of_attentive` for all turns.
-/

namespace Provisioning

namespace Session

/-! ## Key material -/

section Material

variable {before middle : Session} {rest : Bytes} {ledger : Ledger}

/-- The ledger's files take a record if and only if the session's do. -/
theorem append_of_leaves (leaves : before.Leaves rest ledger middle) (record : String) :
    middle.files.append middle.profile.keyLog (Bytes.ofText record) =
      ledger.files.append before.profile.keyLog (Bytes.ofText record) := by
  have same : middle.files = ledger.files := congrArg Ledger.files leaves.ledger
  rw [same, leaves.profile]

private theorem record_of_leaves_error (leaves : before.Leaves rest ledger middle) {record : String}
    {error : IoError}
    (refused : ledger.files.append before.profile.keyLog (Bytes.ofText record) = .error error) :
    middle.record record = (.error (.keyLog before.profile.keyLog error),
      { middle with files := ledger.files.tried }) := by
  have files : middle.files = ledger.files := congrArg Ledger.files leaves.ledger
  simp only [record_of_append_error ((append_of_leaves leaves _).trans refused), leaves.profile,
    files]

private theorem accept_of_attentive (leaves : before.Leaves rest ledger middle) (part : KeyPart)
    (frame : Frame) :
    before.Leaves rest (ledger.receive before.profile part frame) (middle.accept part frame) := by
  by_cases right : frame.declared = checksum frame.payload
  · have verified : frame.verified = true := by simpa [Frame.verified, Frame.computed] using right
    simp only [accept, verified, if_true, leaves.profile, Ledger.receive, if_pos right]
    have told := (leaves.note .info "key material received" [("kind", .quoted part.label),
      ("received", .number frame.payload.length),
      ("recorded", .number (part.select before.profile.certRange frame.payload).length)]).deliver
        (.keyMaterial part (part.select before.profile.certRange frame.payload).length
          (Base64.mime (part.select before.profile.certRange frame.payload)))
    cases appended : ledger.files.append before.profile.keyLog
        (Bytes.ofText (Base64.mime (part.select before.profile.certRange frame.payload))) with
    | ok files =>
      simp only [record_of_append ((append_of_leaves told _).trans appended)]
      exact (told.store files).count _
    | error error =>
      simp only [record_of_leaves_error told appended]
      exact (told.store ledger.files.tried).abandon _ _
  · have unverified : frame.verified = false := by
      simpa [Frame.verified, Frame.computed] using right
    simp only [accept, unverified, Ledger.receive, if_neg right]
    exact ((leaves.note _ _ _).count _).deliver _

end Material

/-- How a step of an exchange comes out in an attentive session: it goes on waiting with stream and
ledger as they were, or ends with what the stream begins with. -/
inductive SteadyAdvance (before : Session) (pending : Exchange) : Progress → Session → Prop where
  | waiting {after : Session} (leaves : before.Leaves before.stream before.ledger after) :
      SteadyAdvance before pending .pending after
  | material {frame : Frame} {rest : Bytes} {after : Session}
      (decoded : Frame.decode before.profile.maxPayload before.stream = .frame frame rest)
      (leaves :
        before.Leaves rest (before.ledger.receive before.profile pending.part frame) after) :
      SteadyAdvance before pending (.ended .done) after
  | oversized {size : Nat} {rest : Bytes} {after : Session}
      (decoded : Frame.decode before.profile.maxPayload before.stream = .oversized size rest)
      (leaves : before.Leaves rest (before.ledger.abandon pending.part.command
        (FrameError.oversized size before.profile.maxPayload).message) after) :
      SteadyAdvance before pending (.ended .done) after
  | unfinished {after : Session}
      (decoded : Frame.decode before.profile.maxPayload before.stream = .incomplete)
      (ledger : after.ledger = before.ledger) :
      SteadyAdvance before pending (.ended (.failed (.frame .closed))) after

theorem SteadyAdvance.later {before middle after : Session} {pending : Exchange}
    {progress : Progress} (outcome : SteadyAdvance middle pending progress after)
    (leaves : before.Leaves before.stream before.ledger middle) :
    SteadyAdvance before pending progress after := by
  cases outcome with
  | waiting later => exact .waiting (leaves.stream ▸ leaves.ledger ▸ leaves.trans later)
  | material decoded later =>
    rw [leaves.profile, leaves.stream] at decoded
    rw [leaves.profile, leaves.ledger] at later
    exact .material decoded (leaves.trans later)
  | oversized decoded later =>
    rw [leaves.profile, leaves.stream] at decoded
    rw [leaves.profile, leaves.ledger] at later
    exact .oversized decoded (leaves.trans later)
  | unfinished decoded ledger =>
    rw [leaves.profile, leaves.stream] at decoded
    exact .unfinished decoded (ledger.trans leaves.ledger)

/-- An attentive session that waits does not wait for ever: its source comes to an end. -/
theorem Attentive.not_forsaken {session : Session} (attentive : session.Attentive) :
    session.isForsaken = false := by
  have heard : session.receiver.isSilent = false := Source.isSilent_of_steady attentive.steady
  rw [isForsaken, heard, Bool.and_false, Bool.false_and]

theorem advance_of_attentive {session after : Session} {pending : Exchange} {progress : Progress}
    (attentive : session.Attentive) (advanced : session.advance pending = (progress, after)) :
    SteadyAdvance session pending progress after := by
  have checked := attentive.leaves.check
  have unlimited : session.check.expired? pending = none := by
    simp [expired?, checked.attentive.unlimited]
  simp only [advance, checked.attentive.running, if_true, unlimited] at advanced
  have limit : session.check.receiver.maxPayload = session.profile.maxPayload :=
    checked.attentive.receives.trans (congrArg Profile.maxPayload checked.profile)
  have stream : session.check.receiver.stream = session.stream := checked.stream
  rcases stepped : session.check.receiver.stepFrame with ⟨result, receiver⟩
  rw [stepped] at advanced
  cases Receiver.stepFrame_of_steady checked.attentive.steady stepped with
  | frame decoded received =>
    cases advanced
    rw [limit, stream] at decoded
    exact .material decoded
      (accept_of_attentive ((checked.receive received).note _ _ _) pending.part _)
  | oversized decoded received =>
    cases advanced
    rw [limit, stream] at decoded
    rw [limit]
    exact .oversized decoded ((checked.receive received).abandon _ _)
  | incomplete received =>
    cases advanced
    rw [stream] at received
    exact .waiting (checked.receive received)
  | idle again received =>
    rw [stream] at received
    have waits := checked.receive received
    simp only [again, if_true, waits.attentive.not_forsaken, Bool.false_and, Bool.false_eq_true,
      if_false] at advanced
    cases advanced
    exact .waiting waits
  | ended decoded =>
    cases advanced
    rw [limit, stream] at decoded
    exact .unfinished decoded checked.ledger

private theorem exchange_of_attentive {session after : Session} {pending : Exchange}
    {ending : Ending}
    (attentive : session.Attentive) (exchanged : session.exchange pending = (ending, after)) :
    SteadyAdvance session pending (.ended ending) after := by
  fun_induction exchange pending session with
  | case1 session ending next advanced =>
    cases exchanged
    exact advance_of_attentive attentive advanced
  | case2 session next advanced ih =>
    cases advance_of_attentive attentive advanced with
    | waiting leaves => exact (ih leaves.attentive exchanged).later leaves

/-! ## Lines -/

section Lines

variable {before middle : Session} {rest : Bytes} {ledger : Ledger}

theorem Leaves.heed (leaves : before.Leaves rest ledger middle) (command : Command) :
    before.Leaves rest
      (ledger.count fun tally => { tally with commands := tally.commands + 1 })
      (middle.heed command) :=
  (leaves.note _ _ _).count _

private theorem obey_of_attentive (leaves : before.Leaves rest ledger middle) {command : Command}
    (ordinary : KeyPart.announcedBy? command.literal = none) :
    ∃ after, middle.obey command = (.done, after) ∧
      before.Leaves rest (ledger.obey before.profile command) after := by
  cases asks : command.asks with
  | true =>
    have files : middle.files = ledger.files := congrArg Ledger.files leaves.ledger
    obtain ⟨after, responded, kept⟩ := respond_of_attentive leaves command
      (command.answer before.profile ledger.files)
    refine ⟨after, ?_, ?_⟩
    · rw [obey_of_asks asks, files, leaves.profile, responded]
      rfl
    · cases command with
      | ekCert | ekPublic | success | failure => cases asks
      | requestMac | hostCheck | deviceCert | ekCertificate | smbiosSerial => exact kept
  | false =>
    cases command with
    | success => exact ⟨_, rfl, ((leaves.note _ _ _).count _).deliver _⟩
    | failure step => exact ⟨_, rfl, ((leaves.note _ _ _).count _).deliver _⟩
    | ekCert | ekPublic => cases ordinary
    | requestMac | hostCheck | deviceCert | ekCertificate | smbiosSerial => cases asks

theorem dispatch_of_attentive (leaves : before.Leaves rest ledger middle) {line : String}
    (ordinary : KeyPart.announcedBy? line = none) :
    ∃ after, middle.dispatch line = (.done, after) ∧
      before.Leaves rest (ledger.takeUp before.profile line) after := by
  cases known : Command.ofLine? line with
  | none =>
    have account : ledger.takeUp before.profile line =
        (ledger.count (fun tally => { tally with echoed := tally.echoed + 1 })
          |>.tell (.echo line)) := by
      rw [Ledger.takeUp, known]
    rw [account, dispatch, known]
    exact ⟨_, rfl, (leaves.count _).deliver _⟩
  | some command =>
    have account : ledger.takeUp before.profile line =
        (ledger.count (fun tally => { tally with commands := tally.commands + 1 })
          |>.obey before.profile command) := by
      rw [Ledger.takeUp, known]
    rw [Command.ofLine?_eq_some_iff.mp known] at ordinary
    rw [account, dispatch, known]
    exact obey_of_attentive (leaves.heed command) ordinary

end Lines

/-- How waiting for a line comes out in an attentive session. -/
inductive SteadyListen (before : Session) : Except SessionError Heard → Session → Prop where
  | line {line rest : Bytes} {text : String} {after : Session}
      (first : firstLine? before.stream = some (line, rest))
      (decoded : Bytes.text? line = some text) (leaves : before.Leaves rest before.ledger after) :
      SteadyListen before (.ok (.line text)) after
  | garbled {line rest : Bytes} {after : Session}
      (first : firstLine? before.stream = some (line, rest)) (garbled : Bytes.text? line = none)
      (leaves : before.Leaves rest before.ledger after) :
      SteadyListen before (.ok (.undecodable line.length)) after
  | quiet {after : Session} (leaves : before.Leaves before.stream before.ledger after) :
      SteadyListen before (.ok .quiet) after
  | hungUp {after : Session} (none : firstLine? before.stream = none)
      (ledger : after.ledger = before.ledger) : SteadyListen before (.ok .hungUp) after

private theorem listen_of_attentive {session after : Session} {heard : Except SessionError Heard}
    (attentive : session.Attentive) (short : firstRun session.stream < maxLineLength)
    (listened : session.listen = (heard, after)) : SteadyListen session heard after := by
  simp only [listen] at listened
  rcases awaited : session.receiver.awaitLine with ⟨result, receiver⟩
  rw [awaited] at listened
  cases Receiver.awaitLine_of_steady attentive.steady short awaited with
  | line first received =>
    have leaves := attentive.leaves.receive received
    simp only [Line.text] at listened
    split at listened
    · rename_i text decoded
      cases listened
      exact .line first decoded leaves
    · rename_i garbled
      cases listened
      exact .garbled first garbled leaves
  | idle again received =>
    have other : ∀ {error : FrameError}, error.isTimeout = true → error ≠ .closed := by
      rintro error again rfl
      cases again
    simp only [if_neg (other again), again, if_true] at listened
    cases listened
    exact .quiet (attentive.leaves.receive received)
  | ended none =>
    cases listened
    exact .hungUp none rfl

/-- How a turn comes out in an attentive session: it leaves stream and ledger as they were, or takes
the next message off the stream. -/
inductive SteadyTurn (before : Session) : Turn → Session → Prop where
  | idle {after : Session} (leaves : before.Leaves before.stream before.ledger after) :
      SteadyTurn before .onward after
  | message {message : Message} {rest : Bytes} {after : Session}
      (found : firstMessage? before.profile.maxPayload before.stream = some (message, rest))
      (leaves : before.Leaves rest (before.ledger.take before.profile message) after) :
      SteadyTurn before .onward after
  | unfinished {part : KeyPart} {after : Session}
      (found : firstMessage? before.profile.maxPayload before.stream = some (.unfinished part, []))
      (ledger : after.ledger = before.ledger.take before.profile (.unfinished part)) :
      SteadyTurn before .stopped after
  | ended {after : Session}
      (none : firstMessage? before.profile.maxPayload before.stream = none)
      (ledger : after.ledger = before.ledger) : SteadyTurn before .stopped after

theorem SteadyTurn.later {before middle after : Session} {outcome : Turn}
    (result : SteadyTurn middle outcome after)
    (leaves : before.Leaves before.stream before.ledger middle) :
    SteadyTurn before outcome after := by
  cases result with
  | idle later => exact .idle (leaves.stream ▸ leaves.ledger ▸ leaves.trans later)
  | message found later =>
    rw [leaves.profile, leaves.stream] at found
    rw [leaves.profile, leaves.ledger] at later
    exact .message found (leaves.trans later)
  | unfinished found ledger =>
    rw [leaves.profile, leaves.stream] at found
    rw [leaves.profile, leaves.ledger] at ledger
    exact .unfinished found ledger
  | ended none ledger =>
    rw [leaves.profile, leaves.stream] at none
    exact .ended none (ledger.trans leaves.ledger)

section Taken

variable {before middle after : Session} {line rest : Bytes} {text : String} {outcome : Turn}
  (first : firstLine? before.stream = some (line, rest)) (decoded : Bytes.text? line = some text)
  (read : before.Leaves rest before.ledger.lineRead middle)
  (turned : (middle.dispatch text).2.settle (middle.dispatch text).1 = (outcome, after))

include first decoded read turned

private theorem turn_of_ordinary (ordinary : KeyPart.announcedBy? text = none) :
    SteadyTurn before outcome after := by
  obtain ⟨last, dispatched, taken⟩ := dispatch_of_attentive read ordinary
  have found : firstMessage? before.profile.maxPayload before.stream = some (.line text, rest) := by
    simp only [firstMessage?, first, decoded, ordinary]
  rw [dispatched] at turned
  cases turned
  exact .message found taken

private theorem turn_of_announced {part : KeyPart}
    (announced : KeyPart.announcedBy? text = some part) :
    SteadyTurn before outcome after := by
  have begun := read.heed part.command
  rw [dispatch_of_announced announced] at turned
  rcases exchanged : (middle.heed part.command).exchange ⟨part, middle.clock⟩ with ⟨ending, last⟩
  rw [exchanged] at turned
  cases exchange_of_attentive begun.attentive exchanged with
  | material found taken =>
    cases turned
    rw [begun.profile, begun.stream] at found
    rw [begun.profile, begun.ledger] at taken
    exact .message (firstMessage?_of_frame first decoded announced found) (begun.trans taken)
  | oversized found taken =>
    cases turned
    rw [begun.profile, begun.stream] at found
    rw [begun.profile, begun.ledger] at taken
    exact .message (firstMessage?_of_oversized first decoded announced found) (begun.trans taken)
  | unfinished found ledger =>
    cases turned
    rw [begun.profile, begun.stream] at found
    exact .unfinished (firstMessage?_of_incomplete first decoded announced found)
      (ledger.trans begun.ledger)

end Taken

theorem turn_of_attentive {session after : Session} {outcome : Turn} (attentive : session.Attentive)
    (short : firstRun session.stream < maxLineLength) (turned : session.turn = (outcome, after)) :
    SteadyTurn session outcome after := by
  have checked := attentive.leaves.check
  apply SteadyTurn.later _ checked
  rw [← checked.stream] at short
  simp only [turn, checked.attentive.running, if_true] at turned
  rcases listened : session.check.listen with ⟨heard, middle⟩
  rw [listened] at turned
  cases listen_of_attentive checked.attentive short listened with
  | hungUp none ledger =>
    cases turned
    exact .ended (by rw [firstMessage?, none]) ledger
  | quiet leaves =>
    simp only [leaves.attentive.not_forsaken, Bool.false_eq_true, if_false] at turned
    cases turned
    exact .idle leaves
  | @garbled line rest _ first garbled leaves =>
    have found : firstMessage? session.check.profile.maxPayload session.check.stream =
        some (.garbled line.length, rest) := by
      simp only [firstMessage?, first, garbled]
    cases turned
    exact .message found (((leaves.note _ _ _).count _).deliver _)
  | @line line rest text _ first decoded leaves =>
    have read := leaves.count fun tally => { tally with lines := tally.lines + 1 }
    cases announced : KeyPart.announcedBy? text with
    | none => exact turn_of_ordinary first decoded read turned announced
    | some part => exact turn_of_announced first decoded read turned announced

/-! ## Runs -/

theorem loop_of_attentive {session : Session} (attentive : session.Attentive)
    (lines : ShortLines session.profile.maxPayload session.stream) :
    ∃ after, session.loop = (.finished after.tally, after) ∧
      after.ledger = session.ledger.meaning session.profile session.stream := by
  fun_induction loop session with
  | case1 session next turned ih =>
    cases turn_of_attentive attentive lines.short turned with
    | idle leaves =>
      obtain ⟨after, ran, account⟩ :=
        ih leaves.attentive (by rw [leaves.profile, leaves.stream]; exact lines)
      rw [leaves.profile, leaves.stream, leaves.ledger] at account
      exact ⟨after, ran, account⟩
    | message found leaves =>
      obtain ⟨after, ran, account⟩ :=
        ih leaves.attentive (by rw [leaves.profile, leaves.stream]; exact lines.rest found)
      rw [leaves.profile, leaves.stream, leaves.ledger] at account
      refine ⟨after, ran, ?_⟩
      rw [account, Ledger.meaning, Ledger.meaning, messages_of_some found, List.foldl_cons]
  | case2 session next turned =>
    refine ⟨next, rfl, ?_⟩
    cases turn_of_attentive attentive lines.short turned with
    | unfinished found ledger =>
      rw [ledger, Ledger.meaning, messages_of_some found, messages_nil, List.foldl_cons,
        List.foldl_nil]
    | ended none ledger => rw [ledger, Ledger.meaning, messages_of_none none, List.foldl_nil]
  | case3 session error next turned => cases turn_of_attentive attentive lines.short turned
  | case4 session pending next turned => cases turn_of_attentive attentive lines.short turned

/-- A new session whose exchanges have no limit, over a source that brings its bytes in reads of any
sizes with timeouts anywhere between them and then ends, and over a sink that takes everything,
computes the meaning of those bytes: the counters that it returns, the events, the host's files and
the bytes sent to the device. -/
theorem run_eq_meaning (profile : Profile) (source : Source) (sink : Sink) (files : FileTree)
    (interludes : List Interlude) (unlimited : profile.exchangeLimit = none)
    (running : source.running = true) (steady : source.isSteady = true)
    (willing : sink.isWilling = true)
    (undisturbed : ∀ interlude ∈ interludes, interlude.running ≠ some false)
    (lines : ShortLines profile.maxPayload source.toCome) :
    ∃ after : Session,
      run { Session.start profile source sink files with interludes } =
        (.finished after.tally, after) ∧
      after.ledger =
        Ledger.meaning profile { files, written := sink.written } source.toCome := by
  have attentive :
      Attentive { Session.start profile source sink files with interludes } :=
    ⟨running, rfl, undisturbed, unlimited, steady, rfl, rfl, willing⟩
  have begun := attentive.leaves.note .info "awaiting device commands" []
  exact loop_of_attentive begun.attentive lines

/-- A device that announces its public key and sends the two bytes `h` and `i`, in reads that end
inside the line and inside the length, and with a timeout and an interruption in between. -/
def cutKeyMaterial : Source where
  script :=
    [{ outcome := .ok (Bytes.ofText "MFG:ekpub") },
      { outcome := .error (.ofKind .timedOut) },
      { outcome := .ok (Bytes.ofText "lic\r\n" ++ [2, 0]) },
      { outcome := .error (.ofKind .interrupted) },
      { outcome := .ok [0, 0, 104, 105, 209, 0, 0, 0] }]

theorem run_eq_meaning_cutKeyMaterial :
    ∃ after : Session,
      run { Session.start {} cutKeyMaterial {} {} with interludes := [{ delay := 5 }] } =
        (.finished after.tally, after) ∧
      after.ledger = Ledger.meaning {} { files := {} }
        (Bytes.ofText "MFG:ekpublic\r\n" ++ [2, 0, 0, 0, 104, 105, 209, 0, 0, 0]) := by
  have stream : cutKeyMaterial.toCome =
      Bytes.ofText "MFG:ekpublic\r\n" ++ [2, 0, 0, 0, 104, 105, 209, 0, 0, 0] := by decide
  rw [← stream]
  refine run_eq_meaning {} cutKeyMaterial {} {} [{ delay := 5 }] rfl rfl (by decide) rfl ?_ ?_
  · decide
  · exact ShortLines.of_length_lt _ (by rw [stream]; decide)

end Session

end Provisioning
