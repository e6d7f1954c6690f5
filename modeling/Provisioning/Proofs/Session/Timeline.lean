import Provisioning.Proofs.Session.Instant

/-! # A run as a path of instants

Every call that a run is made of goes from one instant to another: reading once more (`fill_waits`),
waiting for a line (`awaitLine_becomes`), a step towards a frame (`stepFrame_waits`), an exchange, a
turn, and in the end the run itself (`run_becomes`). While an exchange waits for its frame, nothing
else is waited for (`Waits`), and then it leaves the frame for good (`Leaves`).
-/

namespace Provisioning

/-- What is waited for. -/
def Stage.purpose? : Stage → Option Purpose
  | checking purpose | deciding purpose | looking purpose _ | reading purpose
  | answered purpose _ => some purpose
  | idle | shown _ _ | ended _ => none

namespace Instant

open Session

/-! ## Waiting -/

/-- This is waited for. -/
def Wants (purpose : Purpose) (instant : Instant) : Prop := instant.stage.purpose? = some purpose

theorem Path.becomes {holds : Instant → Prop} {first last : Instant} {deeds : List Deed}
    (path : Path Does holds first deeds last) : first.Becomes last :=
  ⟨deeds, path.imp id fun _ => trivial⟩

/-- From one instant to the other nothing else is waited for. -/
def Waits (purpose : Purpose) (first last : Instant) : Prop :=
  ∃ deeds, Path Does (Wants purpose) first deeds last

namespace Waits

variable {purpose : Purpose} {first middle last : Instant} {deeds : List Deed}

theorem refl (here : first.Wants purpose) : Waits purpose first first := ⟨[], .nil here⟩

theorem trans (left : Waits purpose first middle) (right : Waits purpose middle last) :
    Waits purpose first last := by
  obtain ⟨deeds, left⟩ := left
  obtain ⟨more, right⟩ := right
  exact ⟨deeds ++ more, left.append right⟩

theorem step (waits : Waits purpose first middle) (step : Does middle deeds last)
    (here : last.Wants purpose) : Waits purpose first last := by
  obtain ⟨done, path⟩ := waits
  exact ⟨_, path.snoc step here⟩

theorem becomes (waits : Waits purpose first last) : first.Becomes last := by
  obtain ⟨deeds, path⟩ := waits
  exact path.becomes

end Waits

/-- What a failure of the receiving side makes of what a read has come back with. -/
inductive Failure : Except IoError Bytes → FrameError → Prop where
  | hungUp : Failure (.ok []) .closed
  | broken {cause : IoError} (kind : cause.kind ≠ .interrupted) :
      Failure (.error cause) (.io cause)

/-- Where waiting may go on a read has failed, and only for now. -/
theorem Failure.of_isTimeout {result : Except IoError Bytes} {error : FrameError}
    (failure : Failure result error) (timeout : error.isTimeout = true) :
    ∃ cause, result = .error cause ∧ cause.kind.isTimeout = true := by
  cases failure with
  | hungUp => cases timeout
  | broken _ => exact ⟨_, rfl, timeout⟩

/-! ## Reads -/

private theorem read_waits (purpose : Purpose) (session : Session) {source after : Source}
    {result : Except IoError Bytes} (reading : source.read readChunkSize = (result, after)) :
    Waits purpose ⟨.reading purpose, session.withSource source⟩
      ⟨.answered purpose result, session.withSource after⟩ := by
  have read := Does.read purpose (session.withSource source)
  change Does _ _ ⟨.answered purpose (source.read readChunkSize).1,
    session.withSource (source.read readChunkSize).2⟩ at read
  rw [reading] at read
  exact ⟨_, .single rfl read rfl⟩

private theorem draw_waits (purpose : Purpose) (session : Session) {source after : Source}
    {result : Except IoError Bytes} (drawn : source.draw readChunkSize = (result, after)) :
    Waits purpose ⟨.reading purpose, session.withSource source⟩
      ⟨.answered purpose result, session.withSource after⟩ := by
  fun_induction Source.draw readChunkSize source with
  | case1 source error next reading interrupted ih =>
    have read := read_waits purpose session reading
    exact (read.step (Does.retry purpose interrupted) rfl).trans (ih drawn)
  | case2 source error next reading other =>
    cases drawn
    exact read_waits purpose session reading
  | case3 source data next reading =>
    cases drawn
    exact read_waits purpose session reading

/-- How reading more goes from a read that is under way. -/
inductive Filled (purpose : Purpose) (session : Session) :
    Except FrameError Unit → Receiver → Prop where
  | more {receiver : Receiver}
      (waits : Waits purpose ⟨.reading purpose, session⟩
        ⟨.looking purpose true, { session with receiver }⟩) :
      Filled purpose session (.ok ()) receiver
  | failed {result : Except IoError Bytes} {error : FrameError} {receiver : Receiver}
      (failure : Failure result error)
      (waits : Waits purpose ⟨.reading purpose, session⟩
        ⟨.answered purpose result, { session with receiver }⟩) :
      Filled purpose session (.error error) receiver

theorem fill_waits (purpose : Purpose) (session : Session) {receiver : Receiver}
    {result : Except FrameError Unit} (filled : session.receiver.fill = (result, receiver)) :
    Filled purpose session result receiver := by
  unfold Receiver.fill at filled
  split at filled
  · rename_i error source drawn
    cases filled
    exact .failed (.broken (Source.draw_error_kind drawn)) (draw_waits purpose session drawn)
  · rename_i source drawn
    cases filled
    exact .failed .hungUp (draw_waits purpose session drawn)
  · rename_i byte bytes source drawn
    cases filled
    have answered := draw_waits purpose session drawn
    exact .more (answered.step (Does.arrive purpose _ byte bytes) rfl)

/-! ## Lines -/

/-- How waiting for a line goes from looking for it. -/
inductive Awaited (filled : Bool) (session : Session) :
    Except FrameError Line → Receiver → Prop where
  | line {line : Line} {rest : Bytes} {more : Bool} {receiver : Receiver}
      (becomes : Becomes ⟨.looking .line filled, session⟩
        ⟨.looking .line more, { session with receiver }⟩)
      (cut : cutLine? receiver.buffer = some (line, rest)) :
      Awaited filled session (.ok line) { receiver with buffer := rest }
  | failed {result : Except IoError Bytes} {error : FrameError} {receiver : Receiver}
      (failure : Failure result error)
      (becomes : Becomes ⟨.looking .line filled, session⟩
        ⟨.answered .line result, { session with receiver }⟩) :
      Awaited filled session (.error error) receiver

theorem awaitLine_becomes (filled : Bool) (session : Session) {start receiver : Receiver}
    {result : Except FrameError Line} (awaited : start.awaitLine = (result, receiver)) :
    Awaited filled { session with receiver := start } result receiver := by
  -- From the second time on a line is looked for, something has been read for it.
  fun_induction Receiver.awaitLine start generalizing filled with
  | case1 start line rest cut =>
    cases awaited
    exact .line (.refl _) cut
  | case2 start uncut next fills ih =>
    have lack : Becomes ⟨.looking .line filled, { session with receiver := start }⟩
        ⟨.reading .line, { session with receiver := start }⟩ := (Does.lackLine uncut).becomes
    cases fill_waits .line { session with receiver := start } fills with
    | more waits =>
      have looks := lack.trans waits.becomes
      cases ih true awaited with
      | line later cut => exact .line (looks.trans later) cut
      | failed failure later => exact .failed failure (looks.trans later)
  | case3 start uncut error next fills =>
    cases awaited
    have lack : Becomes ⟨.looking .line filled, { session with receiver := start }⟩
        ⟨.reading .line, { session with receiver := start }⟩ := (Does.lackLine uncut).becomes
    cases fill_waits .line { session with receiver := start } fills with
    | failed failure waits => exact .failed failure (lack.trans waits.becomes)

/-! ## Frames -/

/-- How a step towards a frame goes from looking for it. -/
inductive Sought (exchange : Exchange) (session : Session) :
    Except FrameError (Option Frame) → Receiver → Prop where
  | taken {filled : Bool} {receiver after : Receiver} {result : Except FrameError (Option Frame)}
      (waits : Waits (.frame exchange) ⟨.looking (.frame exchange) false, session⟩
        ⟨.looking (.frame exchange) filled, { session with receiver }⟩)
      (taken : receiver.takeFrame = (result, after)) (some : result ≠ .ok none) :
      Sought exchange session result after
  | incomplete {receiver : Receiver}
      (waits : Waits (.frame exchange) ⟨.looking (.frame exchange) false, session⟩
        ⟨.checking (.frame exchange), { session with receiver }⟩) :
      Sought exchange session (.ok none) receiver
  | failed {result : Except IoError Bytes} {error : FrameError} {receiver : Receiver}
      (failure : Failure result error)
      (waits : Waits (.frame exchange) ⟨.looking (.frame exchange) false, session⟩
        ⟨.answered (.frame exchange) result, { session with receiver }⟩) :
      Sought exchange session (.error error) receiver

theorem stepFrame_waits (exchange : Exchange) (session : Session) {receiver : Receiver}
    {result : Except FrameError (Option Frame)}
    (stepped : session.receiver.stepFrame = (result, receiver)) :
    Sought exchange session result receiver := by
  have begun : Waits (.frame exchange) ⟨.looking (.frame exchange) false, session⟩
      ⟨.looking (.frame exchange) false, session⟩ := .refl rfl
  unfold Receiver.stepFrame at stepped
  split at stepped
  · rename_i same untaken
    cases Receiver.takeFrame_none untaken
    have lack := begun.step (Does.lackFrame untaken) rfl
    split at stepped
    · rename_i filled fills
      cases fill_waits (.frame exchange) session fills with
      | more waits =>
        have looks := lack.trans waits
        by_cases none : result = .ok none
        · subst none
          cases Receiver.takeFrame_none stepped
          exact .incomplete (looks.step (Does.incomplete stepped) rfl)
        · exact .taken looks stepped none
    · rename_i error filled fills
      cases stepped
      cases fill_waits (.frame exchange) session fills with
      | failed failure waits => exact .failed failure (lack.trans waits)
  · rename_i other
    exact .taken begun stepped (by rintro rfl; exact other _ stepped)

/-- A step that failed for another reason than a length that is too large has failed with a
read. -/
theorem Sought.failure {exchange : Exchange} {session : Session} {error : FrameError}
    {receiver : Receiver} (sought : Sought exchange session (.error error) receiver)
    (small : ∀ size max, error ≠ .oversized size max) :
    ∃ result, Failure result error ∧
      Waits (.frame exchange) ⟨.looking (.frame exchange) false, session⟩
        ⟨.answered (.frame exchange) result, { session with receiver }⟩ := by
  cases sought with
  | failed failure waits => exact ⟨_, failure, waits⟩
  | taken _ taken _ =>
    obtain ⟨size, max, refused⟩ := (Receiver.takeFrame_history taken).2 error rfl
    exact absurd refused (small size max)

/-! ## Exchanges -/

/-- How waiting for a frame ends: a step leaves the exchange, and from then on the frame is not
awaited and nothing is read. -/
def Leaves (exchange : Exchange) (before after : Instant) : Prop :=
  ∃ settling next rest, Does before settling next ∧
    Path Does (fun instant => ¬ instant.Wants (.frame exchange)) next rest after ∧
      (settling ++ rest).countP Deed.isRead = 0

theorem Leaves.at_once {exchange : Exchange} {before after : Instant} {deeds : List Deed}
    (step : Does before deeds after) (away : ¬ after.Wants (.frame exchange))
    (unread : deeds.countP Deed.isRead = 0) : Leaves exchange before after := by
  refine ⟨deeds, after, [], step, .nil away, ?_⟩
  rwa [List.append_nil]

theorem Leaves.becomes {exchange : Exchange} {before after : Instant}
    (leaves : Leaves exchange before after) : before.Becomes after := by
  obtain ⟨_, _, _, step, path, _⟩ := leaves
  exact step.becomes.trans path.becomes

/-- A frame that has been taken is dealt with. -/
theorem accept_leaves {exchange : Exchange} {session : Session} {filled : Bool} {frame : Frame}
    {receiver : Receiver} (taken : session.receiver.takeFrame = (.ok (some frame), receiver)) :
    Leaves exchange ⟨.looking (.frame exchange) filled, session⟩
      ⟨.checking .line, (session.takeFrame frame receiver).accept exchange.part frame⟩ := by
  -- What a record is made of and added to is the same before the operator is shown it and after.
  obtain ⟨profile, files⟩ := display_kept exchange.part frame (session.takeFrame frame receiver)
  have entry : ((session.takeFrame frame receiver).display exchange.part frame).entry exchange.part
      frame = (session.takeFrame frame receiver).entry exchange.part frame := by
    rw [Session.entry, Session.entry, profile]
  have away (session : Session) :
      ¬ Wants (.frame exchange) ⟨.shown exchange.part frame, session⟩ := by rintro ⟨⟩
  have finished (session : Session) : ¬ Wants (.frame exchange) ⟨.checking .line, session⟩ := by
    rintro ⟨⟩
  generalize accepted : (session.takeFrame frame receiver).accept exchange.part frame = after
  cases accept_cases accepted with
  | mismatched wrong => exact .at_once (Does.mismatch taken wrong) (finished _) rfl
  | recorded right appended =>
    rw [← files, ← profile, ← entry] at appended
    exact ⟨_, _, _, Does.display taken right,
      .single (away _) (Does.record appended) (finished _), rfl⟩
  | refused right refused =>
    rw [← files, ← profile, ← entry] at refused
    rw [← files, ← profile]
    exact ⟨_, _, _, Does.display taken right,
      .single (away _) (Does.refuse refused) (finished _), rfl⟩

private theorem expire_tells (exchange : Exchange) (limit : Duration) (session : Session) :
    ∃ event, (session.expire exchange limit).events = session.events.push event := by
  simp only [expire, abandon, deliver]
  split <;> exact ⟨_, rfl⟩

/-- How a step of an exchange goes. -/
inductive Advances (exchange : Exchange) (session : Session) : Progress × Session → Prop where
  | pending {after : Session}
      (waits : Waits (.frame exchange) ⟨.checking (.frame exchange), session⟩
        ⟨.checking (.frame exchange), after⟩) : Advances exchange session (.pending, after)
  | ended {middle : Instant} {ending : Ending} {after : Session}
      (waits : Waits (.frame exchange) ⟨.checking (.frame exchange), session⟩ middle)
      (leaves : Leaves exchange middle (ofTurn (after.settle ending))) :
      Advances exchange session (.ended ending, after)

private theorem advance_advances (exchange : Exchange) (session : Session) :
    Advances exchange session (session.advance exchange) := by
  have begun : Waits (.frame exchange) ⟨.checking (.frame exchange), session⟩
      ⟨.checking (.frame exchange), session⟩ := .refl rfl
  have checked := begun.step (Does.check (.frame exchange) session) rfl
  rcases advanced : session.advance exchange with ⟨progress, after⟩
  have looks {result : Except FrameError (Option Frame)} {receiver : Receiver}
      (looks : session.Looks exchange result receiver) :
      Waits (.frame exchange) ⟨.checking (.frame exchange), session⟩
          ⟨.looking (.frame exchange) false, session.check⟩ ∧
        Sought exchange session.check result receiver :=
    ⟨checked.step (Does.await looks.running looks.inTime) rfl,
      stepFrame_waits exchange session.check looks.stepped⟩
  cases advance_cases advanced with
  | cancelled stopped => exact .ended checked (.at_once (Does.cancel stopped) (by rintro ⟨⟩) rfl)
  | expired running late =>
    obtain ⟨event, told⟩ := expire_tells exchange _ session.check
    exact .ended checked (.at_once (Does.expire running late told) (by rintro ⟨⟩) rfl)
  | arrived looked =>
    obtain ⟨begun, sought⟩ := looks looked
    cases sought with
    | taken waits taken _ => exact .ended (begun.trans waits) (accept_leaves taken)
  | incomplete looked =>
    obtain ⟨begun, sought⟩ := looks looked
    cases sought with
    | taken _ _ some => exact absurd rfl some
    | incomplete waits => exact .pending (begun.trans waits)
  | @idle error receiver looked timeout hopeful =>
    obtain ⟨begun, sought⟩ := looks looked
    obtain ⟨result, failure, waits⟩ := sought.failure (by rintro size max rfl; cases timeout)
    obtain ⟨cause, rfl, quiet⟩ := failure.of_isTimeout timeout
    exact .pending ((begun.trans waits).step (Does.quiet _ quiet hopeful) rfl)
  | forsaken looked timeout hopeless =>
    obtain ⟨begun, sought⟩ := looks looked
    obtain ⟨result, failure, waits⟩ := sought.failure (by rintro size max rfl; cases timeout)
    obtain ⟨cause, rfl, quiet⟩ := failure.of_isTimeout timeout
    exact .ended (begun.trans waits) (.at_once (Does.forsaken _ quiet hopeless) (by rintro ⟨⟩) rfl)
  | oversized looked =>
    obtain ⟨begun, sought⟩ := looks looked
    cases sought with
    | taken waits taken _ =>
      exact .ended (begun.trans waits) (.at_once (Does.oversized taken) (by rintro ⟨⟩) rfl)
    | failed failure => cases failure
  | failed looked lasting small =>
    obtain ⟨begun, sought⟩ := looks looked
    obtain ⟨result, failure, waits⟩ := sought.failure small
    cases failure with
    | hungUp => exact .ended (begun.trans waits) (.at_once (Does.hangUp _ _) (by rintro ⟨⟩) rfl)
    | broken kind =>
      exact .ended (begun.trans waits) (.at_once (Does.fail _ kind lasting) (by rintro ⟨⟩) rfl)

/-- An exchange waits for its frame, and then leaves it. -/
theorem exchange_waits (pending : Exchange) (session : Session) :
    ∃ middle, Waits (.frame pending) ⟨.checking (.frame pending), session⟩ middle ∧
      Leaves pending middle
        (ofTurn ((session.exchange pending).2.settle (session.exchange pending).1)) := by
  fun_induction exchange pending session with
  | case1 session ending after advanced =>
    have once := advance_advances pending session
    rw [advanced] at once
    cases once with
    | ended waits leaves => exact ⟨_, waits, leaves⟩
  | case2 session after advanced ih =>
    have once := advance_advances pending session
    rw [advanced] at once
    cases once with
    | pending waits =>
      obtain ⟨middle, further, leaves⟩ := ih
      exact ⟨middle, waits.trans further, leaves⟩

theorem exchange_becomes (pending : Exchange) (session : Session) :
    Becomes ⟨.checking (.frame pending), session⟩
      (ofTurn ((session.exchange pending).2.settle (session.exchange pending).1)) := by
  obtain ⟨middle, waits, leaves⟩ := exchange_waits pending session
  exact waits.becomes.trans leaves.becomes

/-! ## Runs -/

/-- What is told of a line comes behind what was told before. -/
theorem dispatch_told {line : String} {session after : Session} {ending : Ending}
    (ordinary : KeyPart.announcedBy? line = none)
    (dispatched : session.dispatch line = (ending, after)) :
    ∃ events, after.events.toList = session.events.toList ++ events := by
  have outcome := (Dispatches.ordinary session ordinary).outcome
  rw [dispatched] at outcome
  have behind {ledger : Ledger} {events : List Event} (books : after.books = ledger)
      (told : ledger.events = session.events.toList ++ events) :
      ∃ events, after.events.toList = session.events.toList ++ events := by
    subst books
    exact ⟨events, told⟩
  cases outcome with
  | echoed _ books => exact behind books rfl
  | served _ books _ => exact behind books rfl
  | abandoned books => exact behind books rfl
  | provisioned books => exact behind books rfl
  | deviceFailure books => exact behind books rfl
  | concluded concludes =>
    obtain ⟨events, told⟩ := concludes.told
    exact behind rfl told
  | failed _ _ books => exact behind books (List.append_nil _).symm
  | waiting _ books => exact behind books (List.append_nil _).symm

/-- Waiting for a line in vain ends with a read. -/
theorem listen_failed {session : Session} {receiver : Receiver} {error : FrameError}
    (running : session.check.running = true)
    (awaited : session.check.receiver.awaitLine = (.error error, receiver)) :
    ∃ result, Failure result error ∧
      Becomes ⟨.checking .line, session⟩
        ⟨.answered .line result, { session.check with receiver }⟩ := by
  have begun := (Does.check .line session).becomes.trans (Does.listen running).becomes
  cases awaitLine_becomes false session.check awaited with
  | failed failure becomes => exact ⟨_, failure, begun.trans becomes⟩

/-- Waiting for a line ends where one can be taken off the buffer. -/
theorem listen_heard {session : Session} {after : Receiver} {line : Line}
    (running : session.check.running = true)
    (awaited : session.check.receiver.awaitLine = (.ok line, after)) :
    ∃ filled receiver rest,
      Becomes ⟨.checking .line, session⟩ ⟨.looking .line filled, { session.check with receiver }⟩ ∧
        cutLine? receiver.buffer = some (line, rest) ∧
          session.check.receive line after = Session.take line rest { session.check with receiver }
            := by
  have begun := (Does.check .line session).becomes.trans (Does.listen running).becomes
  cases awaitLine_becomes false session.check awaited with
  | @line _ rest filled receiver becomes cut =>
    refine ⟨filled, receiver, rest, begun.trans becomes, cut, ?_⟩
    cases line <;> rfl

/-- A line of text is taken up. -/
theorem line_becomes {session after : Session} {filled : Bool} {line : Line} {rest : Bytes}
    {text : String} {ending : Ending} (cut : cutLine? session.receiver.buffer = some (line, rest))
    (decoded : Bytes.text? line.text = some text)
    (dispatched : (session.hear line rest).dispatch text = (ending, after)) :
    Becomes ⟨.looking .line filled, session⟩ (ofTurn (after.settle ending)) := by
  cases announced : KeyPart.announcedBy? text with
  | none =>
    obtain ⟨events, told⟩ := dispatch_told announced dispatched
    exact (Does.dispatch cut decoded announced dispatched told).becomes
  | some part =>
    rw [dispatch_of_announced announced] at dispatched
    have exchanged := exchange_becomes ⟨part, (session.hear line rest).clock⟩
      ((session.hear line rest).heed part.command)
    rw [dispatched] at exchanged
    exact (Does.announce cut decoded announced).becomes.trans exchanged

private theorem turn_becomes (session : Session) :
    Becomes ⟨.checking .line, session⟩ (ofTurn session.turn) := by
  rcases turned : session.turn with ⟨outcome, after⟩
  cases turn_cases turned with
  | stopped stopped => exact (Does.check .line session).becomes.trans (Does.stop stopped).becomes
  | failed hears =>
    cases listen_cases hears.listened with
    | failed awaited unclosed lasting =>
      obtain ⟨result, failure, becomes⟩ := listen_failed hears.running awaited
      cases failure with
      | hungUp => exact absurd rfl unclosed
      | broken kind => exact becomes.trans (Does.fail _ kind lasting).becomes
  | hungUp hears =>
    cases listen_cases hears.listened with
    | hungUp awaited =>
      obtain ⟨result, failure, becomes⟩ := listen_failed hears.running awaited
      cases failure with
      | hungUp => exact becomes.trans (Does.hangUp _ _).becomes
  | quiet hears hopeful =>
    cases listen_cases hears.listened with
    | quiet awaited timeout =>
      obtain ⟨result, failure, becomes⟩ := listen_failed hears.running awaited
      obtain ⟨cause, rfl, quiet⟩ := failure.of_isTimeout timeout
      exact becomes.trans (Does.quiet _ quiet ((givesUp_line _).trans hopeful)).becomes
  | forsaken hears forsaken =>
    cases listen_cases hears.listened with
    | quiet awaited timeout =>
      obtain ⟨result, failure, becomes⟩ := listen_failed hears.running awaited
      obtain ⟨cause, rfl, quiet⟩ := failure.of_isTimeout timeout
      exact becomes.trans (Does.forsaken _ quiet ((givesUp_line _).trans forsaken)).becomes
  | skipped hears =>
    cases listen_cases hears.listened with
    | undecodable awaited garbled =>
      obtain ⟨filled, receiver, rest, becomes, cut, taken⟩ := listen_heard hears.running awaited
      rw [taken]
      exact becomes.trans (@Does.skip { session.check with receiver } _ _ _ cut garbled).becomes
  | @line text middle last _ ending _ heard dispatched settled =>
    obtain ⟨_, hears, rfl⟩ := heard?_eq_some_iff.mp heard
    cases listen_cases hears.listened with
    | line awaited decoded =>
      obtain ⟨filled, receiver, rest, becomes, cut, taken⟩ := listen_heard hears.running awaited
      rw [taken] at dispatched
      rw [← settled]
      exact becomes.trans (@line_becomes { session.check with receiver } last filled _ rest text
        ending cut decoded dispatched)

theorem loop_becomes (session : Session) :
    Becomes ⟨.checking .line, session⟩ ⟨.ended session.loop.1, session.loop.2⟩ := by
  have once := turn_becomes session
  fun_induction loop session with
  | case1 session after turned ih =>
    rw [turned] at once
    exact once.trans (ih (turn_becomes after))
  | case2 session after turned =>
    rw [turned] at once
    exact once
  | case3 session error after turned =>
    rw [turned] at once
    exact once
  | case4 session pending after turned =>
    rw [turned] at once
    exact once

/-- Every run is a path from before it begins to its end. -/
theorem run_becomes (session : Session) :
    Becomes ⟨.idle, session⟩ ⟨.ended session.run.1, session.run.2⟩ :=
  (Does.begin session).becomes.trans (loop_becomes _)

end Instant

end Provisioning
