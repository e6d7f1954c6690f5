import Provisioning.Proofs.Link.Results
import Provisioning.Proofs.Session.Endings
import Provisioning.Proofs.Session.Footprint
import Provisioning.Proofs.Session.Timeline

/-! # Every run gets somewhere

A run repeats things in loops inside each other: it takes up lines, waits for a frame, reads again
after an interruption. Some rounds read nothing and some take nothing off the buffer, but none does
neither, except that an exchange which has just been announced may be given up at once. So a line
pays for two checks of the flag, each byte of it being worth two, and every result of a read pays
for one (`Stage.checks`). A read that finds the stream at its end is the last one (`Stage.isOver`).

`Does.affords` says what one step of a run takes off these means and `Path.affords` what a whole
path does, whatever happens to the clock, the flag and the files on it. So over a source that ends
every run returns (`run_progresses`).
-/

namespace Provisioning

namespace Session

/-- How many lines the runs of a session have counted, of text or not. -/
def lineCount (session : Session) : Nat := session.tally.lines + session.tally.undecodable

/-- Nothing has been read or taken off the buffer, no line counted and no check made. -/
structure Rests (before after : Session) : Prop where
  intake : after.intake = before.intake
  interludes : after.interludes = before.interludes
  lineCount : after.lineCount = before.lineCount

namespace Rests

variable {before middle after : Session}

theorem refl (session : Session) : session.Rests session := ⟨rfl, rfl, rfl⟩

theorem trans (left : before.Rests middle) (right : middle.Rests after) : before.Rests after :=
  ⟨right.intake.trans left.intake, right.interludes.trans left.interludes,
    right.lineCount.trans left.lineCount⟩

theorem note (rests : before.Rests middle) (level : Level) (message : String)
    (fields : List (String × Journal.Value)) : before.Rests (middle.note level message fields) :=
  ⟨rests.intake, rests.interludes, rests.lineCount⟩

theorem count (rests : before.Rests middle) {change : Tally → Tally}
    (kept : ∀ tally, (change tally).lines + (change tally).undecodable =
      tally.lines + tally.undecodable) : before.Rests (middle.count change) :=
  ⟨rests.intake, rests.interludes, (kept _).trans rests.lineCount⟩

theorem store (rests : before.Rests middle) (files : FileTree) :
    before.Rests { middle with files } :=
  ⟨rests.intake, rests.interludes, rests.lineCount⟩

theorem deliver (rests : before.Rests middle) (event : Event) :
    before.Rests (middle.deliver event) := by
  refine rests.trans ⟨intake_deliver event middle, ?_, ?_⟩
  · simp only [Session.deliver]
    split <;> rfl
  · simp only [Session.deliver]
    split <;> rfl

theorem abandon (rests : before.Rests middle) (command : Command) (reason : String) :
    before.Rests (middle.abandon command reason) :=
  ((rests.note _ _ _).count (by simp)).deliver _

theorem display (rests : before.Rests middle) (part : KeyPart) (frame : Frame) :
    before.Rests (middle.display part frame) :=
  (rests.note _ _ _).deliver _

theorem reportMismatch (rests : before.Rests middle) (part : KeyPart) (frame : Frame) :
    before.Rests (middle.reportMismatch part frame) :=
  ((rests.note _ _ _).count (by simp)).deliver _

theorem heed (rests : before.Rests middle) (command : Command) :
    before.Rests (middle.heed command) :=
  (rests.note _ _ _).count (by simp)

theorem source (rests : before.Rests after) :
    after.receiver.source.untimed = before.receiver.source.untimed :=
  (congrArg Receiver.source rests.intake :)

theorem buffer (rests : before.Rests after) : after.receiver.buffer = before.receiver.buffer :=
  (congrArg Receiver.buffer rests.intake :)

theorem settle (rests : before.Rests middle) (ending : Ending) :
    before.Rests (middle.settle ending).2 := by
  unfold Session.settle
  split
  · exact rests
  · exact rests
  · split
    · exact rests.note _ _ _
    · exact rests

/-- A line that announces no key material is taken up without a look at the line. -/
theorem dispatch {line : String} (ordinary : KeyPart.announcedBy? line = none)
    (session : Session) : session.Rests (session.dispatch line).2 := by
  have outcome := (Dispatches.ordinary session ordinary).outcome
  have interludes := congrArg Prod.fst (outlook_dispatch ordinary session)
  have intake := intake_dispatch ordinary session
  rcases dispatched : session.dispatch line with ⟨ending, after⟩
  rw [dispatched] at outcome interludes intake
  refine ⟨intake, interludes, ?_⟩
  have kept {ledger : Ledger} (books : after.books = ledger)
      (lines : ledger.tally.lines = session.tally.lines)
      (undecodable : ledger.tally.undecodable = session.tally.undecodable) :
      after.lineCount = session.lineCount := by
    subst books
    exact congrArg₂ (· + ·) lines undecodable
  cases outcome with
  | echoed _ books | served _ books _ | abandoned books | provisioned books | deviceFailure books
  | failed _ _ books | waiting _ books => exact kept books rfl rfl
  | concluded concludes =>
    generalize books : after.books = ledger at concludes
    cases concludes <;> exact kept books rfl rfl

end Rests

/-- A line has been taken off the buffer and counted, and nothing else has happened. -/
structure Counts (before : Session) (rest : Bytes) (after : Session) : Prop where
  receiver : after.receiver = { before.receiver with buffer := rest }
  interludes : after.interludes = before.interludes
  lineCount : after.lineCount = before.lineCount + 1

/-- A check uses up one of the interludes, if any is left. -/
theorem check_interludes (session : Session) :
    session.interludes.length ≤ session.check.interludes.length + 1 := by
  unfold check
  split
  · exact Nat.le_succ _
  · rename_i pending
    rw [pending]
    exact Nat.le_refl _

private theorem hear_counts (line : Line) (rest : Bytes) (session : Session) :
    session.Counts rest (session.hear line rest) := by
  cases line <;> exact ⟨rfl, rfl, Nat.add_right_comm _ _ _⟩

/-- A line that is not text is counted apart. -/
theorem skipped_counts (line : Line) (rest : Bytes) (session : Session) (level : Level)
    (message : String) (fields : List (String × Journal.Value)) :
    session.Counts rest (((session.take line rest).note level message fields).count
      fun tally => { tally with undecodable := tally.undecodable + 1 }) := by
  cases line <;> exact ⟨rfl, rfl, rfl⟩

end Session

/-! ## Means -/

/-- How many checks are left to a run that has just looked in vain for what it waits for. -/
def Purpose.checks : Purpose → Nat
  | line => 0
  | frame _ => 1

namespace Stage

/-- What the read that has come back has brought. -/
def brought : Stage → Bytes
  | answered _ result => Source.readData result
  | idle | checking _ | deciding _ | looking _ _ | reading _ | shown _ _ | ended _ => []

/-- No read is made any more. -/
def isOver : Stage → Bool
  | answered _ (.ok []) | ended _ => true
  | answered _ _ | idle | checking _ | deciding _ | looking _ _ | reading _ | shown _ _ => false

/-- How many checks a run may make before it has to read or take something off its buffer. -/
def checks : Stage → Nat
  | idle | shown _ _ => 1
  | checking purpose => purpose.checks + 1
  | deciding purpose | reading purpose => purpose.checks
  -- An exchange whose frame is not complete after a read goes on with a check.
  | looking purpose filled => if filled then 2 * purpose.checks else purpose.checks
  | answered _ (.ok []) | ended _ => 0
  | answered purpose _ => purpose.checks + 1

private theorem checks_answered_le (purpose : Purpose) (result : Except IoError Bytes) :
    (answered purpose result).checks ≤ purpose.checks + 1 := by
  rcases result with error | (_ | ⟨byte, bytes⟩)
  · exact Nat.le_refl _
  · exact Nat.zero_le _
  · exact Nat.le_refl _

private theorem one_le_checks_looking (exchange : Exchange) (filled : Bool) :
    1 ≤ (looking (.frame exchange) filled).checks := by
  cases filled with
  | false => exact Nat.le_refl 1
  | true => exact Nat.le_succ 1

/-- How many reads a run may make if so many results are to come before the end of the stream. -/
def reads (results : Nat) (stage : Stage) : Nat := if stage.isOver then 0 else results + 1

end Stage

/-- How many bytes the results of reads bring. -/
def bytesIn (results : List (Except IoError Bytes)) : Nat :=
  (results.flatMap Source.readData).length

namespace Instant

open Session

/-- How many bytes the host has, in the buffer or just come back from a read. -/
def held (instant : Instant) : Nat :=
  instant.session.receiver.buffer.length + instant.stage.brought.length

/-- How many checks a run may make if these results of reads are to come. -/
def checks (results : List (Except IoError Bytes)) (instant : Instant) : Nat :=
  2 * (instant.held + bytesIn results) + results.length + instant.stage.checks

/-- From one instant to the other a run makes so many reads and lives within its means: its source
returns these results, and then no more than the end of the stream. -/
structure Affords (results : List (Except IoError Bytes)) (before : Instant) (made : Nat)
    (after : Instant) : Prop where
  yields : after.session.receiver.source.Yields (results.drop made)
  reads : made + after.stage.reads (results.drop made).length ≤ before.stage.reads results.length
  lines : after.session.lineCount + (after.held + bytesIn (results.drop made)) ≤
    before.session.lineCount + (before.held + bytesIn results)
  checks : before.session.interludes.length + after.checks (results.drop made) ≤
    after.session.interludes.length + before.checks results

variable {results : List (Except IoError Bytes)} {before middle after first last : Instant}
  {deeds : List Deed} {stage next : Stage} {session later : Session}

namespace Affords

theorem refl (yields : before.session.receiver.source.Yields results) :
    Affords results before 0 before :=
  ⟨yields, Nat.le_of_eq (Nat.zero_add _), Nat.le_refl _, Nat.le_refl _⟩

theorem trans {here there : Nat} (left : Affords results before here middle)
    (right : Affords (results.drop here) middle there after) :
    Affords results before (here + there) after := by
  obtain ⟨_, leftReads, leftLines, leftChecks⟩ := left
  obtain ⟨yields, rightReads, rightLines, rightChecks⟩ := right
  rw [List.drop_drop] at yields rightReads rightLines rightChecks
  exact ⟨yields, by omega, by omega, by omega⟩

/-- A step that makes no read. -/
theorem of_unread (yields : session.receiver.source.Yields results)
    (source : later.receiver.source.untimed = session.receiver.source.untimed)
    (lasting : stage.isOver ≤ next.isOver)
    (lines : later.lineCount + held ⟨next, later⟩ ≤ session.lineCount + held ⟨stage, session⟩)
    (checks : session.interludes.length + (2 * held ⟨next, later⟩ + next.checks) ≤
      later.interludes.length + (2 * held ⟨stage, session⟩ + stage.checks)) :
    Affords results ⟨stage, session⟩ 0 ⟨next, later⟩ := by
  refine ⟨yields.of_untimed source, ?_, ?_, ?_⟩
  · simp only [Stage.reads, List.drop_zero, Nat.zero_add]
    split
    · exact Nat.zero_le _
    · rename_i unfinished
      exact Nat.le_of_eq (if_neg fun finished => unfinished (lasting finished)).symm
  · simpa only [List.drop_zero, ← Nat.add_assoc, Nat.add_le_add_iff_right] using lines
  · simp only [Instant.checks, List.drop_zero]
    omega

/-- A step that rests with what the session has. -/
theorem of_rests (yields : session.receiver.source.Yields results) (rests : session.Rests later)
    (lasting : stage.isOver ≤ next.isOver)
    (brought : next.brought.length ≤ stage.brought.length)
    (checks : next.checks ≤ stage.checks) :
    Affords results ⟨stage, session⟩ 0 ⟨next, later⟩ := by
  have lineCount := rests.lineCount
  refine .of_unread yields rests.source lasting ?_ ?_
  · simp only [held, rests.buffer]
    omega
  · simp only [held, rests.buffer, rests.interludes]
    omega

/-- A line has been taken off the buffer and counted. It pays for two checks. -/
theorem of_line {line : Line} {rest : Bytes} {counted : Session} {filled : Bool}
    (yields : session.receiver.source.Yields results)
    (cut : cutLine? session.receiver.buffer = some (line, rest))
    (counts : session.Counts rest counted) (rests : counted.Rests later)
    (brought : next.brought = []) (checks : next.checks ≤ 2) :
    Affords results ⟨.looking .line filled, session⟩ 0 ⟨next, later⟩ := by
  have shorter := cutLine?_length_lt cut
  have source : later.receiver.source.untimed = session.receiver.source.untimed :=
    rests.source.trans (congrArg (fun receiver => receiver.source.untimed) counts.receiver)
  have buffer : later.receiver.buffer = rest :=
    rests.buffer.trans (congrArg Receiver.buffer counts.receiver)
  have lineCount : later.lineCount = session.lineCount + 1 :=
    rests.lineCount.trans counts.lineCount
  have interludes : later.interludes = session.interludes :=
    rests.interludes.trans counts.interludes
  have none : (Stage.looking .line filled).brought = [] := rfl
  refine .of_unread yields source (Bool.false_le _) ?_ ?_
  · simp only [held, buffer, brought, none]
    omega
  · simp only [held, buffer, brought, none, interludes]
    omega

/-- Something other than a line has been taken off the buffer. -/
theorem of_taken {receiver : Receiver} (yields : session.receiver.source.Yields results)
    (source : receiver.source = session.receiver.source)
    (shorter : receiver.buffer.length ≤ session.receiver.buffer.length)
    (rests : Session.Rests { session with receiver } later)
    (lasting : stage.isOver ≤ next.isOver)
    (brought : next.brought = []) (checks : next.checks ≤ stage.checks) :
    Affords results ⟨stage, session⟩ 0 ⟨next, later⟩ := by
  have buffer : later.receiver.buffer = receiver.buffer := rests.buffer
  have counts : later.lineCount = session.lineCount := rests.lineCount
  have interludes : later.interludes = session.interludes := rests.interludes
  refine .of_unread yields (rests.source.trans (congrArg Source.untimed source)) lasting ?_ ?_
  · simp only [held, buffer, brought, List.length_nil]
    omega
  · simp only [held, buffer, brought, interludes, List.length_nil]
    omega

/-- A read has come back with the next of the results, or found that none are left. -/
theorem of_read (purpose : Purpose) (yields : session.receiver.source.Yields results) :
    Affords results ⟨.reading purpose, session⟩ 1
      ⟨.answered purpose (session.receiver.source.read readChunkSize).1,
        session.withSource (session.receiver.source.read readChunkSize).2⟩ := by
  obtain ⟨returned, rest⟩ := yields.read
  rw [returned]
  rw [← List.drop_one] at rest
  cases results with
  | nil =>
    refine ⟨rest, Nat.le_refl _, Nat.le_refl _, ?_⟩
    simp [Instant.checks, held, withSource, Stage.brought, Source.readData, Stage.checks]
  | cons result results =>
    have brings : bytesIn (result :: results) =
        (Source.readData result).length + bytesIn results := by
      simp [bytesIn]
    have afterwards :
        (Stage.answered purpose result).reads results.length ≤ results.length + 1 := by
      rw [Stage.reads]
      split <;> omega
    have checked := Stage.checks_answered_le purpose result
    refine ⟨rest, ?_, ?_, ?_⟩
    · change 1 + (Stage.answered purpose result).reads results.length ≤ results.length + 1 + 1
      omega
    · change session.lineCount + (session.receiver.buffer.length +
        (Source.readData result).length + bytesIn results) ≤ session.lineCount +
          (session.receiver.buffer.length + 0 + bytesIn (result :: results))
      omega
    · change session.interludes.length + (2 * (session.receiver.buffer.length +
        (Source.readData result).length + bytesIn results) + results.length +
          (Stage.answered purpose result).checks) ≤ session.interludes.length +
            (2 * (session.receiver.buffer.length + 0 + bytesIn (result :: results)) +
              (results.length + 1) + purpose.checks)
      omega

end Affords

/-! ## Steps and paths -/

private theorem length_takeFrame_le {receiver after : Receiver}
    {result : Except FrameError (Option Frame)}
    (taken : receiver.takeFrame = (result, after)) :
    after.buffer.length ≤ receiver.buffer.length := by
  have lighter := Receiver.takeFrame_weight_le receiver
  rw [taken, Receiver.weight, Receiver.weight, Receiver.source_takeFrame taken] at lighter
  exact Nat.add_le_add_iff_left.mp lighter

private theorem brought_ofTurn (outcome : Turn × Session) :
    (ofTurn outcome).stage.brought = [] := by
  rcases outcome with ⟨turn, session⟩
  cases turn <;> rfl

private theorem checks_ofTurn (outcome : Turn × Session) : (ofTurn outcome).stage.checks ≤ 2 := by
  rcases outcome with ⟨turn, session⟩
  cases turn with
  | onward => exact Nat.le_succ 1
  | stopped | failed | waiting => exact Nat.zero_le 2

/-- Nothing that the program does goes beyond its means. -/
theorem Does.affords (step : Does before deeds after)
    (yields : before.session.receiver.source.Yields results) :
    Affords results before (deeds.countP Deed.isRead) after := by
  cases step with
  | begin session =>
    have noted := (Rests.refl session).note .info "awaiting device commands" []
    exact .of_rests yields noted (Bool.false_le _) (Nat.le_refl _) (Nat.le_refl _)
  | check purpose session =>
    have buffer : session.check.receiver.buffer = session.receiver.buffer :=
      (congrArg Receiver.buffer (intake_check session) :)
    have lineCount : session.check.lineCount = session.lineCount := by
      obtain ⟨_, _, kept⟩ := check_kept session
      rw [kept]
      rfl
    have passed := check_interludes session
    refine .of_unread yields (congrArg Receiver.source (intake_check session) :)
      (Bool.false_le _) ?_ ?_
    · simp only [held, buffer, lineCount, Stage.brought]
      exact Nat.le_refl _
    · simp only [held, buffer, Stage.brought, Stage.checks]
      omega
  | stop | listen | await | lackLine | lackFrame | incomplete | retry | quiet | forsaken | fail =>
    refine .of_rests yields (.refl _) (Bool.false_le _) ?_ ?_
    · simp [Stage.brought]
    · simp [Stage.checks, Purpose.checks]
  | skip cut _ =>
    exact .of_line yields cut (skipped_counts _ _ _ _ _ _) ((Rests.refl _).deliver _) rfl
      (by decide)
  | @dispatch session taken _ line rest text ending events cut _ ordinary dispatched _ =>
    have unread : (Deed.dispatched text :: events.map Deed.told).countP Deed.isRead = 0 := by
      rw [List.countP_cons, Deed.countP_told fun _ => rfl]
      rfl
    have rests := Rests.dispatch ordinary (session.hear line rest)
    rw [dispatched] at rests
    have settled := rests.settle ending
    rw [← session_ofTurn] at settled
    rw [unread]
    exact .of_line yields cut (hear_counts _ _ _) settled (brought_ofTurn _) (checks_ofTurn _)
  | announce cut _ _ =>
    exact .of_line yields cut (hear_counts _ _ _) ((Rests.refl _).heed _) rfl (Nat.le_refl 2)
  | @cancel session exchange =>
    have source : session.receiver.discard.2.source = session.receiver.source := rfl
    exact .of_taken yields source (Nat.zero_le _) (((Rests.refl _).note _ _ _).abandon _ _)
      (Bool.false_le _) rfl (Nat.le_refl 1)
  | @expire session exchange limit event =>
    have source : session.receiver.discard.2.source = session.receiver.source := rfl
    exact .of_taken yields source (Nat.zero_le _) ((Rests.refl _).abandon _ _)
      (Bool.false_le _) rfl (Nat.le_refl 1)
  | oversized taken =>
    have shorter := length_takeFrame_le taken
    exact .of_taken yields (Receiver.source_takeFrame taken) shorter
      ((Rests.refl _).abandon _ _) (Bool.false_le _) rfl (Stage.one_le_checks_looking _ _)
  | mismatch taken _ =>
    have shorter := length_takeFrame_le taken
    exact .of_taken yields (Receiver.source_takeFrame taken) shorter
      (((Rests.refl _).note _ _ _).reportMismatch _ _) (Bool.false_le _) rfl
      (Stage.one_le_checks_looking _ _)
  | display taken _ =>
    have shorter := length_takeFrame_le taken
    exact .of_taken yields (Receiver.source_takeFrame taken) shorter
      (((Rests.refl _).note _ _ _).display _ _) (Bool.false_le _) rfl
      (Stage.one_le_checks_looking _ _)
  | record _ =>
    exact .of_rests yields (((Rests.refl _).store _).count (by simp)) (Bool.false_le _)
      (Nat.le_refl _) (Nat.le_refl _)
  | refuse _ =>
    exact .of_rests yields (((Rests.refl _).store _).abandon _ _) (Bool.false_le _)
      (Nat.le_refl _) (Nat.le_refl _)
  | read purpose session => exact .of_read purpose yields
  | arrive purpose session byte bytes =>
    refine .of_unread yields rfl (Bool.false_le _) ?_ ?_
    · simp [held, Stage.brought, Source.readData, lineCount]
    · cases purpose <;> simp [held, Stage.brought, Source.readData, Stage.checks, Purpose.checks]
  | hangUp purpose session =>
    exact .of_rests yields ((Rests.refl _).note _ _ _) (Bool.le_true _) (Nat.le_refl _)
      (Nat.le_refl _)

theorem Next.affords (step : Next before deeds after)
    (yields : before.session.receiver.source.Yields results) :
    Affords results before (deeds.countP Deed.isRead) after := by
  cases step with
  | does step => exact step.affords yields
  | persist | desert =>
    exact .of_rests yields (.refl _) (Bool.false_le _) (Nat.le_refl _) (by simp [Stage.checks])
  | outside =>
    exact .of_rests yields ⟨rfl, rfl, rfl⟩ (Bool.le_refl _) (Nat.le_refl _) (Nat.le_refl _)

/-- No path goes beyond its means, whatever has been changed from outside on it. -/
theorem Path.affords {holds : Instant → Prop} (path : Path Next holds first deeds last)
    (yields : first.session.receiver.source.Yields results) :
    Affords results first (deeds.countP Deed.isRead) last := by
  induction path with
  | nil => exact .refl yields
  | snoc _ step _ ih =>
    rw [List.countP_append]
    exact ih.trans (step.affords ih.yields)

end Instant

/-! ## Runs -/

namespace Session

/-- So much work has come between two states of a session, of which the source of the first yields
these results: reads have been made, lines counted, and the flag has been checked, every check
having used up one of the interludes. -/
structure Toil (results : List (Except IoError Bytes)) (before : Session) (made : Nat)
    (after : Session) : Prop where
  reads : made ≤ results.length + 1
  lines : after.tally.lines + after.tally.undecodable ≤
    before.tally.lines + before.tally.undecodable +
      (before.receiver.buffer.length + (before.receiver.source.delivered made).length)
  checks : before.interludes.length ≤ after.interludes.length +
    (2 * (before.receiver.buffer.length + bytesIn results) + results.length + 1)

/-- At every instant of a run the work that it has done is bounded by what it has been given. -/
theorem toil_of_path {results : List (Except IoError Bytes)} {holds : Instant → Prop}
    {session : Session} {deeds : List Deed} {instant : Instant}
    (path : Instant.Path Instant.Next holds ⟨.idle, session⟩ deeds instant)
    (yields : session.receiver.source.Yields results) :
    session.Toil results (deeds.countP Deed.isRead) instant.session := by
  obtain ⟨_, reads, lines, checks⟩ := path.affords yields
  have whole : bytesIn results = bytesIn (results.take (deeds.countP Deed.isRead)) +
      bytesIn (results.drop (deeds.countP Deed.isRead)) := by
    rw [bytesIn, bytesIn, bytesIn, ← List.length_append, ← List.flatMap_append,
      List.take_append_drop]
  constructor
  · exact Nat.le_trans (Nat.le_add_right _ _) reads
  · rw [yields.delivered, ← bytesIn]
    simp only [lineCount, Instant.held, Stage.brought, List.length_nil] at lines
    omega
  · simp only [Instant.checks, Instant.held, Stage.brought, Stage.checks, List.length_nil] at checks
    omega

/-- Over a source that returns finitely many results and then the end of the stream every run
returns. It counts no more lines than bytes have come in, and it does not read again after the end
of the stream. The same is true at each of its instants, also if the clock, the flag and the files
are changed from outside at any of them, and however many interludes are in store a run comes to see
only so many. -/
theorem run_progresses {results : List (Except IoError Bytes)} (session : Session)
    (yields : session.receiver.source.Yields results) :
    ((∃ tally, session.run.1 = .finished tally) ∨ ∃ error, session.run.1 = .failed error) ∧
      session.Toil results (session.run.2.receiver.source.reads - session.receiver.source.reads)
        session.run.2 ∧
      ∀ deeds instant, Instant.Path Instant.Next (fun _ => True) ⟨.idle, session⟩ deeds instant →
        session.Toil results (deeds.countP Deed.isRead) instant.session := by
  obtain ⟨deeds, own⟩ := Instant.run_becomes session
  have path := own.imp Instant.Next.does id
  refine ⟨?_, ?_, fun deeds instant path => toil_of_path path yields⟩
  · have ends := run_ends session
    have left := (path.affords yields).yields
    rcases ran : session.run with ⟨outcome, after⟩
    rw [ran] at ends left
    cases outcome with
    | finished tally => exact .inl ⟨tally, rfl⟩
    | failed error => exact .inr ⟨error, rfl⟩
    | waiting pending =>
      -- A run that waits has a source that has fallen silent.
      have silent : after.receiver.source.isSilent = true := by
        simp only [isForsaken, Bool.and_eq_true] at ends
        exact ends.1.2
      rw [left.isSilent_eq_false] at silent
      cases silent
  · have counted : session.run.2.receiver.source.reads =
        session.receiver.source.reads + deeds.countP Deed.isRead := own.tells.reads
    rw [counted, Nat.add_sub_cancel_left]
    exact toil_of_path path yields

/-- A device that announces a certificate in pieces and sends the beginning of a frame, with waits,
an interruption and a request to stop in between, and then hangs up. The flag is set again before
one of the checks. -/
def halting : Session where
  profile := { exchangeLimit := some (.ofMillis 30) }
  receiver := {
    source := { script := [{ delay := 7, outcome := .error (.ofKind .timedOut) },
      { outcome := .ok (Bytes.ofText "kcert\r\n" ++ [9, 0]) },
      { outcome := .error (.ofKind .interrupted) },
      { stops := true, outcome := .error (.ofKind .wouldBlock) },
      { outcome := .ok (Bytes.ofText "\n\n") }] }
    buffer := Bytes.ofText "boot\nMFG:e" }
  transmitter := { sink := { writes := [.fail (.ofKind .interrupted), .take 1] } }
  pauses := [3]
  interludes := [{ delay := 5 }, { running := some true }]

theorem run_progresses_halting :
    ∃ results, results.length = 5 ∧ halting.receiver.source.Yields results ∧
      ((∃ tally, halting.run.1 = .finished tally) ∨ ∃ error, halting.run.1 = .failed error) ∧
      halting.Toil results (halting.run.2.receiver.source.reads - halting.receiver.source.reads)
        halting.run.2 ∧
      ∀ deeds instant, Instant.Path Instant.Next (fun _ => True) ⟨.idle, halting⟩ deeds instant →
        halting.Toil results (deeds.countP Deed.isRead) instant.session := by
  have yields : halting.receiver.source.Yields
      (halting.receiver.source.script.map (·.outcome)) := .of_script rfl rfl (by decide)
  exact ⟨_, rfl, yields, run_progresses halting yields⟩

end Session

end Provisioning
