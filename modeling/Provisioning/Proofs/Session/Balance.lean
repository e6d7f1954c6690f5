import Provisioning.Proofs.Session.Outcome

/-! # The counters account for every line

Every event but one has a counter of its own, and telling the operator and counting are one thing:
`Ledger.report`. The exception is key material, which is counted when it has been recorded. Besides,
every line that was taken up has been echoed or was a command, and every command has come out in one
way: it was answered, recorded, reported by the device, found to have a wrong checksum or abandoned,
or its line failed.

`Balanced` states these laws for the books in the middle of a line as well, when the command that
was taken up last is still pending, or key material that was told is not yet recorded. Each entry
into the books keeps them (`Balanced.report` and its like), hence each way in which a line can come
out, each move of a session and each course.
-/

namespace Provisioning

/-- What an event tells, without the particulars. -/
inductive Event.Kind where
  | echo
  | undecodable
  | served
  | keyMaterial
  | provisioned
  | deviceFailure
  | checksumMismatch
  | abandoned
  deriving DecidableEq, Repr

namespace Event

def kind : Event → Kind
  | echo _ => .echo
  | undecodable _ => .undecodable
  | served _ _ => .served
  | keyMaterial _ _ _ => .keyMaterial
  | provisioned _ => .provisioned
  | deviceFailure _ => .deviceFailure
  | checksumMismatch _ _ _ => .checksumMismatch
  | abandoned _ _ => .abandoned

/-- The event says how a command came out. -/
def settles : Event → Bool
  | served _ _ | provisioned _ | deviceFailure _ | checksumMismatch _ _ _ | abandoned _ _ => true
  | echo _ | undecodable _ | keyMaterial _ _ _ => false

/-- How many of the events are of a kind. -/
def told (kind : Kind) (events : List Event) : Nat := events.countP (·.kind = kind)

@[simp] theorem told_append_singleton (kind : Kind) (events : List Event) (event : Event) :
    told kind (events ++ [event]) = told kind events + if event.kind = kind then 1 else 0 := by
  simp [told, List.countP_append, List.countP_singleton]

end Event

/-- The counter of an event. Key material is counted when it is recorded. -/
def Tally.credit (event : Event) (tally : Tally) : Tally :=
  match event with
  | .echo _ => { tally with echoed := tally.echoed + 1 }
  | .undecodable _ => { tally with undecodable := tally.undecodable + 1 }
  | .served _ _ => { tally with served := tally.served + 1 }
  | .keyMaterial _ _ _ => tally
  | .provisioned _ => { tally with provisioned := true }
  | .deviceFailure _ => { tally with deviceFailures := tally.deviceFailures + 1 }
  | .checksumMismatch _ _ _ => { tally with checksumMismatches := tally.checksumMismatches + 1 }
  | .abandoned _ _ => { tally with abandoned := tally.abandoned + 1 }

namespace Ledger

/-- The operator is told, and what is told is counted. -/
def report (event : Event) (ledger : Ledger) : Ledger :=
  ledger.count (Tally.credit event) |>.tell event

/-- The laws of the books, given how many lines a run has taken up, how many lines have been taken
up at all, how many of them have failed, how many commands are pending, and how much key material
that was told is not recorded. -/
structure Balanced (books : Ledger) (lines taken failed pending unrecorded : Nat) : Prop where
  echoed : books.tally.echoed = Event.told .echo books.events
  undecodable : books.tally.undecodable = Event.told .undecodable books.events
  served : books.tally.served = Event.told .served books.events
  deviceFailures : books.tally.deviceFailures = Event.told .deviceFailure books.events
  checksumMismatches : books.tally.checksumMismatches = Event.told .checksumMismatch books.events
  abandoned : books.tally.abandoned = Event.told .abandoned books.events
  provisioned : books.tally.provisioned = true ↔ 0 < Event.told .provisioned books.events
  keyMaterial : Event.told .keyMaterial books.events = books.tally.keyRecords + unrecorded
  lines : books.tally.lines = lines
  taken : books.tally.commands + books.tally.echoed = taken
  commands : books.tally.commands =
    books.tally.served + books.tally.keyRecords + books.tally.deviceFailures +
      books.tally.checksumMismatches + books.tally.abandoned +
      Event.told .provisioned books.events + failed + pending

namespace Balanced

variable {lines taken failed pending unrecorded : Nat} {books : Ledger}

theorem lineRead (balanced : books.Balanced lines taken failed pending unrecorded) :
    books.lineRead.Balanced (lines + 1) taken failed pending unrecorded :=
  { balanced with lines := congrArg (· + 1) balanced.lines }

theorem heed (balanced : books.Balanced lines taken failed pending unrecorded) :
    books.heed.Balanced lines (taken + 1) failed (pending + 1) unrecorded where
  __ := balanced
  taken := by
    have := balanced.taken
    simp only [Ledger.heed, count]
    omega
  commands := congrArg (· + 1) balanced.commands

theorem write (balanced : books.Balanced lines taken failed pending unrecorded) (bytes : Bytes) :
    (books.write bytes).Balanced lines taken failed pending unrecorded :=
  { balanced with }

/-- The command that was pending has failed. -/
theorem fail (balanced : books.Balanced lines taken failed (pending + 1) unrecorded) :
    books.Balanced lines taken (failed + 1) pending unrecorded where
  __ := balanced
  commands := by
    have := balanced.commands
    omega

/-- A report counts what it tells, and one that says how a command came out settles the command. -/
theorem report (event : Event)
    (balanced : books.Balanced lines taken failed (pending + event.settles.toNat) unrecorded) :
    (books.report event).Balanced lines (taken + (event.kind == .echo).toNat) failed pending
      (unrecorded + (event.kind == .keyMaterial).toNat) := by
  obtain ⟨echoed, undecodable, served, deviceFailures, checksumMismatches, abandoned, provisioned,
    keyMaterial, rfl, rfl, commands⟩ := balanced
  cases event with
  | served | deviceFailure | checksumMismatch | abandoned | provisioned =>
    simp only [Event.settles, Bool.toNat_true] at commands
    constructor <;> simp [Ledger.report, tell, count, Tally.credit, Event.kind, *]
    all_goals omega
  | echo | undecodable | keyMaterial =>
    simp only [Event.settles, Bool.toNat_false] at commands
    constructor <;> simp [Ledger.report, tell, count, Tally.credit, Event.kind, *]
    all_goals omega

/-- Key material that was told has been recorded. -/
theorem record (balanced : books.Balanced lines taken failed (pending + 1) (unrecorded + 1)) :
    (books.count fun tally => { tally with keyRecords := tally.keyRecords + 1 }).Balanced
      lines taken failed pending unrecorded where
  __ := balanced
  keyMaterial := by
    have := balanced.keyMaterial
    simp only [count]
    omega
  commands := by
    have := balanced.commands
    simp only [count]
    omega

theorem concludes {part : KeyPart} {refused : Nat} {after : Ledger}
    (balanced : books.Balanced lines taken failed (pending + 1) unrecorded)
    (concludes : books.Concludes part refused after) :
    after.Balanced lines taken failed pending (unrecorded + refused) := by
  cases concludes with
  | abandoned reason => exact balanced.report (.abandoned part.command reason)
  | mismatched declared computed => exact balanced.report (.checksumMismatch part declared computed)
  | recorded size encoded => exact (balanced.report (.keyMaterial part size encoded)).record
  | refused size encoded reason =>
    exact (balanced.report (.keyMaterial part size encoded)).report (.abandoned part.command reason)

end Balanced

end Ledger

/-- The line has failed. -/
def Ending.isFailed : Ending → Bool
  | .failed _ => true
  | .done | .waiting _ => false

namespace Session

theorem Outcome.balanced {line : String} {before after : Session} {acts : List Act}
    {ending : Ending} {lines taken failed unrecorded : Nat}
    (outcome : Outcome line before acts ending after)
    (balanced : before.books.Balanced lines taken failed 0 unrecorded) :
    after.books.Balanced lines (taken + 1) (failed + ending.isFailed.toNat) ending.standing.pending
      (unrecorded + refusals acts) := by
  cases outcome with
  | echoed unknown books => exact books ▸ balanced.report (.echo line)
  | served known books flushed =>
    rw [books]
    exact (balanced.heed.write _).report (.served _ _)
  | abandoned books =>
    rw [books]
    exact balanced.heed.report (.abandoned _ _)
  | provisioned books =>
    rw [books]
    exact balanced.heed.report (.provisioned _)
  | deviceFailure books =>
    rw [books]
    exact balanced.heed.report (.deviceFailure _)
  | concluded concludes => exact balanced.heed.concludes concludes
  | failed unrefused beginning books =>
    rw [books, unrefused]
    exact (balanced.heed.write _).fail
  | waiting unrefused books =>
    rw [books, unrefused]
    exact balanced.heed

/-- The books at a point are balanced, given all that has happened. -/
def Point.Balanced (acts : List Act) (point : Point) : Prop :=
  point.session.books.Balanced ((dispatches acts).countP Dispatch.inRun) (dispatches acts).length
    ((dispatches acts).countP fun dispatch => dispatch.ending.isFailed) point.standing.pending
    (refusals acts)

namespace Point.Balanced

variable {past acts : List Act}

/-- Nothing is taken up and nothing entered into the books. -/
theorem onward {before after : Point} (balanced : before.Balanced past)
    (untaken : dispatches acts = []) (unrefused : refusals acts = 0)
    (books : after.session.books = before.session.books)
    (pending : after.standing.pending = before.standing.pending) :
    after.Balanced (past ++ acts) := by
  rw [Point.Balanced, dispatches_append, refusals_append, untaken, unrefused, books, pending,
    List.append_nil]
  exact balanced

/-- A line is taken up. -/
theorem dispatched {dispatch : Dispatch}
    (taken : Dispatches dispatch.line dispatch.before acts dispatch.ending dispatch.after)
    (balanced : dispatch.before.books.Balanced
      ((dispatches past).countP Dispatch.inRun + dispatch.inRun.toNat) (dispatches past).length
      ((dispatches past).countP fun dispatch => dispatch.ending.isFailed) 0 (refusals past)) :
    (Point.ended dispatch.inRun dispatch.ending dispatch.after).Balanced
      (past ++ .dispatched dispatch :: acts) := by
  have counted := taken.outcome.balanced balanced
  have refused : refusals (.dispatched dispatch :: acts) = refusals acts :=
    List.countP_cons_of_neg (by simp [Act.isRefusal])
  rw [Point.Balanced, books_ended, pending_ended, dispatches_append, taken.dispatches,
    refusals_append, refused, List.countP_append, List.countP_append, List.countP_singleton,
    List.countP_singleton, List.length_append]
  cases running : dispatch.inRun <;> cases failed : dispatch.ending.isFailed <;>
    simpa [running, failed] using counted

end Point.Balanced

theorem Move.balanced {before after : Point} {past acts : List Act}
    (move : Move before acts after) (balanced : before.Balanced past) :
    after.Balanced (past ++ acts) := by
  cases move with
  | begin session => exact balanced.onward rfl rfl (books_note _ _ _ _) rfl
  | @turn session unheard =>
    obtain ⟨none, kept | ⟨size, told⟩⟩ := books_turn unheard
    · exact balanced.onward (dispatches_turnActs _) (refusals_turnActs _) kept none
    · have entered := Ledger.Balanced.report (.undecodable size)
        (balanced.onward (dispatches_turnActs session) (refusals_turnActs session) rfl rfl)
      rw [Point.Balanced, told, none]
      exact entered
  | @heard session middle after line acts ending heard taken =>
    have quiet := balanced.onward (dispatches_turnActs session) (refusals_turnActs session) rfl rfl
    rw [← List.append_assoc]
    refine .dispatched taken ?_
    rw [books_of_heard? heard]
    exact quiet.lineRead
  | listen session => exact balanced.onward rfl rfl (books_listen session) rfl
  | dispatch taken => exact .dispatched taken balanced
  | disturbed => exact balanced.onward rfl rfl (books_disturbed _ _ _ _) rfl

theorem Course.balanced {before after : Point} {past acts : List Act}
    (course : Course before acts after) (balanced : before.Balanced past) :
    after.Balanced (past ++ acts) := by
  induction course generalizing past with
  | nil => rwa [List.append_nil]
  | cons move rest ih =>
    rw [← List.append_assoc]
    exact ih (move.balanced balanced)

end Session

end Provisioning
