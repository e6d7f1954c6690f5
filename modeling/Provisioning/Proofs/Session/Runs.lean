import Provisioning.Proofs.Session.Intake
import Provisioning.Proofs.Session.Outcome

/-! # What a run shows of chatter

What a device sends that is no command is shown to the operator: as it came if it is text, and
otherwise by its length. How a run has come by it makes no difference. What it has taken off its
line tells what there is to show (`Reply.chatter`), and the run has shown just that, in this order:
`Runs.shown`.

Lines that are awaited or taken up outside a run are not shown in this way, so `Runs` are the
courses in which nothing is received or taken up but by a run. `run_runs` says that every run is
one.
-/

namespace Provisioning

/-- The event shows the operator something that the device has sent, and that is no command. -/
def Event.isChatter : Event → Bool
  | echo _ | undecodable _ => true
  | served _ _ | keyMaterial _ _ _ | provisioned _ | deviceFailure _ | checksumMismatch _ _ _
  | abandoned _ _ => false

/-- What there is to show of a line, or of a piece of one. -/
def Line.chatter (line : Line) : List Event :=
  match Bytes.text? line.text with
  | some text => if Command.ofLine? text = none then [.echo text] else []
  | none => [.undecodable line.text.length]

/-- What there is to show of what the receiving side has come back with. -/
def Receiver.Reply.chatter : Receiver.Reply → List Event
  | line (.ok received) => received.chatter
  | line (.error _) | frame _ | step _ | dropped _ => []

/-- What there is to show of all that has happened. -/
def chatter (acts : List Act) : List Event := (replies acts).flatMap Receiver.Reply.chatter

@[simp] theorem chatter_append (first second : List Act) :
    chatter (first ++ second) = chatter first ++ chatter second := by
  rw [chatter, replies_append, List.flatMap_append]
  rfl

/-- An exchange shows no chatter. -/
theorem Ledger.Concludes.shown {ledger after : Ledger} {part : KeyPart} {refused : Nat}
    (concludes : ledger.Concludes part refused after) :
    after.events.filter Event.isChatter = ledger.events.filter Event.isChatter := by
  cases concludes <;>
    simp [Ledger.abandon, Ledger.tell, Ledger.count, List.filter_append, Event.isChatter]

/-- What there is to show of what a run hears. -/
def Heard.chatter : Heard → List Event
  | line text => if Command.ofLine? text = none then [.echo text] else []
  | undecodable size => [.undecodable size]
  | quiet | hungUp => []

namespace Session

/-- The chatter that the operator has been shown. -/
def shown (session : Session) : List Event := session.books.events.filter Event.isChatter

private theorem shown_of_books {before after : Session} (same : after.books = before.books) :
    after.shown = before.shown := by
  rw [shown, same, shown]

/-! ## Lines that are taken up -/

theorem Awaits.chatter_eq_nil {exchange : Exchange} {session after : Session} {acts : List Act}
    {ending : Ending} (awaits : Awaits exchange session acts ending after) : chatter acts = [] := by
  have advanced (session : Session) : chatter (session.advanceActs exchange) = [] := by
    rw [chatter, replies_advanceActs, advanceReply]
    split <;> rfl
  induction awaits with
  | ended => exact advanced _
  | onward _ _ _ ih => rw [chatter_append, advanced, ih, List.nil_append]
  | disturbed _ _ _ _ ih => exact ih

theorem Dispatches.chatter_eq_nil {line : String} {session after : Session} {acts : List Act}
    {ending : Ending} (taken : Dispatches line session acts ending after) : chatter acts = [] := by
  cases taken with
  | ordinary _ => rfl
  | announced _ awaits => exact awaits.chatter_eq_nil

/-- A line that is no command is shown, and nothing else is shown of a line that is taken up. -/
theorem Dispatches.shown {line : String} {before after : Session} {acts : List Act}
    {ending : Ending} (taken : Dispatches line before acts ending after) :
    after.shown =
      before.shown ++ if Command.ofLine? line = none then [.echo line] else [] := by
  cases known : Command.ofLine? line with
  | none =>
    cases taken with
    | ordinary ordinary =>
      rcases dispatched : before.dispatch line with ⟨ending, after⟩
      cases dispatch_cases ordinary dispatched with
      | echoed _ =>
        have books : (before.echo line).books = _ := books_deliver _ _
        simp only [Session.shown, books, Ledger.tell, List.filter_append]
        rfl
      | answered command _ _ | provisioned command | deviceFailure command =>
        rw [known] at command
        cases command
    | announced announced _ =>
      rw [KeyPart.announcedBy?_eq_some announced, Command.ofLine?_eq_some_iff.mpr rfl] at known
      cases known
  | some command =>
    rw [if_neg (Option.some_ne_none command), List.append_nil]
    cases taken.outcome with
    | echoed unknown _ =>
      rw [known] at unknown
      cases unknown
    | served _ books _ | abandoned books | provisioned books | deviceFailure books
    | failed _ _ books | waiting _ books =>
      simp [Session.shown, books, Ledger.serve, Ledger.abandon, Ledger.tell, Ledger.count,
        Ledger.write, Ledger.heed, List.filter_append, Event.isChatter]
    | concluded concludes => exact concludes.shown

/-! ## Moves -/

/-- What a run hears is what the receiving side has come back with. -/
theorem Hears.chatter {before after : Session} {heard : Except SessionError Heard}
    (hears : before.Hears heard after) :
    chatter before.turnActs = match heard with
      | .ok heard => heard.chatter
      | .error _ => [] := by
  have acts : Provisioning.chatter before.turnActs =
      (Receiver.Reply.line before.check.receiver.awaitLine.1).chatter := by
    rw [turnActs, if_pos hears.running]
    exact List.flatMap_singleton _ _
  rw [acts]
  cases listen_cases hears.listened with
  | line awaited decoded =>
    rw [awaited, Receiver.Reply.chatter, Line.chatter, decoded]
    rfl
  | undecodable awaited garbled =>
    rw [awaited, Receiver.Reply.chatter, Line.chatter, garbled]
    rfl
  | hungUp awaited | quiet awaited _ | failed awaited _ _ =>
    rw [awaited]
    rfl

private theorem turn_shown {session : Session} (unheard : session.heard? = none) :
    session.turn.2.shown = session.shown ++ chatter session.turnActs := by
  have silent {heard : Except SessionError Heard} {middle after : Session}
      (hears : session.Hears heard middle) (same : after.books = middle.books)
      (none : chatter session.turnActs = []) :
      after.shown = session.shown ++ chatter session.turnActs := by
    rw [none, List.append_nil]
    exact shown_of_books (same.trans (books_hears hears))
  rcases turned : session.turn with ⟨outcome, after⟩
  cases turn_cases turned with
  | stopped stopped =>
    rw [turnActs, if_neg (by simp [stopped])]
    exact (shown_of_books (books_check session)).trans (List.append_nil _).symm
  | failed hears | quiet hears _ | forsaken hears _ => exact silent hears rfl hears.chatter
  | hungUp hears => exact silent hears (books_note _ _ _ _) hears.chatter
  | @skipped size middle hears =>
    have books : (middle.skip size).books = _ := books_deliver _ _
    rw [hears.chatter, ← shown_of_books (books_hears hears)]
    simp only [shown, books, Ledger.tell, List.filter_append]
    rfl
  | line heard _ _ =>
    rw [unheard] at heard
    cases heard

private theorem heard?_shown {session middle : Session} {line : String}
    (heard : session.heard? = some (line, middle)) :
    middle.shown = session.shown ∧
      chatter session.turnActs = if Command.ofLine? line = none then [.echo line] else [] := by
  obtain ⟨after, hears, rfl⟩ := heard?_eq_some_iff.mp heard
  have same : after.shown = session.shown := shown_of_books (books_hears hears)
  exact ⟨same, hears.chatter⟩

theorem Move.shown {before after : Point} {acts : List Act} (move : Move before acts after)
    (inRun : acts = [] ∨ before.standing = .running) :
    after.session.shown = before.session.shown ++ chatter acts := by
  cases move with
  | begin session => exact (List.append_nil _).symm
  | turn unheard => exact turn_shown unheard
  | @heard session middle after line acts ending heard taken =>
    obtain ⟨same, told⟩ := heard?_shown heard
    have rest : chatter (.dispatched ⟨line, true, middle, ending, after⟩ :: acts) = [] :=
      taken.chatter_eq_nil
    rw [shown_of_books (books_ended _ _ _), taken.shown, same, chatter_append, told, rest,
      List.append_nil]
  | listen session | dispatch taken =>
    rcases inRun with none | running
    · cases none
    · cases running
  | disturbed => exact (List.append_nil _).symm

/-! ## Runs -/

/-- A course in which nothing is received or taken up but by a run. -/
inductive Runs : Point → List Act → Point → Prop where
  | nil (point : Point) : Runs point [] point
  | cons {before middle after : Point} {first later : List Act} (move : Move before first middle)
      (inRun : first = [] ∨ before.standing = .running) (rest : Runs middle later after) :
      Runs before (first ++ later) after

namespace Runs

variable {before middle after : Point} {first second acts : List Act}

theorem single (move : Move before first after)
    (inRun : first = [] ∨ before.standing = .running) : Runs before first after := by
  rw [← List.append_nil first]
  exact .cons move inRun (.nil after)

theorem append (left : Runs before first middle) (right : Runs middle second after) :
    Runs before (first ++ second) after := by
  induction left with
  | nil => exact right
  | cons move inRun rest ih =>
    rw [List.append_assoc]
    exact .cons move inRun (ih right)

theorem course (runs : Runs before acts after) : Course before acts after := by
  induction runs with
  | nil point => exact .nil point
  | cons move _ _ ih => exact .cons move ih

/-- What the operator has been shown of chatter is what the runs have received, in this order. -/
theorem shown (runs : Runs before acts after) :
    after.session.shown = before.session.shown ++ chatter acts := by
  induction runs with
  | nil => exact (List.append_nil _).symm
  | cons move inRun rest ih => rw [ih, move.shown inRun, chatter_append, List.append_assoc]

end Runs

theorem turn_runs (session : Session) :
    ∃ acts, Runs ⟨.running, session⟩ acts ⟨session.turn.1.standing, session.turn.2⟩ := by
  cases heard : session.heard? with
  | none => exact ⟨_, .single (.turn heard) (.inr rfl)⟩
  | some line =>
    obtain ⟨line, middle⟩ := line
    obtain ⟨acts, taken⟩ := dispatch_dispatches line middle
    rw [turn_of_heard? heard]
    exact ⟨_, .single (.heard heard taken) (.inr rfl)⟩

theorem run_runs (session : Session) :
    ∃ acts, Runs ⟨.idle, session⟩ acts ⟨session.run.1.standing, session.run.2⟩ := by
  obtain ⟨acts, runs⟩ := @loop_of_turns (fun before after => ∃ acts, Runs before acts after)
    (fun ⟨_, left⟩ ⟨_, right⟩ => ⟨_, left.append right⟩) turn_runs
    (session.note .info "awaiting device commands" [])
  exact ⟨_, .cons (.begin session) (.inl rfl) runs⟩

end Session

end Provisioning
