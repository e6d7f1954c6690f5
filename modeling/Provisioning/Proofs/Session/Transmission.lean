import Provisioning.Proofs.Session.Outcome

/-! # Everything on the line is an answer

What a session writes to its device it writes while a line is taken up, and then it is the answer to
that line: the whole of it, with a flush behind it, if the operator is told that the command was
answered; the beginning of it if the line fails; and nothing otherwise. So all that the sink has
taken over a course is what the lines of the course have written, one behind the other.
-/

namespace Provisioning

namespace Dispatch

/-- What was written while the line was taken up. -/
def wrote (dispatch : Dispatch) : Bytes :=
  dispatch.after.transmitter.sink.written.drop dispatch.before.transmitter.sink.written.length

/-- What the operator was told while the line was taken up. -/
def told (dispatch : Dispatch) : List Event :=
  dispatch.after.events.toList.drop dispatch.before.events.size

/-- What the line has written is the answer to it, as a device with this profile gets it. -/
structure Answers (profile : Profile) (dispatch : Dispatch) : Prop where
  /-- Nothing that was written before is lost or changed. -/
  appends : dispatch.after.transmitter.sink.written =
    dispatch.before.transmitter.sink.written ++ dispatch.wrote
  /-- Nor is anything that was told. -/
  tells : dispatch.after.events.toList = dispatch.before.events.toList ++ dispatch.told
  /-- The command was answered: the last that happened to the sink is a flush that succeeded. -/
  served : ∀ command size, .served command size ∈ dispatch.told →
    Command.ofLine? dispatch.line = some command ∧
      dispatch.wrote = profile.answerTo dispatch.before.files dispatch.line ∧
      size = dispatch.wrote.length ∧
      dispatch.before.transmitter.sink.Flushes (.ok ()) dispatch.after.transmitter.sink
  failed : ∀ error, dispatch.ending = .failed error →
    dispatch.wrote <+: profile.answerTo dispatch.before.files dispatch.line
  otherwise : (∀ command size, .served command size ∉ dispatch.told) →
    (∀ error, dispatch.ending ≠ .failed error) → dispatch.wrote = []

section

variable {dispatch : Dispatch} {ledger : Ledger} (books : dispatch.after.books = ledger)
  {part : Bytes} {told : List Event}

include books

/-- The books show what a line has written and told. -/
theorem wrote_told_of_books (written : ledger.written = dispatch.before.books.written ++ part)
    (events : ledger.events = dispatch.before.books.events ++ told) :
    dispatch.wrote = part ∧ dispatch.told = told := by
  subst books
  constructor
  · rw [wrote]
    exact (congrArg (List.drop _) written).trans List.drop_left
  · rw [Dispatch.told, ← Array.length_toList]
    exact (congrArg (List.drop _) events).trans List.drop_left

private theorem answers_of_served {profile : Profile} {command : Command}
    (known : Command.ofLine? dispatch.line = some command)
    (whole : part = profile.answerTo dispatch.before.files dispatch.line)
    (written : ledger.written = dispatch.before.books.written ++ part)
    (events : ledger.events = dispatch.before.books.events ++ [.served command part.length])
    (flushed : dispatch.before.transmitter.sink.Flushes (.ok ()) dispatch.after.transmitter.sink) :
    dispatch.Answers profile := by
  obtain ⟨rfl, same⟩ := wrote_told_of_books books written events
  subst books
  refine ⟨written, same ▸ events, ?_, fun _ _ => whole ▸ List.prefix_rfl, ?_⟩
  · intro other size told
    rw [same] at told
    cases List.mem_singleton.mp told
    exact ⟨known, whole, rfl, flushed⟩
  · intro untold
    refine absurd ?_ (untold command dispatch.wrote.length)
    rw [same]
    exact List.mem_singleton_self _

private theorem answers_of_failed {profile : Profile} {error : SessionError}
    (ending : dispatch.ending = .failed error)
    (beginning : part <+: profile.answerTo dispatch.before.files dispatch.line)
    (written : ledger.written = dispatch.before.books.written ++ part)
    (events : ledger.events = dispatch.before.books.events) : dispatch.Answers profile := by
  rw [← List.append_nil dispatch.before.books.events] at events
  obtain ⟨rfl, same⟩ := wrote_told_of_books books written events
  subst books
  refine ⟨written, same ▸ events, ?_, fun _ _ => beginning, ?_⟩
  · intro command size told
    rw [same] at told
    cases told
  · intro _ unfailed
    exact absurd ending (unfailed error)

private theorem answers_of_quiet (profile : Profile)
    (ending : ∀ error, dispatch.ending ≠ .failed error)
    (written : ledger.written = dispatch.before.books.written)
    (events : ledger.events = dispatch.before.books.events ++ told)
    (unserved : ∀ command size, .served command size ∉ told) : dispatch.Answers profile := by
  rw [← List.append_nil dispatch.before.books.written] at written
  obtain ⟨none, rfl⟩ := wrote_told_of_books books written events
  subst books
  refine ⟨none ▸ written, events, ?_, ?_, fun _ _ => none⟩
  · intro command size told
    exact absurd told (unserved command size)
  · intro error failed
    exact absurd failed (ending error)

end

end Dispatch

/-- An exchange writes nothing and tells of no answer. -/
theorem Ledger.Concludes.unanswered {before after : Ledger} {part : KeyPart} {refused : Nat}
    (concludes : before.Concludes part refused after) :
    after.written = before.written ∧
      ∃ told, after.events = before.events ++ told ∧
        ∀ command size, .served command size ∉ told := by
  cases concludes with
  | abandoned reason => exact ⟨rfl, [.abandoned _ _], rfl, by simp⟩
  | mismatched declared computed => exact ⟨rfl, [.checksumMismatch _ _ _], rfl, by simp⟩
  | recorded size encoded => exact ⟨rfl, [.keyMaterial _ _ _], rfl, by simp⟩
  | refused size encoded reason =>
    exact ⟨rfl, [.keyMaterial _ _ _, .abandoned _ _], List.append_assoc _ _ _, by simp⟩

namespace Session

open Dispatch

theorem Outcome.answers {dispatch : Dispatch} {acts : List Act}
    (outcome : Outcome dispatch.line dispatch.before acts dispatch.ending dispatch.after) :
    dispatch.Answers dispatch.before.profile := by
  rcases dispatch with ⟨line, inRun, before, ending, after⟩
  cases outcome with
  | served known books flushed => exact answers_of_served books known rfl rfl rfl flushed
  | failed unrefused beginning books => exact answers_of_failed books rfl beginning rfl rfl
  | echoed unknown books => exact answers_of_quiet books _ nofun rfl rfl (by simp)
  | abandoned books => exact answers_of_quiet books _ nofun rfl rfl (by simp)
  | provisioned books => exact answers_of_quiet books _ nofun rfl rfl (by simp)
  | deviceFailure books => exact answers_of_quiet books _ nofun rfl rfl (by simp)
  | concluded concludes =>
    obtain ⟨written, told, events, unserved⟩ := concludes.unanswered
    exact answers_of_quiet rfl _ nofun written events unserved
  | waiting unrefused books =>
    exact answers_of_quiet books _ nofun rfl (List.append_nil _).symm (by simp)

theorem Dispatches.appends {line : String} {before after : Session} {acts : List Act}
    {ending : Ending} (inRun : Bool) (taken : Dispatches line before acts ending after) :
    after.books.written =
      before.books.written ++ Dispatch.wrote ⟨line, inRun, before, ending, after⟩ :=
  (@Outcome.answers ⟨line, inRun, before, ending, after⟩ acts taken.outcome).appends

/-- What a move writes is what its lines write. -/
theorem Move.wrote {before after : Point} {acts : List Act} (move : Move before acts after) :
    after.session.books.written =
      before.session.books.written ++ (dispatches acts).flatMap Dispatch.wrote := by
  have unwritten {session : Session} (same : session.books.written = before.session.books.written)
      (none : dispatches acts = []) : session.books.written =
        before.session.books.written ++ (dispatches acts).flatMap Dispatch.wrote := by
    rw [same, none, List.flatMap_nil, List.append_nil]
  cases move with
  | begin session => exact unwritten rfl rfl
  | turn unheard =>
    have same := (books_turn unheard).2
    refine unwritten ?_ (dispatches_turnActs _)
    rcases same with kept | ⟨size, told⟩
    · rw [kept]
    · rw [told]
      rfl
  | heard heard taken =>
    rw [books_ended, taken.appends true, books_of_heard? heard, dispatches_append,
      dispatches_turnActs, taken.dispatches, List.nil_append, List.flatMap_singleton]
    rfl
  | listen session => exact unwritten (congrArg Ledger.written (books_listen session)) rfl
  | dispatch taken =>
    rw [books_ended, taken.appends false, taken.dispatches, List.flatMap_singleton]
  | disturbed => exact unwritten (congrArg Ledger.written (books_disturbed _ _ _ _)) rfl

theorem Course.wrote {before after : Point} {acts : List Act} (course : Course before acts after) :
    after.session.books.written =
      before.session.books.written ++ (dispatches acts).flatMap Dispatch.wrote := by
  induction course with
  | nil => exact (List.append_nil _).symm
  | cons move rest ih =>
    rw [ih, move.wrote, dispatches_append, List.flatMap_append, List.append_assoc]

end Session

end Provisioning
