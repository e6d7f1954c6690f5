import Provisioning.Event
import Provisioning.FileTree
import Provisioning.Journal
import Provisioning.Link.Receiver
import Provisioning.Link.Transmitter
import Provisioning.Profile
import Provisioning.Tally

/-! # The state of a session

A session serves one device: it reads lines, answers those that are commands and tells the operator
about everything. Its state holds both sides of the line, the host's files, the counters, and all
that has been told and logged so far.

Two things reach a session from outside besides the bytes on the line. While an event is delivered
the operator may stop the program: `pauses` names those events by number. And between two checks of
the flag that keeps the session running, time may pass and the flag may change: `interludes` lists
what happens before each check.
-/

namespace Provisioning

/-- What happens outside a session before it next checks whether to go on. -/
structure Interlude where
  /-- Nanoseconds that pass. -/
  delay : Nat := 0
  /-- What the flag that keeps the session running is set to, if it is. -/
  running : Option Bool := none
  deriving DecidableEq, Repr

/-- What can end a session's work, or one of its steps. -/
inductive SessionError where
  | frame (error : FrameError)
  | keyLog (path : String) (error : IoError)
  deriving DecidableEq, Repr

namespace SessionError

def message : SessionError → String
  | frame error => "frame error: " ++ error.message
  | keyLog path error => "failed to append to key log " ++ path ++ ": " ++ error.text

/-- The device's side of the line hung up. -/
def isClosed : SessionError → Bool
  | frame .closed => true
  | _ => false

end SessionError

structure Session where
  profile : Profile
  receiver : Receiver
  transmitter : Transmitter
  files : FileTree := {}
  tally : Tally := {}
  /-- What the operator has been told. -/
  events : Array Event := #[]
  journal : Array Journal.Record := #[]
  /-- The events, counted from one, at which the operator stops the program. -/
  pauses : List Nat := []
  interludes : List Interlude := []

namespace Session

/-- A session that has not begun, over the two sides of a line. -/
def start (profile : Profile) (source : Source) (sink : Sink) (files : FileTree) : Session where
  profile
  receiver := { source, maxPayload := profile.maxPayload }
  transmitter := { sink, maxPayload := profile.maxPayload }
  files

/-- Whether the session is to go on. -/
def running (session : Session) : Bool := session.receiver.source.running

/-- Set the flag that keeps the session running. -/
def setRunning (running : Bool) (session : Session) : Session :=
  { session with
    receiver := { session.receiver with source := { session.receiver.source with running } } }

/-- Nanoseconds since some moment in the past. -/
def clock (session : Session) : Nat := session.receiver.source.clock

/-- Make a note in the log. -/
def note (level : Level) (message : String) (fields : List (String × Journal.Value))
    (session : Session) : Session :=
  { session with journal := session.journal.push { level, message, fields } }

/-- Tell the operator. -/
def deliver (event : Event) (session : Session) : Session :=
  let told := { session with events := session.events.push event }
  if told.events.size ∈ session.pauses then told.setRunning false else told

/-- Count something. -/
def count (change : Tally → Tally) (session : Session) : Session :=
  { session with tally := change session.tally }

/-- Let what happens outside before the next check happen. -/
def check (session : Session) : Session :=
  match session.interludes with
  | [] => session
  | interlude :: rest =>
    let source := session.receiver.source
    { session with
      interludes := rest
      receiver := { session.receiver with
        source := { source with
          clock := source.clock + interlude.delay
          running := interlude.running.getD source.running } } }

/-- The session is to go on, and nothing will come from outside any more, neither bytes nor anything
before a check. -/
def isForsaken (session : Session) : Bool :=
  session.running && session.receiver.isSilent && session.interludes.isEmpty

/-- Bounds what a session can still do. -/
def weight (session : Session) : Nat := session.receiver.weight + session.interludes.length

/-- The exchange could not be completed on the host's side; the session goes on. -/
def abandon (command : Command) (reason : String) (session : Session) : Session :=
  session
    |>.note .error "exchange abandoned"
      [("command", .quoted command.literal), ("reason", .plain reason)]
    |>.count (fun tally => { tally with abandoned := tally.abandoned + 1 })
    |>.deliver (.abandoned command reason)

@[simp] theorem weight_note (level : Level) (message : String)
    (fields : List (String × Journal.Value)) (session : Session) :
    (session.note level message fields).weight = session.weight := rfl

@[simp] theorem weight_count (change : Tally → Tally) (session : Session) :
    (session.count change).weight = session.weight := rfl

@[simp] theorem weight_deliver (event : Event) (session : Session) :
    (session.deliver event).weight = session.weight := by
  simp only [deliver]
  split <;> rfl

@[simp] theorem weight_abandon (command : Command) (reason : String) (session : Session) :
    (session.abandon command reason).weight = session.weight := by
  simp [abandon]

theorem weight_check (session : Session) :
    session.check.weight = session.receiver.weight + (session.interludes.length - 1) := by
  unfold check
  split
  · rename_i none
    simp [weight, none]
  · rename_i interlude rest some
    simp [weight, some, Receiver.weight, Source.weight]

end Session

end Provisioning
