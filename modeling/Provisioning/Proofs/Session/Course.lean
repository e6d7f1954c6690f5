import Provisioning.Proofs.Link.Accounting
import Provisioning.Proofs.Session.History

/-! # The course of a session

A course tells which lines a session has taken up, what came of each, and on the way what the
receiving side returned and which records were offered to the key log. A line is taken up as a whole
(`Dispatches`), by a run or by a call of its own; all else that a run does between two lines is one
turn. At any time, also while a frame is awaited, others may set the clock and the flag that keeps
the session running and may put any files in place of the host's.

`run_proceeds`, `listen_proceeds` and `dispatch_proceeds` say that every call is such a course from
beginning to end.
-/

namespace Provisioning

/-- A line that has been taken up, with the session before and after it. -/
structure Dispatch where
  line : String
  /-- Whether a run has taken up the line, or a call of its own. -/
  inRun : Bool
  before : Session
  ending : Ending
  after : Session

/-- What happens in a session. -/
inductive Act where
  /-- The receiving side has come back with this. -/
  | received (reply : Receiver.Reply)
  /-- A record has been offered to the key log, which has taken it or not. -/
  | offered (taken : Bool)
  | dispatched (dispatch : Dispatch)

namespace Act

def dispatch? : Act → Option Dispatch
  | dispatched dispatch => some dispatch
  | received _ | offered _ => none

/-- A record could not be added to the key log. -/
def isRefusal : Act → Bool
  | offered taken => !taken
  | received _ | dispatched _ => false

end Act

/-- The lines that have been taken up. -/
def dispatches (acts : List Act) : List Dispatch := acts.filterMap Act.dispatch?

/-- How many records could not be added to the key log. -/
def refusals (acts : List Act) : Nat := acts.countP Act.isRefusal

@[simp] theorem dispatches_append (first second : List Act) :
    dispatches (first ++ second) = dispatches first ++ dispatches second :=
  List.filterMap_append

@[simp] theorem refusals_append (first second : List Act) :
    refusals (first ++ second) = refusals first + refusals second :=
  List.countP_append

namespace Session

/-- Others have set the clock, the flag and the host's files. -/
def disturbed (clock : Nat) (running : Bool) (files : FileTree) (session : Session) : Session :=
  { session with
    files
    receiver := { session.receiver with
      source := { session.receiver.source with clock, running } } }

/-- What happens when a line is awaited. -/
def listenActs (session : Session) : List Act := [.received (.line session.receiver.awaitLine.1)]

/-- What happens in a turn before a line is taken up. -/
def turnActs (session : Session) : List Act :=
  if session.check.running then session.check.listenActs else []

/-- What the receiving side does in a step of an exchange: it drops what has arrived, or looks for
the frame. -/
def advanceReply (exchange : Exchange) (session : Session) : Receiver.Reply :=
  let session := session.check
  if session.running && (session.expired? exchange).isNone then
    .step session.receiver.stepFrame.1
  else .dropped session.receiver.buffer.length

/-- Whether the key log takes the record of a frame. -/
def takesRecord (part : KeyPart) (frame : Frame) (session : Session) : Bool :=
  let material := part.select session.profile.certRange frame.payload
  (session.files.append session.profile.keyLog (Bytes.ofText (Base64.mime material))).isOk

/-- The record of a frame whose checksum is right is offered to the key log. -/
def acceptActs (part : KeyPart) (frame : Frame) (session : Session) : List Act :=
  if frame.verified then [.offered (session.takesRecord part frame)] else []

/-- What happens in a step of an exchange. -/
def advanceActs (exchange : Exchange) (session : Session) : List Act :=
  .received (session.advanceReply exchange) ::
    match session.arrival? exchange with
    | some frame => session.acceptActs exchange.part frame
    | none => []

/-- The frame of an exchange is awaited until the exchange ends, or for the time being. -/
inductive Awaits (exchange : Exchange) : Session → List Act → Ending → Session → Prop where
  | ended {session after : Session} {ending : Ending}
      (advanced : session.advance exchange = (.ended ending, after)) :
      Awaits exchange session (session.advanceActs exchange) ending after
  /-- The frame is not complete, or something has changed outside for an exchange that had nothing
  left to wait for. -/
  | onward {session middle after : Session} {progress : Progress} {acts : List Act}
      {ending : Ending} (advanced : session.advance exchange = (progress, middle))
      (undecided : progress = .pending ∨ progress = .ended (.waiting exchange))
      (rest : Awaits exchange middle acts ending after) :
      Awaits exchange session (session.advanceActs exchange ++ acts) ending after
  | disturbed {session after : Session} {acts : List Act} {ending : Ending} (clock : Nat)
      (running : Bool) (files : FileTree)
      (rest : Awaits exchange (session.disturbed clock running files) acts ending after) :
      Awaits exchange session acts ending after

/-- A line is taken up and, if it announces key material, its frame is awaited. -/
inductive Dispatches (line : String) : Session → List Act → Ending → Session → Prop where
  | ordinary (session : Session) (ordinary : KeyPart.announcedBy? line = none) :
      Dispatches line session [] (session.dispatch line).1 (session.dispatch line).2
  | announced {session after : Session} {part : KeyPart} {acts : List Act} {ending : Ending}
      (announced : KeyPart.announcedBy? line = some part)
      (awaits : Awaits ⟨part, session.clock⟩ (session.heed part.command) acts ending after) :
      Dispatches line session acts ending after

/-- One thing that a session does as a whole, or that others do to it. -/
inductive Move : Point → List Act → Point → Prop where
  /-- A run begins. -/
  | begin (session : Session) :
      Move ⟨.idle, session⟩ [] ⟨.running, session.note .info "awaiting device commands" []⟩
  /-- A run hears no line of text. -/
  | turn {session : Session} (unheard : session.heard? = none) :
      Move ⟨.running, session⟩ session.turnActs ⟨session.turn.1.standing, session.turn.2⟩
  /-- A run hears a line of text and takes it up. -/
  | heard {session middle after : Session} {line : String} {acts : List Act} {ending : Ending}
      (heard : session.heard? = some (line, middle))
      (taken : Dispatches line middle acts ending after) :
      Move ⟨.running, session⟩
        (session.turnActs ++ .dispatched ⟨line, true, middle, ending, after⟩ :: acts)
        (.ended true ending after)
  /-- A line is awaited outside a run. -/
  | listen (session : Session) :
      Move ⟨.idle, session⟩ session.listenActs ⟨.idle, session.listen.2⟩
  /-- A line is taken up outside a run. -/
  | dispatch {session after : Session} {line : String} {acts : List Act} {ending : Ending}
      (taken : Dispatches line session acts ending after) :
      Move ⟨.idle, session⟩ (.dispatched ⟨line, false, session, ending, after⟩ :: acts)
        (.ended false ending after)
  | disturbed (standing : Standing) (session : Session) (clock : Nat) (running : Bool)
      (files : FileTree) :
      Move ⟨standing, session⟩ [] ⟨standing, session.disturbed clock running files⟩

/-- Moves, and all that has happened in them. -/
inductive Course : Point → List Act → Point → Prop where
  | nil (point : Point) : Course point [] point
  | cons {before middle after : Point} {first later : List Act} (move : Move before first middle)
      (rest : Course middle later after) : Course before (first ++ later) after

namespace Course

variable {before middle after : Point} {first second : List Act}

theorem single (move : Move before first after) : Course before first after := by
  rw [← List.append_nil first]
  exact .cons move (.nil after)

theorem append (left : Course before first middle) (right : Course middle second after) :
    Course before (first ++ second) after := by
  induction left with
  | nil => exact right
  | cons move rest ih =>
    rw [List.append_assoc]
    exact .cons move (ih right)

end Course

/-- There is a course from one point to the other. -/
def Proceeds (before after : Point) : Prop := ∃ acts, Course before acts after

theorem Proceeds.trans {before middle after : Point} (left : Proceeds before middle)
    (right : Proceeds middle after) : Proceeds before after := by
  obtain ⟨first, left⟩ := left
  obtain ⟨second, right⟩ := right
  exact ⟨first ++ second, left.append right⟩

/-! ## Calls -/

private theorem exchange_awaits (pending : Exchange) (session : Session) :
    ∃ acts, Awaits pending session acts (session.exchange pending).1
      (session.exchange pending).2 := by
  fun_induction exchange pending session with
  | case1 session ending after advanced => exact ⟨_, .ended advanced⟩
  | case2 session after advanced ih =>
    obtain ⟨acts, rest⟩ := ih
    exact ⟨_, .onward advanced (.inl rfl) rest⟩

theorem dispatch_dispatches (line : String) (session : Session) :
    ∃ acts, Dispatches line session acts (session.dispatch line).1 (session.dispatch line).2 := by
  cases announced : KeyPart.announcedBy? line with
  | none => exact ⟨[], .ordinary session announced⟩
  | some part =>
    obtain ⟨acts, awaits⟩ := exchange_awaits ⟨part, session.clock⟩ (session.heed part.command)
    rw [dispatch_of_announced announced]
    exact ⟨acts, .announced announced awaits⟩

theorem dispatch_proceeds (line : String) (session : Session) :
    Proceeds ⟨.idle, session⟩ ⟨(session.dispatch line).1.standing, (session.dispatch line).2⟩ := by
  obtain ⟨acts, taken⟩ := dispatch_dispatches line session
  exact ⟨_, .single (.dispatch taken)⟩

theorem listen_proceeds (session : Session) :
    Proceeds ⟨.idle, session⟩ ⟨.idle, session.listen.2⟩ :=
  ⟨_, .single (.listen session)⟩

private theorem turn_proceeds (session : Session) :
    Proceeds ⟨.running, session⟩ ⟨session.turn.1.standing, session.turn.2⟩ := by
  cases heard : session.heard? with
  | none => exact ⟨_, .single (.turn heard)⟩
  | some line =>
    obtain ⟨line, middle⟩ := line
    obtain ⟨acts, taken⟩ := dispatch_dispatches line middle
    rw [turn_of_heard? heard]
    exact ⟨_, .single (.heard heard taken)⟩

private theorem loop_proceeds (session : Session) :
    Proceeds ⟨.running, session⟩ ⟨session.loop.1.standing, session.loop.2⟩ :=
  loop_of_turns .trans turn_proceeds session

theorem run_proceeds (session : Session) :
    Proceeds ⟨.idle, session⟩ ⟨session.run.1.standing, session.run.2⟩ :=
  .trans ⟨_, .single (.begin session)⟩ (loop_proceeds _)

/-- Every call of the program is a course. -/
theorem calls_proceed (session : Session) :
    Proceeds ⟨.idle, session⟩ ⟨session.run.1.standing, session.run.2⟩ ∧
      Proceeds ⟨.idle, session⟩ ⟨.idle, session.listen.2⟩ ∧
      ∀ line, Proceeds ⟨.idle, session⟩
        ⟨(session.dispatch line).1.standing, (session.dispatch line).2⟩ := by
  refine ⟨run_proceeds session, listen_proceeds session, ?_⟩
  intro line
  exact dispatch_proceeds line session

/-! ## What is left alone -/

theorem Awaits.dispatches_eq_nil {exchange : Exchange} {session after : Session}
    {acts : List Act} {ending : Ending} (awaits : Awaits exchange session acts ending after) :
    dispatches acts = [] := by
  have advanced (session : Session) : dispatches (session.advanceActs exchange) = [] := by
    simp only [advanceActs, acceptActs]
    split
    · split <;> rfl
    · rfl
  induction awaits with
  | ended => exact advanced _
  | onward _ _ _ ih => rw [dispatches_append, advanced, ih, List.nil_append]
  | disturbed _ _ _ _ ih => exact ih

/-- While a line is taken up no other line is. -/
theorem Dispatches.dispatches_eq_nil {line : String} {session after : Session}
    {acts : List Act} {ending : Ending} (taken : Dispatches line session acts ending after) :
    dispatches acts = [] := by
  cases taken with
  | ordinary _ => rfl
  | announced _ awaits => exact awaits.dispatches_eq_nil

theorem Dispatches.dispatches {dispatch : Dispatch} {acts : List Act}
    (taken : Dispatches dispatch.line dispatch.before acts dispatch.ending dispatch.after) :
    dispatches (.dispatched dispatch :: acts) = [dispatch] :=
  congrArg (dispatch :: ·) taken.dispatches_eq_nil

theorem dispatches_turnActs (session : Session) : dispatches session.turnActs = [] := by
  unfold turnActs
  split <;> rfl

theorem refusals_turnActs (session : Session) : refusals session.turnActs = 0 := by
  unfold turnActs
  split <;> rfl

theorem Awaits.profile {exchange : Exchange} {session after : Session} {acts : List Act}
    {ending : Ending} (awaits : Awaits exchange session acts ending after) :
    after.profile = session.profile := by
  induction awaits with
  | @ended session after ending advanced =>
    have kept := (advance_advanced exchange session).profile
    rwa [advanced] at kept
  | @onward session middle after progress acts ending advanced _ rest ih =>
    have kept := (advance_advanced exchange session).profile
    rw [advanced] at kept
    exact ih.trans kept
  | disturbed clock running files rest ih => exact ih

theorem Dispatches.profile {line : String} {session after : Session} {acts : List Act}
    {ending : Ending} (taken : Dispatches line session acts ending after) :
    after.profile = session.profile := by
  cases taken with
  | ordinary ordinary => exact (dispatch_obeyed ordinary session).works.profile
  | announced _ awaits => exact awaits.profile

private theorem announcement?_of_unheard {session : Session} (unheard : session.heard? = none) :
    session.announcement? = none := by
  rw [announcement?_eq, unheard]
  rfl

theorem Move.profile {before after : Point} {acts : List Act} (move : Move before acts after) :
    after.session.profile = before.session.profile := by
  cases move with
  | begin session => rfl
  | turn unheard => exact (turn_works (announcement?_of_unheard unheard)).profile
  | heard heard taken =>
    exact (ended_works _ _ _).profile.trans (taken.profile.trans (heard?_works heard).profile)
  | listen session => exact (listen_listened session).works.profile
  | dispatch taken => exact taken.profile
  | disturbed => rfl

/-! ## The lines of a course -/

theorem Move.taken {before after : Point} {acts : List Act} (move : Move before acts after)
    {dispatch : Dispatch} (member : dispatch ∈ dispatches acts) :
    dispatch.before.profile = before.session.profile ∧
      ∃ acts, Dispatches dispatch.line dispatch.before acts dispatch.ending dispatch.after := by
  cases move with
  | begin session => cases member
  | turn unheard =>
    rw [dispatches_turnActs] at member
    cases member
  | heard heard taken =>
    rw [dispatches_append, dispatches_turnActs, List.nil_append, taken.dispatches] at member
    cases List.mem_singleton.mp member
    exact ⟨(heard?_works heard).profile, _, taken⟩
  | listen session => cases member
  | dispatch taken =>
    rw [taken.dispatches] at member
    cases List.mem_singleton.mp member
    exact ⟨rfl, _, taken⟩
  | disturbed => cases member

theorem Course.taken {before after : Point} {acts : List Act} (course : Course before acts after)
    {dispatch : Dispatch} (member : dispatch ∈ dispatches acts) :
    dispatch.before.profile = before.session.profile ∧
      ∃ acts, Dispatches dispatch.line dispatch.before acts dispatch.ending dispatch.after := by
  induction course with
  | nil => cases member
  | cons move rest ih =>
    rw [dispatches_append, List.mem_append] at member
    rcases member with first | later
    · exact move.taken first
    · obtain ⟨profile, taken⟩ := ih later
      exact ⟨profile.trans move.profile, taken⟩

end Session

end Provisioning
