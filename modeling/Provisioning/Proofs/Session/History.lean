import Provisioning.Proofs.Files
import Provisioning.Proofs.Session.Conduct

/-! # Histories of a session

A history goes through a session in steps that are small enough to see an exchange in the middle of
its frame. Between two steps the program stands somewhere (`Standing`): no call is under way, a run
is about to take up its next line, or a frame is awaited, in a run or in the call that took up a
single line. A step makes one check or read for the frame that is awaited, or takes up a line that
announces none, or only begins or ends a call; and at any time the clock, the flag that keeps the
session running and the host's other files may change from outside.

What a check or read for a frame has brought is the step's `Reception`. A `Trail` collects them.
`run_reaches`, `resume_reaches`, `listen_reaches` and `dispatch_reaches` say that every call is such
a history from beginning to end.
-/

namespace Provisioning

/-- Where the program stands between two steps. -/
inductive Standing where
  /-- No call is under way. -/
  | idle
  /-- A run is about to take up its next line. -/
  | running
  /-- A frame is awaited, in a run or in a call that takes up a single line. -/
  | awaiting (exchange : Exchange) (inRun : Bool)
  deriving DecidableEq, Repr

/-- Where a call that takes up a single line stands at the end. -/
def Ending.standing : Ending → Standing
  | .done => .idle
  | .failed _ => .idle
  | .waiting pending => .awaiting pending false

/-- Where a run stands that waits for a frame, or else for a line. -/
def Standing.ofPending : Option Exchange → Standing
  | none => .running
  | some pending => .awaiting pending true

/-- Where a run stands after a turn. -/
def Turn.standing : Turn → Standing
  | .onward => .running
  | .stopped => .idle
  | .failed _ => .idle
  | .waiting pending => .ofPending pending

/-- Where a run stands at its end. -/
def RunEnd.standing : RunEnd → Standing
  | .finished _ => .idle
  | .failed _ => .idle
  | .waiting pending => .ofPending pending

/-- What a step of an exchange has brought. -/
structure Reception where
  part : KeyPart
  /-- The frame that has arrived whole, if one has. -/
  frame : Option Frame
  /-- The host's files at that time. -/
  files : FileTree

namespace Session

/-- What a step of an exchange brings. -/
def reception (exchange : Exchange) (session : Session) : Reception where
  part := exchange.part
  frame := session.arrival? exchange
  files := session.files

/-- The part of the key that the next line of a run announces, and the session that has read it. -/
def announcement? (session : Session) : Option (KeyPart × Session) :=
  let session := session.check
  if session.running then
    match session.listen with
    | (.ok (.line text), session) =>
      (KeyPart.announcedBy? text).map
        (·, session.count fun tally => { tally with lines := tally.lines + 1 })
    | _ => none
  else none

/-- A session and where the program stands in it. -/
structure Point where
  standing : Standing
  session : Session

/-- Where an exchange leaves the program, in a run or in a call that takes up a single line. -/
def Point.ended (inRun : Bool) (ending : Ending) (session : Session) : Point :=
  if inRun then ⟨(session.settle ending).1.standing, (session.settle ending).2⟩
  else ⟨ending.standing, session⟩

/-- One step, and what it has received. -/
inductive Step : Point → List Reception → Point → Prop where
  /-- A run begins. -/
  | begin (session : Session) :
      Step ⟨.idle, session⟩ [] ⟨.running, session.note .info "awaiting device commands" []⟩
  /-- A run takes up a line that announces no key material, or hears none. -/
  | turn {session : Session} (ordinary : session.announcement? = none) :
      Step ⟨.running, session⟩ [] ⟨session.turn.1.standing, session.turn.2⟩
  /-- A run takes up a line that announces key material. -/
  | announced {session middle : Session} {part : KeyPart}
      (heard : session.announcement? = some (part, middle)) :
      Step ⟨.running, session⟩ []
        ⟨.awaiting ⟨part, middle.clock⟩ true, middle.heed part.command⟩
  /-- A line is awaited outside a run. -/
  | listen (session : Session) : Step ⟨.idle, session⟩ [] ⟨.idle, session.listen.2⟩
  /-- A line that announces no key material is taken up outside a run. -/
  | dispatch {session : Session} {line : String}
      (ordinary : KeyPart.announcedBy? line = none) :
      Step ⟨.idle, session⟩ []
        ⟨(session.dispatch line).1.standing, (session.dispatch line).2⟩
  /-- A line that announces key material is taken up outside a run. -/
  | announce {session : Session} {line : String} {part : KeyPart}
      (announced : KeyPart.announcedBy? line = some part) :
      Step ⟨.idle, session⟩ []
        ⟨.awaiting ⟨part, session.clock⟩ false, session.heed part.command⟩
  /-- The frame is not complete. -/
  | pending {session after : Session} {exchange : Exchange} {inRun : Bool}
      (advanced : session.advance exchange = (.pending, after)) :
      Step ⟨.awaiting exchange inRun, session⟩ [session.reception exchange]
        ⟨.awaiting exchange inRun, after⟩
  /-- The exchange is over, or has nothing left to wait for. -/
  | ended {session after : Session} {exchange : Exchange} {inRun : Bool} {ending : Ending}
      (advanced : session.advance exchange = (.ended ending, after)) :
      Step ⟨.awaiting exchange inRun, session⟩ [session.reception exchange]
        (.ended inRun ending after)
  /-- Time passes, or the flag changes. -/
  | outside (standing : Standing) (session : Session) (clock : Nat) (running : Bool) :
      Step ⟨standing, session⟩ []
        ⟨standing, { session with receiver := { session.receiver with
          source := { session.receiver.source with clock, running } } }⟩
  /-- The host's files change, except for the key log. -/
  | elsewhere (standing : Standing) {session : Session} {files : FileTree}
      (kept : files.contents session.profile.keyLog =
        session.files.contents session.profile.keyLog) :
      Step ⟨standing, session⟩ [] ⟨standing, { session with files }⟩

/-- Steps, and all that they have received. -/
inductive Trail : Point → List Reception → Point → Prop where
  | nil (point : Point) : Trail point [] point
  | cons {before middle after : Point} {received later : List Reception}
      (step : Step before received middle) (rest : Trail middle later after) :
      Trail before (received ++ later) after

namespace Trail

variable {before middle after : Point} {first second : List Reception}

theorem single (step : Step before first after) : Trail before first after := by
  rw [← List.append_nil first]
  exact .cons step (.nil after)

theorem append (left : Trail before first middle) (right : Trail middle second after) :
    Trail before (first ++ second) after := by
  induction left with
  | nil => exact right
  | cons step rest ih =>
    rw [List.append_assoc]
    exact .cons step (ih right)

end Trail

/-- There is a history from one point to the other. -/
def Reaches (before after : Point) : Prop := ∃ receptions, Trail before receptions after

theorem Reaches.trans {before middle after : Point} (left : Reaches before middle)
    (right : Reaches middle after) : Reaches before after := by
  obtain ⟨first, left⟩ := left
  obtain ⟨second, right⟩ := right
  exact ⟨first ++ second, left.append right⟩

theorem Reaches.step {before after : Point} {received : List Reception}
    (step : Step before received after) : Reaches before after :=
  ⟨received, .single step⟩

/-! ## Calls -/

theorem exchange_reaches (inRun : Bool) (pending : Exchange) (session : Session) :
    Reaches ⟨.awaiting pending inRun, session⟩
      (.ended inRun (session.exchange pending).1 (session.exchange pending).2) := by
  fun_induction exchange pending session with
  | case1 session ending after advanced => exact .step (.ended advanced)
  | case2 session after advanced ih => exact .trans (.step (.pending advanced)) ih

theorem dispatch_reaches (line : String) (session : Session) :
    Reaches ⟨.idle, session⟩ ⟨(session.dispatch line).1.standing, (session.dispatch line).2⟩ := by
  cases announced : KeyPart.announcedBy? line with
  | none => exact .step (.dispatch announced)
  | some part =>
    rw [dispatch_of_announced announced]
    exact .trans (.step (.announce announced)) (exchange_reaches false _ _)

theorem listen_reaches (session : Session) :
    Reaches ⟨.idle, session⟩ ⟨.idle, session.listen.2⟩ :=
  .step (.listen session)

/-- A line announces key material if it is heard. -/
theorem announcement?_eq (session : Session) :
    session.announcement? = session.heard?.bind fun heard =>
      (KeyPart.announcedBy? heard.1).map (·, heard.2) := by
  simp only [announcement?, heard?]
  cases session.check.running with
  | false => rfl
  | true =>
    rcases session.check.listen with ⟨error | heard, after⟩
    · rfl
    · cases heard <;> rfl

theorem announcement?_eq_some_iff {session middle : Session} {part : KeyPart} :
    session.announcement? = some (part, middle) ↔
      ∃ line, session.heard? = some (line, middle) ∧ KeyPart.announcedBy? line = some part := by
  simp only [announcement?_eq, Option.bind_eq_some_iff, Option.map_eq_some_iff, Prod.exists,
    Prod.mk.injEq]
  constructor
  · rintro ⟨line, _, heard, _, announced, rfl, rfl⟩
    exact ⟨line, heard, announced⟩
  · rintro ⟨line, heard, announced⟩
    exact ⟨line, middle, heard, part, announced, rfl, rfl⟩

/-- A turn whose line announces key material is the exchange that follows it. -/
theorem turn_of_announcement? {session middle : Session} {part : KeyPart}
    (heard : session.announcement? = some (part, middle)) :
    session.turn = ((middle.heed part.command).exchange ⟨part, middle.clock⟩).2.settle
      ((middle.heed part.command).exchange ⟨part, middle.clock⟩).1 := by
  obtain ⟨line, heard, announced⟩ := announcement?_eq_some_iff.mp heard
  rw [turn_of_heard? heard, dispatch_of_announced announced]

private theorem turn_reaches (session : Session) :
    Reaches ⟨.running, session⟩ ⟨session.turn.1.standing, session.turn.2⟩ := by
  cases heard : session.announcement? with
  | none => exact .step (.turn heard)
  | some announcement =>
    obtain ⟨part, middle⟩ := announcement
    rw [turn_of_announcement? heard]
    exact .trans (.step (.announced heard)) (exchange_reaches true _ _)

/-- Where the turns lead, the loop leads. -/
theorem loop_of_turns {leads : Point → Point → Prop}
    (trans : ∀ {before middle after}, leads before middle → leads middle after → leads before after)
    (turns : ∀ session, leads ⟨.running, session⟩ ⟨session.turn.1.standing, session.turn.2⟩)
    (session : Session) :
    leads ⟨.running, session⟩ ⟨session.loop.1.standing, session.loop.2⟩ := by
  have once := turns session
  fun_induction loop session with
  | case1 session after turned ih =>
    rw [turned] at once
    exact trans once (ih (turns after))
  | case2 session after turned =>
    rw [turned] at once
    exact once
  | case3 session error after turned =>
    rw [turned] at once
    exact once
  | case4 session pending after turned =>
    rw [turned] at once
    exact once

private theorem loop_reaches (session : Session) :
    Reaches ⟨.running, session⟩ ⟨session.loop.1.standing, session.loop.2⟩ :=
  loop_of_turns .trans turn_reaches session

theorem run_reaches (session : Session) :
    Reaches ⟨.idle, session⟩ ⟨session.run.1.standing, session.run.2⟩ :=
  .trans (.step (.begin session)) (loop_reaches _)

theorem resume_reaches (pending : Option Exchange) (session : Session) :
    Reaches ⟨.ofPending pending, session⟩
      ⟨(session.resume pending).1.standing, (session.resume pending).2⟩ := by
  cases pending with
  | none => exact loop_reaches session
  | some pending =>
    have reached := exchange_reaches true pending session
    simp only [resume]
    split
    all_goals
      rename_i after settled
      simp only [Point.ended, if_true, settled] at reached
    · exact reached.trans (loop_reaches after)
    · exact reached
    · exact reached
    · exact reached

/-! ## What is left alone

Outside an exchange nothing is recorded, wherever the program stands.
-/

private theorem settle_works (ending : Ending) (session : Session) :
    session.Works (session.settle ending).2 := by
  unfold settle
  split
  · exact .refl session
  · exact .refl session
  · split
    · exact (Works.refl session).note _ _ _
    · exact .refl session

theorem turn_works {session : Session} (ordinary : session.announcement? = none) :
    session.Works session.turn.2 := by
  cases heard : session.heard? with
  | none =>
    rcases turned : session.turn with ⟨outcome, after⟩
    cases turn_cases turned with
    | stopped _ => exact (Works.refl session).check
    | failed hears | quiet hears _ | forsaken hears _ => exact .hears hears
    | hungUp hears => exact (Works.hears hears).note _ _ _
    | skipped hears => exact (Works.hears hears).skip _
    | line other _ _ =>
      rw [heard] at other
      cases other
  | some line =>
    rw [announcement?_eq, heard] at ordinary
    have plain : KeyPart.announcedBy? line.1 = none := Option.map_eq_none_iff.mp ordinary
    rw [turn_of_heard? heard]
    apply Works.trans _ (settle_works _ _)
    exact (heard?_works heard).trans (dispatch_obeyed plain _).works

theorem announcement?_works {session middle : Session} {part : KeyPart}
    (heard : session.announcement? = some (part, middle)) : session.Works middle := by
  obtain ⟨line, heard, _⟩ := announcement?_eq_some_iff.mp heard
  exact heard?_works heard

theorem ended_works (inRun : Bool) (ending : Ending) (session : Session) :
    session.Works (Point.ended inRun ending session).session := by
  unfold Point.ended
  split
  · exact settle_works ending session
  · exact .refl session

end Session

end Provisioning
