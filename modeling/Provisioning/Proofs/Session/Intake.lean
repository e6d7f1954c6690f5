import Provisioning.Proofs.Link.Untimed
import Provisioning.Proofs.Session.Course

/-! # What a session takes off its line

The clock and the flag decide when a session reads, but not what it reads. Outside the receiving
side hardly anything that a session does touches the buffer or the source otherwise (`intake`), so
the bytes that a course has consumed are those that its replies tell of: `Course.spends`.
-/

namespace Provisioning

/-- What the receiving side has come back with. -/
def Act.reply? : Act → Option Receiver.Reply
  | received reply => some reply
  | offered _ | dispatched _ => none

def replies (acts : List Act) : List Receiver.Reply := acts.filterMap Act.reply?

@[simp] theorem replies_append (first second : List Act) :
    replies (first ++ second) = replies first ++ replies second :=
  List.filterMap_append

namespace Session

/-! ## What leaves the receiving side alone -/

/-- The receiving side, without the clock and the flag. -/
def intake (session : Session) : Receiver := session.receiver.untimed

@[simp] theorem intake_note (level : Level) (message : String)
    (fields : List (String × Journal.Value)) (session : Session) :
    (session.note level message fields).intake = session.intake := rfl

@[simp] theorem intake_count (change : Tally → Tally) (session : Session) :
    (session.count change).intake = session.intake := rfl

@[simp] theorem intake_deliver (event : Event) (session : Session) :
    (session.deliver event).intake = session.intake := by
  simp only [deliver]
  split <;> rfl

@[simp] theorem intake_check (session : Session) : session.check.intake = session.intake := by
  unfold check
  split <;> rfl

/-- A check changes nothing but the receiving side and what is to happen before later checks. -/
theorem check_kept (session : Session) :
    ∃ receiver interludes, session.check = { session with receiver, interludes } := by
  unfold check
  split <;> exact ⟨_, _, rfl⟩

@[simp] theorem intake_abandon (command : Command) (reason : String) (session : Session) :
    (session.abandon command reason).intake = session.intake := by
  simp [abandon]

@[simp] theorem intake_served (command : Command) (size : Nat) (session : Session) :
    (session.served command size).intake = session.intake := by
  simp [served]

theorem intake_receive (line : Line) (receiver : Receiver) (session : Session) :
    (session.receive line receiver).intake = receiver.untimed := by
  cases line <;> rfl

private theorem intake_settle (ending : Ending) (session : Session) :
    (session.settle ending).2.intake = session.intake := by
  unfold settle
  split
  · rfl
  · rfl
  · split <;> rfl

private theorem intake_answerRaw (command : Command) (bytes : Bytes) (session : Session) :
    (session.answerRaw command bytes).2.intake = session.intake := by
  simp only [answerRaw]
  split
  · exact intake_served _ _ _
  · rfl

private theorem intake_answerFramed (command : Command) (payload : Bytes) (session : Session) :
    (session.answerFramed command payload).2.intake = session.intake := by
  simp only [answerFramed]
  split
  · exact intake_abandon _ _ _
  · split
    · exact intake_served _ _ _
    · rfl

private theorem intake_respond (command : Command) (answer : Answer) (session : Session) :
    (session.respond command answer).2.intake = session.intake := by
  cases answer with
  | silence => rfl
  | unavailable reason => exact intake_abandon _ _ _
  | raw bytes => exact intake_answerRaw _ _ _
  | framed payload file => cases file with
    | none => exact intake_answerFramed _ _ _
    | some path => exact intake_answerFramed _ _ _

theorem intake_accept (part : KeyPart) (frame : Frame) (session : Session) :
    (session.accept part frame).intake = session.intake := by
  generalize accepted : session.accept part frame = after
  cases accept_cases accepted with
  | mismatched _ => exact intake_deliver _ _
  | recorded _ _ => exact intake_deliver _ _
  | refused _ _ => exact (intake_abandon _ _ _).trans (intake_deliver _ _)

/-- A line that announces no key material leaves the receiving side alone. -/
theorem intake_dispatch {line : String} (ordinary : KeyPart.announcedBy? line = none)
    (session : Session) : (session.dispatch line).2.intake = session.intake := by
  rcases dispatched : session.dispatch line with ⟨ending, after⟩
  cases dispatch_cases ordinary dispatched with
  | echoed _ => exact intake_deliver _ _
  | @answered command _ _ _ _ responded =>
    have same := intake_respond command (command.answer session.profile session.files)
      (session.heed command)
    rw [responded] at same
    exact same
  | provisioned _ => exact intake_deliver _ _
  | deviceFailure _ => exact intake_deliver _ _

theorem intake_ended (inRun : Bool) (ending : Ending) (session : Session) :
    (Point.ended inRun ending session).session.intake = session.intake := by
  unfold Point.ended
  split
  · exact intake_settle ending session
  · rfl

/-! ## Accounts -/

/-- The session has consumed what the receiving side has told of, and nothing else. -/
def Spends (before : Session) (acts : List Act) (after : Session) : Prop :=
  ∃ parts, List.Forall₂ (Receiver.Reply.Consumes before.receiver.maxPayload) (replies acts) parts ∧
    before.receiver.Spends parts.flatten after.receiver

namespace Spends

variable {before middle after : Session} {first second acts : List Act}

theorem trans (left : before.Spends first middle) (right : middle.Spends second after) :
    before.Spends (first ++ second) after := by
  obtain ⟨here, consumed, spent⟩ := left
  obtain ⟨there, more, further⟩ := right
  rw [spent.1] at more
  refine ⟨here ++ there, ?_, ?_⟩
  · rw [replies_append]
    exact List.rel_append consumed more
  · rw [List.flatten_append]
    exact spent.trans further

/-- Nothing is consumed when the receiving side is not called. -/
theorem of_intake (uncalled : replies acts = []) (same : after.intake = before.intake) :
    before.Spends acts after :=
  ⟨[], uncalled ▸ .nil, .of_untimed same⟩

theorem of_accounts {reply : Receiver.Reply} {consumed : Bytes} {receiver : Receiver}
    (called : replies acts = [reply]) (shape : reply.Consumes before.receiver.maxPayload consumed)
    (accounts : before.receiver.Accounts consumed receiver)
    (same : after.intake = receiver.untimed) : before.Spends acts after := by
  refine ⟨[consumed], called ▸ .cons shape .nil, ?_⟩
  exact accounts.spends.trans (.of_untimed same)

theorem later (right : middle.Spends acts after) (same : middle.intake = before.intake) :
    before.Spends acts after := by
  have begun : before.Spends [] middle := .of_intake rfl same
  exact begun.trans right

theorem settled (left : before.Spends acts middle) (same : after.intake = middle.intake) :
    before.Spends acts after := by
  have ended : middle.Spends [] after := .of_intake rfl same
  rw [← List.append_nil acts]
  exact left.trans ended

end Spends

theorem listen_spends (session : Session) :
    session.Spends session.listenActs session.listen.2 := by
  obtain ⟨consumed, shape, accounts⟩ := @Receiver.awaitLine_accounts session.receiver _ _ rfl
  refine .of_accounts rfl (.line shape) accounts ?_
  rcases listened : session.listen with ⟨heard, after⟩
  cases listen_cases listened with
  | line awaited _ | undecodable awaited _ =>
    rw [awaited]
    exact intake_receive _ _ _
  | hungUp awaited | quiet awaited _ | failed awaited _ _ =>
    rw [awaited]
    rfl

theorem replies_advanceActs (exchange : Exchange) (session : Session) :
    replies (session.advanceActs exchange) = [session.advanceReply exchange] := by
  simp only [advanceActs, acceptActs]
  split
  · split <;> rfl
  · rfl

/-- What has come of the read is what the step has consumed. -/
theorem Spends.of_looks {exchange : Exchange} {session after : Session} {receiver : Receiver}
    {result : Except FrameError (Option Frame)} (looks : session.Looks exchange result receiver)
    (same : after.intake = receiver.untimed) :
    session.check.Spends (session.advanceActs exchange) after := by
  obtain ⟨consumed, shape, accounts⟩ := Receiver.stepFrame_accounts looks.stepped
  have read : session.advanceReply exchange = .step result := by
    simp [advanceReply, looks.running, looks.inTime, looks.stepped]
  have called := replies_advanceActs exchange session
  exact .of_accounts called (read ▸ .step shape) accounts same

theorem advance_spends (exchange : Exchange) (session : Session) :
    session.Spends (session.advanceActs exchange) (session.advance exchange).2 := by
  refine .later ?_ (intake_check session)
  have dropped {after : Session} (unread : session.advanceReply exchange =
        .dropped session.check.receiver.buffer.length)
      (same : after.intake = session.check.receiver.discard.2.untimed) :
      session.check.Spends (session.advanceActs exchange) after :=
    .of_accounts (replies_advanceActs exchange session) (unread ▸ .dropped _)
      session.check.receiver.discard_accounts same
  rcases advanced : session.advance exchange with ⟨progress, after⟩
  cases advance_cases advanced with
  | cancelled stopped => exact dropped (by simp [advanceReply, stopped]) (intake_abandon _ _ _)
  | expired _ late => exact dropped (by simp [advanceReply, late]) (intake_abandon _ _ _)
  | arrived looks => exact .of_looks looks (intake_accept _ _ _)
  | oversized looks => exact .of_looks looks (intake_abandon _ _ _)
  | incomplete looks | idle looks _ _ | forsaken looks _ _ | failed looks _ _ =>
    exact .of_looks looks rfl

theorem Awaits.spends {exchange : Exchange} {session after : Session} {acts : List Act}
    {ending : Ending} (awaits : Awaits exchange session acts ending after) :
    session.Spends acts after := by
  induction awaits with
  | @ended session after ending advanced =>
    have spent := advance_spends exchange session
    rwa [advanced] at spent
  | @onward session middle after progress acts ending advanced undecided rest ih =>
    have spent := advance_spends exchange session
    rw [advanced] at spent
    exact spent.trans ih
  | disturbed clock running files rest ih => exact ih.later rfl

theorem Dispatches.spends {line : String} {session after : Session} {acts : List Act}
    {ending : Ending} (taken : Dispatches line session acts ending after) :
    session.Spends acts after := by
  cases taken with
  | ordinary ordinary => exact .of_intake rfl (intake_dispatch ordinary session)
  | announced _ awaits => exact awaits.spends.later rfl

theorem Spends.of_hears {before after : Session} {heard : Except SessionError Heard}
    (hears : before.Hears heard after) : before.Spends before.turnActs after := by
  have spent := listen_spends before.check
  rw [hears.listened] at spent
  rw [turnActs, if_pos hears.running]
  exact spent.later (intake_check before)

/-- What a turn consumes before it takes up a line is what it consumes to hear it. -/
theorem heard?_spends {session middle : Session} {line : String}
    (heard : session.heard? = some (line, middle)) : session.Spends session.turnActs middle := by
  obtain ⟨after, hears, rfl⟩ := heard?_eq_some_iff.mp heard
  exact (Spends.of_hears hears).settled (intake_count _ _)

theorem turn_spends {session : Session} (unheard : session.heard? = none) :
    session.Spends session.turnActs session.turn.2 := by
  rcases turned : session.turn with ⟨outcome, after⟩
  cases turn_cases turned with
  | stopped stopped =>
    rw [turnActs, if_neg (by simp [stopped])]
    exact .of_intake rfl (intake_check session)
  | failed hears | quiet hears _ | forsaken hears _ => exact .of_hears hears
  | hungUp hears => exact (Spends.of_hears hears).settled rfl
  | skipped hears => exact (Spends.of_hears hears).settled (intake_deliver _ _)
  | line heard _ _ =>
    rw [unheard] at heard
    cases heard

theorem Move.spends {before after : Point} {acts : List Act} (move : Move before acts after) :
    before.session.Spends acts after.session := by
  cases move with
  | begin session => exact .of_intake rfl rfl
  | turn unheard => exact turn_spends unheard
  | heard heard taken =>
    exact (heard?_spends heard).trans (taken.spends.settled (intake_ended _ _ _))
  | listen session => exact listen_spends session
  | dispatch taken => exact taken.spends.settled (intake_ended _ _ _)
  | disturbed => exact .of_intake rfl rfl

theorem Course.spends {before after : Point} {acts : List Act}
    (course : Course before acts after) : before.session.Spends acts after.session := by
  induction course with
  | nil => exact .of_intake rfl rfl
  | cons move rest ih => exact move.spends.trans ih

end Session

end Provisioning
