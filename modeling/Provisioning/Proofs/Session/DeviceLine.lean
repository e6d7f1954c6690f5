import Mathlib.Data.List.Induction
import Provisioning.Proofs.Link.Pieces
import Provisioning.Proofs.Session.Intake
import Provisioning.Proofs.Session.Interpretation

/-! # What a device has sent when a run takes up a command

A line starts where the stream does, and behind a line feed that ended a line, a frame, the length
of a frame that was too large, and bytes that were dropped. When a run takes up a command, what the
device has sent since the last such place is the command's literal and a line feed, with at most one
carriage return between them, unless the line is longer than `maxLineLength`. Of such a line the run
may have taken up pieces of that length before, each as a line of its own, and what is left behind
them is compared with the literals like any other line.
-/

namespace Provisioning

namespace Receiver

/-- What the receiving side takes off the line next begins a line. -/
def Reply.startsLine : Reply → Bool
  | line (.ok (.whole _)) => true
  | frame (.ok _) => true
  | frame (.error (.oversized _ _)) => true
  | step (.ok (some _)) => true
  | step (.error (.oversized _ _)) => true
  | dropped count => count != 0
  | _ => false

/-- A piece of a line that grew too long. -/
def Reply.piece? : Reply → Option Bytes
  | line (.ok (.piece text)) => some text
  | _ => none

/-- A frame that has been looked for leaves the stream in the middle of a line only if nothing has
been consumed. -/
theorem FrameConsumes.of_middle {maxPayload : Nat} {result : Except FrameError (Option Frame)}
    {consumed : Bytes} (consumes : FrameConsumes maxPayload result consumed)
    (middle : (Reply.step result).startsLine = false) : consumed = [] := by
  cases consumes with
  | incomplete => rfl
  | frame accepted declarable => cases middle
  | oversized large declarable => cases middle
  | failed link => rfl

/-- In the middle of a line nothing is consumed but pieces of it. -/
theorem Reply.Consumes.of_middle {maxPayload : Nat} {reply : Reply} {consumed : Bytes}
    (consumes : reply.Consumes maxPayload consumed) (middle : reply.startsLine = false) :
    consumed = reply.piece?.getD [] := by
  cases consumes with
  | line shape => cases shape with
    | whole oneLine shape => cases middle
    | piece oneLine full => rfl
    | failed link => rfl
  | @frame result consumed shape =>
    refine shape.of_middle ?_
    rcases result with error | frame
    · cases error <;> first | rfl | cases middle
    · cases middle
  | step shape => exact shape.of_middle middle
  | dropped consumed =>
    have none : consumed.length = 0 := by simpa [startsLine] using middle
    exact List.length_eq_zero_iff.mp none

/-- A piece has the length at which a line is cut, and no line feed. -/
theorem Reply.Consumes.piece {maxPayload : Nat} {reply : Reply} {consumed piece : Bytes}
    (consumes : reply.Consumes maxPayload consumed) (cut : reply.piece? = some piece) :
    piece.length = maxLineLength ∧ lineFeed ∉ piece := by
  cases consumes with
  | line shape => cases shape with
    | whole oneLine shape => cases cut
    | piece oneLine full =>
      cases cut
      exact ⟨full, oneLine⟩
    | failed link => cases cut
  | frame shape => cases cut
  | step shape => cases cut
  | dropped consumed => cases cut

end Receiver

namespace Act

/-- What the session takes off the line next begins a line. -/
def startsLine (act : Act) : Bool := act.reply?.any Receiver.Reply.startsLine

end Act

/-- Behind these acts a line begins. -/
def AtLineStart (acts : List Act) : Prop :=
  ∀ last ∈ acts.getLast?, last.startsLine = true

/-- The pieces of a line that were handed out because it grew too long. -/
def pieces (acts : List Act) : List Bytes := (replies acts).filterMap Receiver.Reply.piece?

/-- What has happened is what has happened until the last line began, and since. -/
theorem exists_lineStart (acts : List Act) :
    ∃ started since, acts = started ++ since ∧ AtLineStart started ∧
      ∀ act ∈ since, act.startsLine = false := by
  induction acts using List.reverseRecOn with
  | nil => exact ⟨[], [], rfl, by simp [AtLineStart], by simp⟩
  | append_singleton acts act ih =>
    cases starts : act.startsLine with
    | true =>
      refine ⟨acts ++ [act], [], (List.append_nil _).symm, ?_, by simp⟩
      simpa [AtLineStart] using starts
    | false =>
      obtain ⟨started, since, rfl, begun, middle⟩ := ih
      refine ⟨started, since ++ [act], List.append_assoc _ _ _, begun, ?_⟩
      intro other member
      rcases List.mem_append.mp member with earlier | same
      · exact middle other earlier
      · cases List.mem_singleton.mp same
        exact starts

theorem mem_replies {acts : List Act} {reply : Receiver.Reply} :
    reply ∈ replies acts ↔ .received reply ∈ acts := by
  rw [replies, List.mem_filterMap]
  constructor
  · rintro ⟨act, member, same⟩
    cases act with
    | received reply =>
      cases same
      exact member
    | offered | dispatched => cases same
  · intro member
    exact ⟨_, member, rfl⟩

/-- What is consumed in the middle of a line are its pieces. -/
theorem flatten_eq_pieces {maxPayload : Nat} {since : List Act} {parts : List Bytes}
    (middle : ∀ act ∈ since, act.startsLine = false)
    (consumed : List.Forall₂ (Receiver.Reply.Consumes maxPayload) (replies since) parts) :
    parts.flatten = (pieces since).flatten := by
  have unstarted : ∀ reply ∈ replies since, reply.startsLine = false := by
    intro reply member
    have quiet := middle _ (mem_replies.mp member)
    simpa [Act.startsLine, Act.reply?] using quiet
  rw [pieces]
  generalize replies since = told at unstarted consumed
  induction consumed with
  | nil => rfl
  | @cons reply part others parts first rest ih =>
    have later := ih fun reply member => unstarted reply (List.mem_cons_of_mem _ member)
    have same := first.of_middle (unstarted reply List.mem_cons_self)
    rw [List.flatten_cons, later, same, List.filterMap_cons]
    cases reply.piece? <;> rfl

theorem length_of_mem_pieces {maxPayload : Nat} {acts : List Act} {parts : List Bytes}
    (consumed : List.Forall₂ (Receiver.Reply.Consumes maxPayload) (replies acts) parts) :
    ∀ piece ∈ pieces acts, piece.length = maxLineLength ∧ lineFeed ∉ piece := by
  intro piece member
  rw [pieces] at member
  generalize replies acts = told at member consumed
  induction consumed with
  | nil => cases member
  | cons first rest ih =>
    obtain ⟨reply, told, cut⟩ := List.mem_filterMap.mp member
    rcases List.mem_cons.mp told with rfl | later
    · exact first.piece cut
    · exact ih (List.mem_filterMap.mpr ⟨reply, later, cut⟩)

/-- What two stretches have consumed is what the first has and then what the second has. -/
theorem exists_parts {maxPayload : Nat} {first second : List Act} {parts : List Bytes}
    (consumed :
      List.Forall₂ (Receiver.Reply.Consumes maxPayload) (replies (first ++ second)) parts) :
    ∃ here there, parts = here ++ there ∧
      List.Forall₂ (Receiver.Reply.Consumes maxPayload) (replies first) here ∧
        List.Forall₂ (Receiver.Reply.Consumes maxPayload) (replies second) there := by
  rw [replies_append] at consumed
  have flipped := consumed.flip
  exact ⟨_, _, (List.take_append_drop _ parts).symm,
    (List.forall₂_take_append _ _ _ flipped).flip, (List.forall₂_drop_append _ _ _ flipped).flip⟩

theorem Command.length_literal (command : Command) :
    0 < (Bytes.ofText command.literal).length ∧
      (Bytes.ofText command.literal).length < maxLineLength := by
  have short : ∀ command ∈ all, 0 < (Bytes.ofText command.literal).length ∧
      (Bytes.ofText command.literal).length < maxLineLength := by decide
  exact short command (mem_all command)

namespace Session

/-- What has been consumed in two stretches of a session is told by the replies of each. -/
theorem Spends.split {before after : Session} {first second : List Act}
    (spent : before.Spends (first ++ second) after) :
    ∃ here there,
      List.Forall₂ (Receiver.Reply.Consumes before.receiver.maxPayload) (replies first) here ∧
        List.Forall₂ (Receiver.Reply.Consumes before.receiver.maxPayload) (replies second) there ∧
          before.receiver.Spends (here.flatten ++ there.flatten) after.receiver := by
  obtain ⟨parts, consumed, spends⟩ := spent
  obtain ⟨here, there, rfl, past, rest⟩ := exists_parts consumed
  rw [List.flatten_append] at spends
  exact ⟨here, there, past, rest, spends⟩

/-- In an attentive session a piece is taken up like a line. -/
theorem turn_of_awaitLine {session : Session} (attentive : session.Attentive) {line : Line}
    {receiver : Receiver} {rest : Bytes} {text : String}
    (awaited : session.check.receiver.awaitLine = (.ok line, receiver))
    (received : session.check.receiver.Leaves rest receiver)
    (decoded : Bytes.text? line.text = some text)
    (ordinary : KeyPart.announcedBy? text = none) :
    ∃ after, session.turn = (.onward, after) ∧
      session.Leaves rest (session.ledger.lineRead.takeUp session.profile text) after := by
  have checked := attentive.leaves.check
  have read : ∃ middle, session.check.listen = (.ok (.line text), middle) ∧
      session.Leaves rest session.ledger middle := by
    simp only [listen, awaited, decoded]
    refine ⟨_, rfl, ?_⟩
    cases line with
    | whole text => exact checked.receive received
    | piece text => exact (checked.receive received).note _ _ _
  obtain ⟨middle, listened, leaves⟩ := read
  obtain ⟨after, dispatched, taken⟩ := dispatch_of_attentive
    (leaves.count fun tally => { tally with lines := tally.lines + 1 }) ordinary
  refine ⟨after, ?_, taken⟩
  simp only [turn, checked.attentive.running, if_true, listened, dispatched, settle]

/-- There is a text of any length. -/
theorem exists_chatter (length : Nat) : ∃ text, Bytes.ofText text = List.replicate length 120 := by
  induction length with
  | zero => exact ⟨"", rfl⟩
  | succ length ih =>
    obtain ⟨text, same⟩ := ih
    refine ⟨"x" ++ text, ?_⟩
    rw [Bytes.ofText_append, same]
    rfl

/-- A text of the length at which a line is cut is no command. -/
theorem ofLine?_of_length {text : String} (long : (Bytes.ofText text).length = maxLineLength) :
    Command.ofLine? text = none := by
  cases known : Command.ofLine? text with
  | none => rfl
  | some command =>
    rw [Command.ofLine?_eq_some_iff.mp known] at long
    exact absurd long (Nat.ne_of_lt command.length_literal.2)

/-- A device that sends a text of that length and a command directly behind it. -/
def chatterSource (chatter : Bytes) : Source where
  pending := chatter ++ (Bytes.ofText Command.hostCheck.literal ++ [lineFeed])

theorem run_chatterSource {text : String} (plain : lineFeed ∉ Bytes.ofText text)
    (full : (Bytes.ofText text).length = maxLineLength) :
    ∃ after, run (start {} (chatterSource (Bytes.ofText text)) {} {}) =
        (.finished after.tally, after) ∧
      after.ledger = {
        files := {}
        tally := { lines := 2, commands := 1, echoed := 1, served := 1 }
        events := [.echo text, .served .hostCheck 4]
        written := Bytes.ofWord 0x4D464748 } := by
  have attentive : (start {} (chatterSource (Bytes.ofText text)) {} {}).Attentive :=
    ⟨rfl, rfl, nofun, rfl, rfl, rfl, rfl, rfl⟩
  have begun := attentive.leaves.note .info "awaiting device commands" []
  have unknown := ofLine?_of_length full
  have ordinary : KeyPart.announcedBy? text = none := by
    cases announced : KeyPart.announcedBy? text with
    | none => rfl
    | some part =>
      rw [KeyPart.announcedBy?_eq_some announced, Command.ofLine?_eq_some_iff.mpr rfl] at unknown
      cases unknown
  have awaited := Receiver.awaitLine_of_plain plain full 8
    (start {} (chatterSource (Bytes.ofText text)) {} {}).receiver rfl
    (by simp [start, readChunkSize, maxLineLength])
  obtain ⟨middle, turned, taken⟩ := turn_of_awaitLine begun.attentive awaited
    ⟨rfl, rfl, rfl, rfl⟩ (Bytes.text?_ofText text) ordinary
  have echoed : middle.ledger = {
      files := {}
      tally := { lines := 1, echoed := 1 }
      events := [.echo text] } := by
    rw [taken.ledger, Ledger.takeUp, unknown]
    rfl
  have behind : middle.stream = Bytes.ofText Command.hostCheck.literal ++ [lineFeed] := taken.stream
  obtain ⟨after, ran, account⟩ := loop_of_attentive taken.attentive
    (.of_length_lt _ (by rw [behind]; decide))
  refine ⟨after, ?_, ?_⟩
  · rw [run, loop_eq, turned]
    exact ran
  · have profile : middle.profile = {} := taken.profile
    have found : firstMessage? (Profile.maxPayload {})
        (Bytes.ofText Command.hostCheck.literal ++ [lineFeed]) =
          some (.line Command.hostCheck.literal, []) := by decide
    rw [account, echoed, behind, profile, Ledger.meaning, messages_of_some found, messages_nil]
    rfl

/-! ## Commands -/

end Session

end Provisioning
