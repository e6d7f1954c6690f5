import Provisioning.Proofs.Session.Deeds

/-! # The instants of a run

A history told by turns and exchanges cannot tell what the program is about when something happens
from outside in the middle of one. Here a run goes through instants instead: it is about to check
whether to go on, it has checked, it looks at what has arrived, a read is under way or has come
back, the record of a frame has been shown and not yet been added to the key log (`Stage`). From one
instant to the next it makes at most one check or read, tells the operator of at most one thing or
takes up one line that announces no key material (`Instant.Does`), and `Deed` names what it has
done. There is never a choice: what the program does at an instant, and where that leads, is told by
the instant (`Does.unique`). The clock and the flag that keeps the session running change only with
its own checks, reads and events. `Instant.Next` lets others change them at any time besides, and
the host's files too.

A `Path` goes from instant to instant, each of which is as a predicate says. `Path.tells` says that
the deeds on it are those that the session itself accounts for, and that the flag is as they leave
it (`Deed.sway`); `Path.exists_rest` says that a path to an end of the run passes through every
instant that can be reached.
-/

namespace Provisioning

namespace Purpose

/-- The exchange whose frame is awaited. -/
def exchange? : Purpose → Option Exchange
  | line => none
  | frame exchange => some exchange

/-- What is noted in the log when the device hangs up. -/
def farewell : Purpose → String
  | line => "device closed the link"
  | frame _ => "device closed the link mid-exchange"

end Purpose

/-- What a run is about. -/
inductive Stage where
  /-- The run has not begun. -/
  | idle
  /-- It is about to check whether to go on. -/
  | checking (purpose : Purpose)
  /-- It has checked, and goes on or does not. -/
  | deciding (purpose : Purpose)
  /-- It looks at what has arrived, and may have read more for it. -/
  | looking (purpose : Purpose) (filled : Bool)
  /-- A read is under way. -/
  | reading (purpose : Purpose)
  /-- A read has come back. -/
  | answered (purpose : Purpose) (result : Except IoError Bytes)
  /-- The operator has been shown the record of a frame. -/
  | shown (part : KeyPart) (frame : Frame)
  | ended (outcome : RunEnd)

namespace Session

/-- A frame has been taken off the buffer. -/
def takeFrame (frame : Frame) (receiver : Receiver) (session : Session) : Session :=
  { session with receiver }.note .trace "frame received" [("size", .number frame.payload.length)]

end Session

/-- A session and what its run is about. -/
structure Instant where
  stage : Stage
  session : Session

namespace Instant

/-- Where a turn leaves the run. -/
def ofTurn : Turn × Session → Instant
  | (.onward, session) => ⟨.checking .line, session⟩
  | (.stopped, session) => ⟨.ended (.finished session.tally), session⟩
  | (.failed error, session) => ⟨.ended (.failed error), session⟩
  | (.waiting pending, session) => ⟨.ended (.waiting pending), session⟩

/-- What the program does at an instant, and where that leads. -/
inductive Does : Instant → List Deed → Instant → Prop where
  | begin (session : Session) :
      Does ⟨.idle, session⟩ [] ⟨.checking .line, session.note .info "awaiting device commands" []⟩
  | check (purpose : Purpose) (session : Session) :
      Does ⟨.checking purpose, session⟩ [.checked session.interludes.head?]
        ⟨.deciding purpose, session.check⟩
  | stop {session : Session} (stopped : session.running = false) :
      Does ⟨.deciding .line, session⟩ [] ⟨.ended (.finished session.tally), session⟩
  | listen {session : Session} (running : session.running = true) :
      Does ⟨.deciding .line, session⟩ [] ⟨.looking .line false, session⟩
  /-- A line that is not text is skipped. -/
  | skip {session : Session} {filled : Bool} {line : Line} {rest : Bytes}
      (cut : cutLine? session.receiver.buffer = some (line, rest))
      (garbled : Bytes.text? line.text = none) :
      Does ⟨.looking .line filled, session⟩ [.told (.undecodable line.text.length)]
        ⟨.checking .line, (session.take line rest).skip line.text.length⟩
  /-- A line that announces no key material is taken up. -/
  | dispatch {session after : Session} {filled : Bool} {line : Line} {rest : Bytes} {text : String}
      {ending : Ending} {events : List Event}
      (cut : cutLine? session.receiver.buffer = some (line, rest))
      (decoded : Bytes.text? line.text = some text) (ordinary : KeyPart.announcedBy? text = none)
      (dispatched : (session.hear line rest).dispatch text = (ending, after))
      (told : after.events.toList = (session.hear line rest).events.toList ++ events) :
      Does ⟨.looking .line filled, session⟩ (.dispatched text :: events.map .told)
        (ofTurn (after.settle ending))
  /-- A line that announces key material is taken up. -/
  | announce {session : Session} {filled : Bool} {line : Line} {rest : Bytes} {text : String}
      {part : KeyPart} (cut : cutLine? session.receiver.buffer = some (line, rest))
      (decoded : Bytes.text? line.text = some text)
      (announced : KeyPart.announcedBy? text = some part) :
      Does ⟨.looking .line filled, session⟩ [.dispatched text]
        ⟨.checking (.frame ⟨part, (session.hear line rest).clock⟩),
          (session.hear line rest).heed part.command⟩
  | cancel {session : Session} {exchange : Exchange} (stopped : session.running = false) :
      Does ⟨.deciding (.frame exchange), session⟩
        [.told (.abandoned exchange.part.command "cancelled")]
        ⟨.checking .line, session.cancel exchange⟩
  | expire {session : Session} {exchange : Exchange} {limit : Duration} {event : Event}
      (running : session.running = true) (late : session.expired? exchange = some limit)
      (told : (session.expire exchange limit).events = session.events.push event) :
      Does ⟨.deciding (.frame exchange), session⟩ [.told event]
        ⟨.checking .line, session.expire exchange limit⟩
  | await {session : Session} {exchange : Exchange} (running : session.running = true)
      (inTime : session.expired? exchange = none) :
      Does ⟨.deciding (.frame exchange), session⟩ [] ⟨.looking (.frame exchange) false, session⟩
  | oversized {session : Session} {exchange : Exchange} {filled : Bool} {size max : Nat}
      {receiver : Receiver}
      (taken : session.receiver.takeFrame = (.error (.oversized size max), receiver)) :
      Does ⟨.looking (.frame exchange) filled, session⟩
        [.told (.abandoned exchange.part.command (FrameError.oversized size max).message)]
        ⟨.checking .line, { session with receiver }.abandon exchange.part.command
          (FrameError.oversized size max).message⟩
  | mismatch {session : Session} {exchange : Exchange} {filled : Bool} {frame : Frame}
      {receiver : Receiver} (taken : session.receiver.takeFrame = (.ok (some frame), receiver))
      (wrong : frame.verified = false) :
      Does ⟨.looking (.frame exchange) filled, session⟩
        [.told (.checksumMismatch exchange.part frame.declared frame.computed)]
        ⟨.checking .line, (session.takeFrame frame receiver).reportMismatch exchange.part frame⟩
  | display {session : Session} {exchange : Exchange} {filled : Bool} {frame : Frame}
      {receiver : Receiver} (taken : session.receiver.takeFrame = (.ok (some frame), receiver))
      (right : frame.verified = true) :
      Does ⟨.looking (.frame exchange) filled, session⟩
        [.told (.keyMaterial exchange.part
          (exchange.part.select session.profile.certRange frame.payload).length
          (session.entry exchange.part frame))]
        ⟨.shown exchange.part frame,
          (session.takeFrame frame receiver).display exchange.part frame⟩
  | record {session : Session} {part : KeyPart} {frame : Frame} {files : FileTree}
      (appended : session.files.append session.profile.keyLog
        (Bytes.ofText (session.entry part frame)) = .ok files) :
      Does ⟨.shown part frame, session⟩ [.recorded (session.entry part frame)]
        ⟨.checking .line, { session with files }.count fun tally =>
          { tally with keyRecords := tally.keyRecords + 1 }⟩
  | refuse {session : Session} {part : KeyPart} {frame : Frame} {error : IoError}
      (refused : session.files.append session.profile.keyLog
        (Bytes.ofText (session.entry part frame)) = .error error) :
      Does ⟨.shown part frame, session⟩
        [.told (.abandoned part.command (SessionError.keyLog session.profile.keyLog error).message)]
        ⟨.checking .line, { session with files := session.files.tried }.abandon part.command
          (SessionError.keyLog session.profile.keyLog error).message⟩
  /-- No whole line has arrived. -/
  | lackLine {session : Session} {filled : Bool} (uncut : cutLine? session.receiver.buffer = none) :
      Does ⟨.looking .line filled, session⟩ [] ⟨.reading .line, session⟩
  /-- No whole frame has arrived. -/
  | lackFrame {session : Session} {exchange : Exchange}
      (untaken : session.receiver.takeFrame = (.ok none, session.receiver)) :
      Does ⟨.looking (.frame exchange) false, session⟩ [] ⟨.reading (.frame exchange), session⟩
  /-- Nor has it after a read for it. -/
  | incomplete {session : Session} {exchange : Exchange}
      (untaken : session.receiver.takeFrame = (.ok none, session.receiver)) :
      Does ⟨.looking (.frame exchange) true, session⟩ [] ⟨.checking (.frame exchange), session⟩
  | read (purpose : Purpose) (session : Session) :
      Does ⟨.reading purpose, session⟩ [.read session.receiver.source.due?]
        ⟨.answered purpose (session.receiver.source.read readChunkSize).1,
          session.withSource (session.receiver.source.read readChunkSize).2⟩
  | retry {session : Session} {error : IoError} (purpose : Purpose)
      (interrupted : error.kind = .interrupted) :
      Does ⟨.answered purpose (.error error), session⟩ [.returned (.error error)]
        ⟨.reading purpose, session⟩
  | arrive (purpose : Purpose) (session : Session) (byte : UInt8) (bytes : Bytes) :
      Does ⟨.answered purpose (.ok (byte :: bytes)), session⟩ [.returned (.ok (byte :: bytes))]
        ⟨.looking purpose true, { session with
          receiver := { session.receiver with
            buffer := session.receiver.buffer ++ byte :: bytes } }⟩
  | hangUp (purpose : Purpose) (session : Session) :
      Does ⟨.answered purpose (.ok []), session⟩ [.returned (.ok [])]
        ⟨.ended (.finished session.tally), session.note .info purpose.farewell []⟩
  | quiet {session : Session} {error : IoError} (purpose : Purpose)
      (timeout : error.kind.isTimeout = true) (hopeful : session.givesUp purpose = false) :
      Does ⟨.answered purpose (.error error), session⟩ [.returned (.error error)]
        ⟨.checking purpose, session⟩
  | forsaken {session : Session} {error : IoError} (purpose : Purpose)
      (timeout : error.kind.isTimeout = true) (hopeless : session.givesUp purpose = true) :
      Does ⟨.answered purpose (.error error), session⟩ [.returned (.error error)]
        ⟨.ended (.waiting purpose.exchange?), session⟩
  | fail {session : Session} {error : IoError} (purpose : Purpose)
      (uninterrupted : error.kind ≠ .interrupted) (lasting : error.kind.isTimeout = false) :
      Does ⟨.answered purpose (.error error), session⟩ [.returned (.error error)]
        ⟨.ended (.failed (.frame (.io error))), session⟩

/-- From one instant to the next, and what is done in between: the program does something, or
something happens outside. Whether a wait for which nothing is in store goes on is left open. -/
inductive Next : Instant → List Deed → Instant → Prop where
  | does {before after : Instant} {deeds : List Deed} (does : Does before deeds after) :
      Next before deeds after
  | persist {session : Session} {error : IoError} (purpose : Purpose)
      (timeout : error.kind.isTimeout = true) :
      Next ⟨.answered purpose (.error error), session⟩ [.returned (.error error)]
        ⟨.checking purpose, session⟩
  | desert {session : Session} {error : IoError} (purpose : Purpose)
      (timeout : error.kind.isTimeout = true) (forsaken : session.isForsaken = true) :
      Next ⟨.answered purpose (.error error), session⟩ [.returned (.error error)]
        ⟨.ended (.waiting purpose.exchange?), session⟩
  /-- Time passes, the flag changes, or the host's files do, except for the key log. -/
  | outside (stage : Stage) {session : Session} (clock : Nat) (running : Bool) {files : FileTree}
      (kept : files.contents session.profile.keyLog =
        session.files.contents session.profile.keyLog) :
      Next ⟨stage, session⟩ [] ⟨stage, session.disturbed clock running files⟩

/-- From one instant through others to the last, each of them as the predicate says, and what has
been done on the way. -/
inductive Path (moves : Instant → List Deed → Instant → Prop) (holds : Instant → Prop)
    (first : Instant) : List Deed → Instant → Prop where
  | nil (here : holds first) : Path moves holds first [] first
  | snoc {middle last : Instant} {deeds more : List Deed}
      (past : Path moves holds first deeds middle) (step : moves middle more last)
      (here : holds last) : Path moves holds first (deeds ++ more) last

namespace Path

variable {moves : Instant → List Deed → Instant → Prop} {holds : Instant → Prop}
  {first middle last : Instant} {deeds more : List Deed}

theorem here (path : Path moves holds first deeds last) : holds last := by
  cases path with
  | nil here => exact here
  | snoc _ _ here => exact here

theorem start (path : Path moves holds first deeds last) : holds first := by
  induction path with
  | nil here => exact here
  | snoc _ _ _ ih => exact ih

theorem single (before : holds first) (step : moves first deeds last) (after : holds last) :
    Path moves holds first deeds last :=
  .snoc (.nil before) step after

theorem append (left : Path moves holds first deeds middle)
    (right : Path moves holds middle more last) :
    Path moves holds first (deeds ++ more) last := by
  induction right with
  | nil => rwa [List.append_nil]
  | snoc _ step here ih =>
    rw [← List.append_assoc]
    exact .snoc ih step here

theorem imp {freely : Instant → List Deed → Instant → Prop} {weaker : Instant → Prop}
    (path : Path moves holds first deeds last)
    (moves : ∀ {before deeds after}, moves before deeds after → freely before deeds after)
    (holds : ∀ {instant}, holds instant → weaker instant) :
    Path freely weaker first deeds last := by
  induction path with
  | nil here => exact .nil (holds here)
  | snoc _ step here ih => exact .snoc ih (moves step) (holds here)

end Path

/-! ## No choice -/

/-- An instant tells what the program does at it, and where that leads. -/
theorem Does.unique {before after other : Instant} {deeds more : List Deed}
    (one : Does before deeds after) (another : Does before more other) :
    more = deeds ∧ other = after := by
  -- Two steps from one instant either ask for opposite things or find the same.
  cases one with
  | dispatch cut decoded ordinary dispatched told =>
    cases another with
    | dispatch sameCut sameDecoded _ sameDispatched sameTold =>
      cases Option.some.inj (cut.symm.trans sameCut)
      cases Option.some.inj (decoded.symm.trans sameDecoded)
      cases dispatched.symm.trans sameDispatched
      cases List.append_cancel_left (told.symm.trans sameTold)
      exact ⟨rfl, rfl⟩
    | skip | announce | lackLine => grind
  | expire running late told =>
    cases another with
    | expire _ sameLate sameTold =>
      cases Option.some.inj (late.symm.trans sameLate)
      cases (Array.push_inj_right.mp (told.symm.trans sameTold) :)
      exact ⟨rfl, rfl⟩
    | cancel | await => grind
  | begin | check | stop | listen | skip | announce | cancel | await | oversized | mismatch
  | display | record | refuse | lackLine | lackFrame | incomplete | read | retry | arrive | hangUp
  | quiet | forsaken | fail => cases another <;> grind [IoKind.isTimeout]

namespace Path

variable {holds : Instant → Prop} {first point last : Instant} {sooner deeds : List Deed}

/-- A path has come to its end, or begins with a step. -/
theorem first_step {moves : Instant → List Deed → Instant → Prop}
    (path : Path moves holds first deeds last) :
    first = last ∧ deeds = [] ∨
      ∃ here next more, moves first here next ∧ Path moves holds next more last ∧
        deeds = here ++ more := by
  induction path with
  | nil => exact .inl ⟨rfl, rfl⟩
  | @snoc middle last deeds more past step here ih =>
    rcases ih with ⟨rfl, rfl⟩ | ⟨begun, next, later, start, rest, rfl⟩
    · exact .inr ⟨more, last, [], step, .nil here, (List.append_nil _).symm⟩
    · exact .inr ⟨begun, next, later ++ more, start, rest.snoc step here,
        List.append_assoc _ _ _⟩

/-- Where a path cannot go on, it has come through every instant that can be reached, and what was
done up to there is the beginning of what is done on it. -/
theorem exists_rest (path : Path Does holds first deeds last)
    (final : ∀ more next, Does last more next → ¬ holds next)
    (part : Path Does holds first sooner point) :
    ∃ more, deeds = sooner ++ more ∧ Path Does holds point more last := by
  induction part with
  | nil => exact ⟨deeds, rfl, path⟩
  | snoc _ step here ih =>
    obtain ⟨more, rfl, rest⟩ := ih
    rcases rest.first_step with ⟨rfl, rfl⟩ | ⟨_, _, later, same, behind, rfl⟩
    · exact absurd here (final _ _ step)
    · obtain ⟨rfl, rfl⟩ := step.unique same
      exact ⟨later, (List.append_assoc _ _ _).symm, behind⟩

end Path

/-- The program goes from one instant to the other. -/
def Becomes (first last : Instant) : Prop := ∃ deeds, Path Does (fun _ => True) first deeds last

theorem Becomes.refl (instant : Instant) : instant.Becomes instant := ⟨[], .nil trivial⟩

theorem Becomes.trans {first middle last : Instant} (left : first.Becomes middle)
    (right : middle.Becomes last) : first.Becomes last := by
  obtain ⟨deeds, left⟩ := left
  obtain ⟨more, right⟩ := right
  exact ⟨deeds ++ more, left.append right⟩

theorem Does.becomes {first last : Instant} {deeds : List Deed} (step : Does first deeds last) :
    first.Becomes last :=
  ⟨deeds, .single trivial step trivial⟩

end Instant

/-! ## What is done on a path -/

theorem Receiver.source_takeFrame {receiver after : Receiver}
    {result : Except FrameError (Option Frame)} (taken : receiver.takeFrame = (result, after)) :
    after.source = receiver.source := by
  unfold takeFrame at taken
  split at taken <;> cases taken <;> rfl

namespace Instant

theorem session_ofTurn (outcome : Turn × Session) : (ofTurn outcome).session = outcome.2 := by
  rcases outcome with ⟨turn, session⟩
  cases turn <;> rfl

/-- What is done from one instant to the next is what the session accounts for. -/
theorem Does.tells {before after : Instant} {deeds : List Deed} (step : Does before deeds after) :
    before.session.Tells deeds after.session := by
  have still := Session.Tells.nil before.session
  cases step with
  | begin => exact still.note _ _ _
  | check => exact still.check
  | stop | listen | await | lackLine | lackFrame | incomplete => exact still
  | read => exact still.read
  | retry | quiet | forsaken | fail => exact still.returned _
  | arrive => exact Session.Tells.receive (still.returned _) rfl
  | hangUp => exact (still.returned _).note _ _ _
  | skip => exact (((still.take _ _).note _ _ _).count (by simp)).deliver _
  | @dispatch _ _ _ line rest _ ending _ _ _ ordinary dispatched told =>
    rw [session_ofTurn]
    have taken := Session.dispatch_tells ordinary dispatched told
    exact ((still.hear line rest).append taken).settle ending
  | announce => exact (still.hear _ _).heed _ _
  | @cancel session =>
    have dropped : session.Tells [] { session with receiver := session.receiver.discard.2 } :=
      still.receive rfl
    exact (dropped.note _ _ _).abandon _ _
  | @expire session exchange limit event _ _ told =>
    have dropped : session.Tells [] { session with receiver := session.receiver.discard.2 } :=
      still.receive rfl
    have abandoned := dropped.abandon exchange.part.command
      s!"no complete frame within {limit.text} ({session.receiver.discard.1} bytes dropped)"
    -- The step names its event by what the session tells, so the two have to be compared.
    have events := abandoned.events
    change (session.expire exchange limit).events.toList = _ at events
    rw [told, Array.toList_push, List.append_cancel_left_eq] at events
    cases events
    exact abandoned
  | @oversized session exchange _ _ _ receiver taken =>
    have received : session.Tells [] { session with receiver } :=
      still.receive (Receiver.source_takeFrame taken)
    exact received.abandon _ _
  | @mismatch session _ _ _ receiver taken =>
    have received : session.Tells [] { session with receiver } :=
      still.receive (Receiver.source_takeFrame taken)
    exact (((received.note _ _ _).note _ _ _).count (by simp)).deliver _
  | @display session _ _ _ receiver taken =>
    have received : session.Tells [] { session with receiver } :=
      still.receive (Receiver.source_takeFrame taken)
    exact ((received.note _ _ _).note _ _ _).deliver _
  | record appended =>
    have longer := FileTree.contents_append appended
    refine ⟨rfl, rfl, rfl, (List.append_nil _).symm, ?_, .refl, rfl, rfl, rfl, rfl⟩
    rw [List.filterMap_cons, Deed.record?, List.filterMap_nil, List.flatten_singleton]
    exact longer
  | refuse => exact (still.store (FileTree.contents_tried _ _)).abandon _ _

theorem Path.tells {holds : Instant → Prop} {first last : Instant} {deeds : List Deed}
    (path : Path Does holds first deeds last) : first.session.Tells deeds last.session := by
  induction path with
  | nil => exact .nil first.session
  | snoc _ step _ ih => exact ih.append step.tells

end Instant

end Provisioning
