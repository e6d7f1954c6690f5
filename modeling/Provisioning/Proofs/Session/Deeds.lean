import Provisioning.Proofs.Session.Footprint
import Provisioning.Proofs.Session.Intake
import Provisioning.Proofs.Session.Outcome

/-! # What a session accounts for

What a program does that others can see are its checks and reads, what it tells the operator, the
lines that it takes up and the records that it adds to the key log: its deeds. `Tells` says that a
session has done these and no others, by its own account and by that of its source and the key log.

The flag that keeps a session running lies with its source. It changes with a check, as the
interludes have it, with a read during which the program is asked to stop, and with an event at
which the operator stops it (`Deed.sway`). `Tells.flag` says that it changes in no other way.
-/

namespace Provisioning

/-- What a run does that others can see. -/
inductive Deed where
  /-- It checks whether to go on, and this has happened outside before. -/
  | checked (came : Option Interlude)
  /-- It makes a read, which begins this step of the source's script. -/
  | read (begun : Option ReadStep)
  /-- It takes up what a read has come back with. -/
  | returned (result : Except IoError Bytes)
  /-- It begins to take up a line. -/
  | dispatched (line : String)
  | told (event : Event)
  /-- It adds a record to the key log. -/
  | recorded (record : String)

namespace Deed

def isRead : Deed → Bool
  | read _ => true
  | checked _ | returned _ | dispatched _ | told _ | recorded _ => false

def isDispatch : Deed → Bool
  | dispatched _ => true
  | checked _ | read _ | returned _ | told _ | recorded _ => false

def event? : Deed → Option Event
  | told event => some event
  | checked _ | read _ | returned _ | dispatched _ | recorded _ => none

def record? : Deed → Option Bytes
  | recorded record => some (Bytes.ofText record)
  | checked _ | read _ | returned _ | dispatched _ | told _ => none

/-- The step of the source's script that is begun. -/
def begun? : Deed → Option ReadStep
  | read begun => begun
  | checked _ | returned _ | dispatched _ | told _ | recorded _ => none

/-- What has happened outside. -/
def came? : Deed → Option Interlude
  | checked came => came
  | read _ | returned _ | dispatched _ | told _ | recorded _ => none

/-- What becomes of the number of events that have been told, and of the flag, if the operator stops
the program at these events. The flag changes only as a check finds it, by a read during which the
program is asked to stop, or at such an event. -/
def sway (pauses : List Nat) (told : Nat) (running : Bool) : Deed → Nat × Bool
  | checked came => (told, (came.bind (·.running)).getD running)
  | read begun => (told, running && !begun.any (·.stops))
  | .told _ => (told + 1, running && !decide (told + 1 ∈ pauses))
  | returned _ | dispatched _ | recorded _ => (told, running)

/-- What becomes of the two by one deed after the other. -/
def swayed (pauses : List Nat) (told : Nat) (running : Bool) (deeds : List Deed) : Nat × Bool :=
  deeds.foldl (fun state deed => deed.sway pauses state.1 state.2) (told, running)

private theorem swayed_append (pauses : List Nat) (told : Nat) (running : Bool)
    (deeds more : List Deed) :
    swayed pauses told running (deeds ++ more) =
      swayed pauses (swayed pauses told running deeds).1 (swayed pauses told running deeds).2
        more :=
  List.foldl_append

/-! ### Events that are told -/

/-- Events that are told are of no other kind. -/
theorem countP_told {kind : Deed → Bool} (never : ∀ event, kind (.told event) = false)
    (events : List Event) : (events.map Deed.told).countP kind = 0 := by
  rw [List.countP_eq_zero]
  intro deed done
  obtain ⟨event, _, rfl⟩ := List.mem_map.mp done
  simp [never event]

theorem filterMap_told {Part : Type} {part? : Deed → Option Part}
    (never : ∀ event, part? (.told event) = none) (events : List Event) :
    (events.map Deed.told).filterMap part? = [] := by
  rw [List.filterMap_eq_nil_iff]
  intro deed done
  obtain ⟨event, _, rfl⟩ := List.mem_map.mp done
  exact never event

theorem filterMap_event?_told (events : List Event) :
    (events.map Deed.told).filterMap Deed.event? = events := by
  rw [List.filterMap_map]
  exact List.filterMap_some

/-- The operator stops the program at the next event or at a later one. -/
theorem any_pauses_succ (pauses : List Nat) {told last : Nat} (further : told < last) :
    (pauses.any fun number => told < number && number ≤ last) =
      (decide (told + 1 ∈ pauses) ||
        pauses.any fun number => told + 1 < number && number ≤ last) := by
  rw [Bool.eq_iff_iff]
  simp only [List.any_eq_true, Bool.or_eq_true, Bool.and_eq_true, decide_eq_true_eq]
  constructor
  · rintro ⟨number, member, later, within⟩
    rcases Nat.lt_or_eq_of_le (Nat.succ_le_of_lt later) with beyond | rfl
    · exact .inr ⟨number, member, beyond, within⟩
    · exact .inl member
  · rintro (member | ⟨number, member, later, within⟩)
    · exact ⟨_, member, Nat.lt_succ_self told, further⟩
    · exact ⟨number, member, Nat.lt_of_succ_lt later, within⟩

/-- Events that are told one after the other clear the flag if the operator stops the program at one
of them. -/
theorem swayed_told (pauses : List Nat) (told : Nat) (running : Bool) (events : List Event) :
    swayed pauses told running (events.map .told) =
      (told + events.length, running &&
        !pauses.any fun number => told < number && number ≤ told + events.length) := by
  induction events generalizing told running with
  | nil =>
    have none : (pauses.any fun number => told < number && number ≤ told) = false := by
      rw [List.any_eq_false]
      intro number _
      simp only [Bool.and_eq_true, decide_eq_true_eq, not_and, Nat.not_le, imp_self]
    simp [swayed, none]
  | cons event events ih =>
    have total : told + 1 + events.length = told + (events.length + 1) := by omega
    change swayed pauses (told + 1) (running && !decide (told + 1 ∈ pauses))
      (events.map .told) = _
    rw [ih, List.length_cons, total, Bool.and_assoc, ← Bool.not_or, ← any_pauses_succ]
    omega

end Deed

namespace Source

/-- The step of the script that the next read begins, if it begins one. -/
def due? (source : Source) : Option ReadStep :=
  if source.pending.isEmpty then source.script.head? else none

/-- A read takes that step off the script, and clears the flag if the step says so. -/
theorem read_due? (limit : Nat) (source : Source) :
    source.due?.toList ++ (source.read limit).2.script = source.script ∧
      (source.read limit).2.running = (source.running && !source.due?.any (·.stops)) := by
  cases pending : source.pending with
  | cons byte bytes => simp [due?, read, pending, counted]
  | nil =>
    cases script : source.script with
    | cons step rest =>
      simp only [due?, read, pending, script]
      cases step.outcome <;> exact ⟨rfl, rfl⟩
    | nil =>
      simp only [due?, read, pending, script]
      by_cases closed : source.tail = .closed <;> simp [closed, counted, script]

end Source

namespace Session

/-- The session with another state of its source. -/
def withSource (source : Source) (session : Session) : Session :=
  { session with receiver := { session.receiver with source } }

/-- A line has been taken off the buffer. -/
def take (line : Line) (rest : Bytes) (session : Session) : Session :=
  session.receive line { session.receiver with buffer := rest }

/-- A line of text has been taken off the buffer and counted. -/
def hear (line : Line) (rest : Bytes) (session : Session) : Session :=
  (session.take line rest).count fun tally => { tally with lines := tally.lines + 1 }

end Session

/-! ## Accounts -/

theorem Ledger.Concludes.dispatches {ledger after : Ledger} {part : KeyPart} {refused : Nat}
    (concludes : ledger.Concludes part refused after) :
    after.tally.commands = ledger.tally.commands ∧ after.tally.echoed = ledger.tally.echoed := by
  cases concludes <;> exact ⟨rfl, rfl⟩

theorem Ledger.Concludes.told {ledger after : Ledger} {part : KeyPart} {refused : Nat}
    (concludes : ledger.Concludes part refused after) :
    ∃ events, after.events = ledger.events ++ events := by
  cases concludes with
  | abandoned reason => exact ⟨_, rfl⟩
  | mismatched declared computed => exact ⟨_, rfl⟩
  | recorded size encoded => exact ⟨_, rfl⟩
  | refused size encoded reason => exact ⟨_, List.append_assoc _ _ _⟩

namespace Session

/-- The session has done these things, by its own account and by that of its source and the key
log. What is in store for it has been used up by them, and the flag is as they leave it. -/
structure Tells (before : Session) (deeds : List Deed) (after : Session) : Prop where
  profile : after.profile = before.profile
  reads : after.receiver.source.reads =
    before.receiver.source.reads + deeds.countP Deed.isRead
  dispatches : after.tally.commands + after.tally.echoed =
    before.tally.commands + before.tally.echoed + deeds.countP Deed.isDispatch
  events : after.events.toList = before.events.toList ++ deeds.filterMap Deed.event?
  records : after.files.contents before.profile.keyLog =
    before.files.contents before.profile.keyLog ++ (deeds.filterMap Deed.record?).flatten
  sink : before.transmitter.sink.Leads after.transmitter.sink
  script : before.receiver.source.script =
    deeds.filterMap Deed.begun? ++ after.receiver.source.script
  interludes : before.interludes = deeds.filterMap Deed.came? ++ after.interludes
  pauses : after.pauses = before.pauses
  flag : Deed.swayed before.pauses before.events.size before.running deeds =
    (after.events.size, after.running)

namespace Tells

variable {before middle after : Session} {deeds more : List Deed}

theorem append (left : before.Tells deeds middle) (right : middle.Tells more after) :
    before.Tells (deeds ++ more) after := by
  constructor
  · exact right.profile.trans left.profile
  · rw [right.reads, left.reads, List.countP_append, Nat.add_assoc]
  · rw [right.dispatches, left.dispatches, List.countP_append, Nat.add_assoc]
  · rw [right.events, left.events, List.filterMap_append, List.append_assoc]
  · have records := right.records
    rw [left.profile, left.records] at records
    rw [records, List.filterMap_append, List.flatten_append, List.append_assoc]
  · exact left.sink.trans right.sink
  · rw [left.script, right.script, List.filterMap_append, List.append_assoc]
  · rw [left.interludes, right.interludes, List.filterMap_append, List.append_assoc]
  · exact right.pauses.trans left.pauses
  · rw [Deed.swayed_append, left.flag, ← left.pauses, right.flag]

/-- Nothing has been done, as far as others can see. -/
theorem of_same (profile : after.profile = before.profile)
    (source : after.receiver.source = before.receiver.source)
    (dispatches : after.tally.commands + after.tally.echoed =
      before.tally.commands + before.tally.echoed)
    (events : after.events = before.events)
    (records : after.files.contents before.profile.keyLog =
      before.files.contents before.profile.keyLog)
    (transmitter : after.transmitter = before.transmitter)
    (outlook : after.outlook = before.outlook) : before.Tells [] after := by
  obtain ⟨interludes, pauses⟩ := Prod.mk.inj outlook
  constructor
  case profile => exact profile
  case reads => exact congrArg Source.reads source
  case dispatches => exact dispatches
  case events => rw [events]; exact (List.append_nil _).symm
  case records => rw [records]; exact (List.append_nil _).symm
  case sink => rw [transmitter]; exact .refl
  case script => exact congrArg Source.script source.symm
  case interludes => exact interludes.symm
  case pauses => exact pauses
  case flag => rw [events, running, running, source]; rfl

theorem nil (session : Session) : session.Tells [] session :=
  .of_same rfl rfl rfl rfl rfl rfl rfl

theorem also (tells : before.Tells deeds middle) (same : middle.Tells [] after) :
    before.Tells deeds after := by
  rw [← List.append_nil deeds]
  exact tells.append same

theorem note (tells : before.Tells deeds middle) (level : Level) (message : String)
    (fields : List (String × Journal.Value)) :
    before.Tells deeds (middle.note level message fields) :=
  tells.also (.of_same rfl rfl rfl rfl rfl rfl rfl)

theorem count (tells : before.Tells deeds middle) {change : Tally → Tally}
    (kept : ∀ tally, (change tally).commands + (change tally).echoed =
      tally.commands + tally.echoed) : before.Tells deeds (middle.count change) :=
  tells.also (.of_same rfl rfl (kept _) rfl rfl rfl rfl)

theorem receive (tells : before.Tells deeds middle) {receiver : Receiver}
    (source : receiver.source = middle.receiver.source) :
    before.Tells deeds { middle with receiver } :=
  tells.also (.of_same rfl source rfl rfl rfl rfl rfl)

theorem store (tells : before.Tells deeds middle) {files : FileTree}
    (kept : files.contents middle.profile.keyLog = middle.files.contents middle.profile.keyLog) :
    before.Tells deeds { middle with files } :=
  tells.also (.of_same rfl rfl rfl rfl kept rfl rfl)

theorem returned (tells : before.Tells deeds middle) (result : Except IoError Bytes) :
    before.Tells (deeds ++ [.returned result]) middle := by
  apply tells.append
  exact ⟨rfl, rfl, rfl, (List.append_nil _).symm, (List.append_nil _).symm, .refl, rfl, rfl, rfl,
    rfl⟩

theorem check (tells : before.Tells deeds middle) :
    before.Tells (deeds ++ [.checked middle.interludes.head?]) middle.check := by
  apply tells.append
  unfold Session.check
  split
  all_goals
    rename_i pending
    refine ⟨rfl, rfl, rfl, (List.append_nil _).symm, (List.append_nil _).symm, .refl, rfl, ?_, rfl,
      ?_⟩
    · simp [pending, Deed.came?]
    · simp [pending, Deed.swayed, Deed.sway, running]

theorem read (tells : before.Tells deeds middle) :
    before.Tells (deeds ++ [.read middle.receiver.source.due?])
      (middle.withSource (middle.receiver.source.read readChunkSize).2) := by
  apply tells.append
  obtain ⟨script, flag⟩ := middle.receiver.source.read_due? readChunkSize
  refine ⟨rfl, Source.read_reads _ _, rfl, (List.append_nil _).symm, (List.append_nil _).symm,
    .refl, ?_, rfl, rfl, ?_⟩
  · have begun : [Deed.read middle.receiver.source.due?].filterMap Deed.begun? =
        middle.receiver.source.due?.toList := by
      cases middle.receiver.source.due? <;> rfl
    rw [begun]
    exact script.symm
  · exact Prod.ext rfl flag.symm

theorem deliver (tells : before.Tells deeds middle) (event : Event) :
    before.Tells (deeds ++ [.told event]) (middle.deliver event) := by
  apply tells.append
  simp only [Session.deliver]
  split
  all_goals
    rename_i paused
    refine ⟨rfl, rfl, rfl, ?_, (List.append_nil _).symm, .refl, rfl, rfl, rfl, ?_⟩
    · simp [setRunning, Deed.event?]
    · rw [Array.size_push] at paused
      simp [Deed.swayed, Deed.sway, setRunning, running, paused]

theorem heed (tells : before.Tells deeds middle) (command : Command) (line : String) :
    before.Tells (deeds ++ [.dispatched line]) (middle.heed command) := by
  apply tells.append
  refine ⟨rfl, rfl, ?_, (List.append_nil _).symm, (List.append_nil _).symm, .refl, rfl, rfl, rfl,
    rfl⟩
  simp [Session.heed, Session.count, Session.note, Deed.isDispatch]
  omega

theorem abandon (tells : before.Tells deeds middle) (command : Command) (reason : String) :
    before.Tells (deeds ++ [.told (.abandoned command reason)])
      (middle.abandon command reason) :=
  ((tells.note _ _ _).count (by simp)).deliver _

theorem take (tells : before.Tells deeds middle) (line : Line) (rest : Bytes) :
    before.Tells deeds (middle.take line rest) := by
  cases line with
  | whole text => exact tells.receive rfl
  | piece text =>
    have received : before.Tells deeds
        { middle with receiver := { middle.receiver with buffer := rest } } := tells.receive rfl
    exact received.note _ _ _

theorem hear (tells : before.Tells deeds middle) (line : Line) (rest : Bytes) :
    before.Tells deeds (middle.hear line rest) :=
  (tells.take line rest).count (by simp)

theorem settle (tells : before.Tells deeds middle) (ending : Ending) :
    before.Tells deeds (middle.settle ending).2 := by
  unfold Session.settle
  split
  · exact tells
  · exact tells
  · split
    · exact tells.note _ _ _
    · exact tells

end Tells

/-- Taking up a line is counted once. -/
theorem Outcome.dispatches {line : String} {before after : Session} {acts : List Act}
    {ending : Ending} (outcome : Outcome line before acts ending after) :
    after.tally.commands + after.tally.echoed =
      before.tally.commands + before.tally.echoed + 1 := by
  have command {ledger : Ledger} (books : after.books = ledger)
      (commands : ledger.tally.commands = before.tally.commands + 1)
      (echoed : ledger.tally.echoed = before.tally.echoed) :
      after.tally.commands + after.tally.echoed =
        before.tally.commands + before.tally.echoed + 1 := by
    subst books
    change after.tally.commands = _ at commands
    change after.tally.echoed = _ at echoed
    omega
  cases outcome with
  | echoed _ books =>
    have commands : after.tally.commands = before.tally.commands :=
      congrArg (·.tally.commands) books
    have echoed : after.tally.echoed = before.tally.echoed + 1 := congrArg (·.tally.echoed) books
    omega
  | served _ books _ => exact command books rfl rfl
  | abandoned books => exact command books rfl rfl
  | provisioned books => exact command books rfl rfl
  | deviceFailure books => exact command books rfl rfl
  | concluded concludes =>
    obtain ⟨commands, echoed⟩ := concludes.dispatches
    exact command rfl commands echoed
  | failed _ _ books => exact command books rfl rfl
  | waiting _ books => exact command books rfl rfl

/-- A line that announces no key material is one dispatch, and reads and records nothing. -/
theorem dispatch_tells {line : String} {session after : Session} {ending : Ending}
    {events : List Event} (ordinary : KeyPart.announcedBy? line = none)
    (dispatched : session.dispatch line = (ending, after))
    (told : after.events.toList = session.events.toList ++ events) :
    session.Tells (.dispatched line :: events.map .told) after := by
  have works := (dispatch_obeyed ordinary session).works
  have receiver := receiver_dispatch ordinary session
  have outlook := outlook_dispatch ordinary session
  have outcome := (Dispatches.ordinary session ordinary).outcome
  rw [dispatched] at works receiver outlook outcome
  have source : after.receiver.source = { session.receiver.source with
      running := session.running && !session.pausedSince after } :=
    congrArg Receiver.source receiver
  have files : after.files = session.files := works.files
  obtain ⟨interludes, pauses⟩ := Prod.mk.inj outlook
  constructor
  case profile => exact works.profile
  case reads =>
    rw [source, List.countP_cons, Deed.countP_told fun _ => rfl]
    rfl
  case dispatches =>
    rw [List.countP_cons, Deed.countP_told fun _ => rfl]
    exact outcome.dispatches
  case events =>
    rw [List.filterMap_cons, Deed.event?, Deed.filterMap_event?_told]
    exact told
  case records =>
    rw [files, List.filterMap_cons, Deed.record?, Deed.filterMap_told fun _ => rfl]
    exact (List.append_nil _).symm
  case sink => exact works.sink
  case script =>
    rw [source, List.filterMap_cons, Deed.begun?, Deed.filterMap_told fun _ => rfl]
    rfl
  case interludes =>
    rw [List.filterMap_cons, Deed.came?, Deed.filterMap_told fun _ => rfl]
    exact interludes.symm
  case pauses => exact pauses
  case flag =>
    have size : session.events.size + events.length = after.events.size := by
      simpa using (congrArg List.length told).symm
    have flag : after.running = (session.running && !session.pausedSince after) :=
      congrArg Source.running source
    change Deed.swayed session.pauses session.events.size session.running (events.map .told) = _
    rw [Deed.swayed_told, size, flag, pausedSince]

end Session

end Provisioning
