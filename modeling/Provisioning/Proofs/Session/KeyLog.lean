import Provisioning.Proofs.Checksum
import Provisioning.Proofs.Link.Accounting
import Provisioning.Proofs.Session.History

/-! # What is in the key log

Through any history of a new session the key log holds what it held in the beginning and behind it
one record for each frame of key material that has arrived whole, with the checksum that its bytes
have, and could be added. Whatever else becomes of an exchange leaves nothing in it. The session's
counter of key records counts exactly these records.

The record of a frame is told here without the session: the recorded bytes are those at the
positions that `KeyPart.records` admits, and a checksum is right if it is the sum of the bytes
modulo the number of words. `select_eq_material` and `verified_eq_addsUp` say that a session goes by
the same.
-/

namespace Provisioning

/-- The byte at this position of a payload is recorded. -/
def KeyPart.records (part : KeyPart) (range : ByteRange) (index : Nat) : Bool :=
  match part with
  | certificate => range.start ≤ index && index < range.stop
  | publicKey => true

/-- The bytes of a payload at the positions that are recorded. -/
def KeyPart.material (part : KeyPart) (range : ByteRange) (payload : Bytes) : Bytes :=
  (payload.zipIdx.filter fun entry => part.records range entry.2).map Prod.fst

/-- What a range cuts out of a payload that begins at an offset are the bytes at its positions. -/
theorem ByteRange.slice_eq_filter (range : ByteRange) (payload : Bytes) (offset : Nat) :
    (payload.take (range.stop - offset)).drop (range.start - offset) =
      ((payload.zipIdx offset).filter fun entry =>
        range.start ≤ entry.2 && entry.2 < range.stop).map Prod.fst := by
  induction payload generalizing offset with
  | nil => simp
  | cons byte rest ih =>
    have later := ih (offset + 1)
    rw [List.zipIdx_cons]
    rcases Nat.lt_or_ge offset range.stop with inside | past
    · have stop : range.stop - offset = range.stop - (offset + 1) + 1 := by omega
      rw [stop, List.take_succ_cons]
      rcases Nat.lt_or_ge offset range.start with early | begun
      · have start : range.start - offset = range.start - (offset + 1) + 1 := by omega
        have left : ¬ range.start ≤ offset := Nat.not_le.mpr early
        rw [start, List.drop_succ_cons, later, List.filter_cons_of_neg (by simp [left])]
      · have start : range.start - offset = 0 := Nat.sub_eq_zero_of_le begun
        have still : range.start - (offset + 1) = 0 := by omega
        rw [still, List.drop_zero] at later
        rw [start, List.drop_zero, later, List.filter_cons_of_pos (by simp [begun, inside]),
          List.map_cons]
    · have stop : range.stop - offset = 0 := Nat.sub_eq_zero_of_le past
      have still : range.stop - (offset + 1) = 0 := by omega
      have right : ¬ offset < range.stop := Nat.not_lt.mpr past
      rw [still, List.take_zero, List.drop_nil] at later
      rw [stop, List.take_zero, List.drop_nil, List.filter_cons_of_neg (by simp [right]), ← later]

theorem KeyPart.select_eq_material (part : KeyPart) (range : ByteRange) (payload : Bytes) :
    part.select range payload = part.material range payload := by
  cases part with
  | certificate => exact range.slice_eq_filter payload 0
  | publicKey => simp [select, material, records]

example : KeyPart.certificate.material ⟨1, 9⟩ [10, 20, 30] = [20, 30] := by decide

example : KeyPart.certificate.material ⟨2, 1⟩ [10, 20, 30] = [] := by decide

/-- The record that a reception leaves in the key log, if it leaves one. -/
def Reception.record? (profile : Profile) (reception : Reception) : Option Bytes :=
  match reception.frame with
  | none => none
  | some frame =>
    let material := reception.part.material profile.certRange frame.payload
    let record := Bytes.ofText (Base64.mime material)
    if frame.addsUp && (reception.files.append profile.keyLog record).isOk then some record
    else none

namespace Session

/-- These records have been added to the key log, and counted. -/
structure Adds (before : Session) (records : List Bytes) (after : Session) : Prop where
  profile : after.profile = before.profile
  contents : after.files.contents before.profile.keyLog =
    before.files.contents before.profile.keyLog ++ records.flatten
  keyRecords : after.tally.keyRecords = before.tally.keyRecords + records.length

namespace Adds

variable {before middle after : Session} {first second : List Bytes}

theorem nil (session : Session) : session.Adds [] session :=
  ⟨rfl, (List.append_nil _).symm, rfl⟩

theorem append (left : before.Adds first middle) (right : middle.Adds second after) :
    before.Adds (first ++ second) after := by
  constructor
  · exact right.profile.trans left.profile
  · have contents := right.contents
    rw [left.profile, left.contents] at contents
    rw [contents, List.flatten_append, List.append_assoc]
  · rw [right.keyRecords, left.keyRecords, List.length_append, Nat.add_assoc]

theorem of_works (works : before.Works after) : before.Adds [] after := by
  constructor
  · exact works.profile
  · rw [works.files, List.flatten_nil, List.append_nil]
  · exact works.keyRecords

end Adds

/-- A frame that has arrived leaves its record in the key log, or nothing. -/
theorem Accepted.adds {part : KeyPart} {frame : Frame} {before after : Session}
    (accepted : Accepted part frame before after) :
    before.Adds ([⟨part, some frame, before.files⟩].filterMap (Reception.record? before.profile))
      after := by
  cases accepted with
  | dropped wrong works =>
    rw [Frame.verified_eq_addsUp] at wrong
    have none : [⟨part, some frame, before.files⟩].filterMap (Reception.record? before.profile) =
        [] := by
      simp [Reception.record?, wrong]
    rw [none]
    exact .of_works works
  | @refused error middle after right refused works further =>
    rw [KeyPart.select_eq_material] at refused
    have none : [⟨part, some frame, before.files⟩].filterMap (Reception.record? before.profile) =
        [] := by
      simp [Reception.record?, refused, Except.isOk, Except.toBool]
    have tried : before.Adds [] { middle with files := before.files.tried } :=
      ⟨works.profile, (FileTree.contents_tried _ _).trans (List.append_nil _).symm,
        works.keyRecords⟩
    rw [none]
    exact tried.append (.of_works further)
  | @recorded files middle right appended works =>
    rw [Frame.verified_eq_addsUp] at right
    rw [KeyPart.select_eq_material] at appended
    have one : [⟨part, some frame, before.files⟩].filterMap (Reception.record? before.profile) =
        [Bytes.ofText (Base64.mime (part.material before.profile.certRange frame.payload))] := by
      simp [Reception.record?, right, appended, Except.isOk, Except.toBool]
    rw [one]
    constructor
    · exact works.profile
    · have contents := FileTree.contents_append appended
      rw [List.flatten_singleton]
      exact contents
    · exact congrArg (· + 1) works.keyRecords

theorem advance_adds {exchange : Exchange} {session after : Session} {progress : Progress}
    (advanced : session.advance exchange = (progress, after)) :
    session.Adds ([session.reception exchange].filterMap (·.record? session.profile)) after := by
  have outcome := advance_advanced exchange session
  rw [advanced] at outcome
  have nothing (works : session.Works after) (absent : session.arrival? exchange = none) :
      session.Adds ([session.reception exchange].filterMap (·.record? session.profile)) after := by
    have unrecorded : [session.reception exchange].filterMap (·.record? session.profile) = [] := by
      simp [Reception.record?, reception, absent]
    rw [unrecorded]
    exact .of_works works
  cases outcome with
  | pending works absent => exact nothing works absent
  | abandoned works absent => exact nothing works absent
  | failed works absent broken => exact nothing works absent
  | waiting works absent forsaken => exact nothing works absent
  | @received frame middle works arrived =>
    have added := (accept_accepted exchange.part frame middle).adds
    rw [works.profile, works.files] at added
    rw [reception, arrived]
    exact (Adds.of_works works).append added

/-- What a step has received is what it adds to the key log. -/
theorem Step.adds {before after : Point} {received : List Reception}
    (step : Step before received after) :
    before.session.Adds (received.filterMap (·.record? before.session.profile)) after.session := by
  cases step with
  | begin session => exact .of_works ((Works.refl session).note _ _ _)
  | turn ordinary => exact .of_works (turn_works ordinary)
  | announced heard => exact .of_works ((announcement?_works heard).heed _)
  | listen session => exact .of_works (listen_listened session).works
  | @dispatch session line ordinary => exact .of_works (dispatch_obeyed ordinary session).works
  | @announce session line part announced => exact .of_works ((Works.refl session).heed _)
  | pending advanced => exact advance_adds advanced
  | @ended session after exchange inRun ending advanced =>
    have added := (advance_adds advanced).append (.of_works (ended_works inRun ending after))
    rwa [List.append_nil] at added
  | outside standing session clock running =>
    exact .of_works ⟨⟨.outside _ _ _, .refl⟩, rfl, rfl, rfl⟩
  | elsewhere standing kept => exact ⟨rfl, kept.trans (List.append_nil _).symm, rfl⟩

theorem Trail.adds {before after : Point} {receptions : List Reception}
    (trail : Trail before receptions after) :
    before.session.Adds (receptions.filterMap (·.record? before.session.profile))
      after.session := by
  induction trail with
  | nil point => exact .nil point.session
  | cons step rest ih =>
    have first := step.adds
    rw [first.profile] at ih
    rw [List.filterMap_append]
    exact first.append ih

/-- A frame that has arrived was on the line: its length, its payload and its checksum have been
taken off what had been read before or was read for it. -/
theorem arrival?_consumes {exchange : Exchange} {session : Session} {frame : Frame}
    (arrived : session.arrival? exchange = some frame) :
    frame.payload.length ≤ session.check.receiver.maxPayload ∧
      session.check.receiver.Accounts frame.wire session.check.receiver.stepFrame.2 := by
  simp only [arrival?] at arrived
  split at arrived
  · split at arrived
    · rename_i stepped
      cases arrived
      obtain ⟨consumed, shape, accounts⟩ := Receiver.stepFrame_accounts stepped
      cases shape with
      | frame accepted declarable =>
        rw [stepped]
        exact ⟨accepted, accounts⟩
    · cases arrived
  · cases arrived

/-- At any point the host may come to refuse the next append, whatever the key log holds. -/
theorem Trail.refused (point : Point) (error : IoError) :
    let refusing :=
      { point.session.files with appends := some error :: point.session.files.appends }
    Trail point [] ⟨point.standing, { point.session with files := refusing }⟩ ∧
      ∀ path bytes, refusing.append path bytes = .error error := by
  refine ⟨.cons (.elsewhere point.standing ?_) (.nil _), fun path bytes => rfl⟩
  exact FileTree.contents_appends _ _ _

/-- At every point of every history of a new session the key log holds what it held at first and,
in order, the records of what has been received, and the session has counted these. The host may
refuse to add any one of them, also behind others. What is received are frames from the line, and
every call is such a history. -/
theorem keyLog_history (profile : Profile) (source : Source) (sink : Sink) (files : FileTree)
    (pauses : List Nat) (interludes : List Interlude) :
    (∀ receptions point,
      Trail ⟨.idle, { start profile source sink files with pauses, interludes }⟩ receptions point →
        point.session.files.contents profile.keyLog =
            files.contents profile.keyLog ++ (receptions.filterMap (·.record? profile)).flatten ∧
          point.session.tally.keyRecords = (receptions.filterMap (·.record? profile)).length) ∧
      (∀ (point : Point) (error : IoError),
        let refusing :=
          { point.session.files with appends := some error :: point.session.files.appends }
        Trail point [] ⟨point.standing, { point.session with files := refusing }⟩ ∧
          ∀ path bytes, refusing.append path bytes = .error error) ∧
      (∀ exchange session frame, (reception exchange session).frame = some frame →
        session.check.receiver.Accounts frame.wire session.check.receiver.stepFrame.2) ∧
      ∀ session : Session,
        Reaches ⟨.idle, session⟩ ⟨session.run.1.standing, session.run.2⟩ ∧
          Reaches ⟨.idle, session⟩ ⟨.idle, session.listen.2⟩ ∧
          (∀ line, Reaches ⟨.idle, session⟩
            ⟨(session.dispatch line).1.standing, (session.dispatch line).2⟩) ∧
          ∀ pending, Reaches ⟨.ofPending pending, session⟩
            ⟨(session.resume pending).1.standing, (session.resume pending).2⟩ := by
  constructor
  · intro receptions point trail
    have added := trail.adds
    have first : (start profile source sink files).tally.keyRecords = 0 := rfl
    have counted := added.keyRecords
    rw [first, Nat.zero_add] at counted
    exact ⟨added.contents, counted⟩
  constructor
  · exact Trail.refused
  constructor
  · intro exchange session frame arrived
    exact (arrival?_consumes arrived).2
  · intro session
    exact ⟨run_reaches session, listen_reaches session, fun line => dispatch_reaches line session,
      fun pending => resume_reaches pending session⟩

end Session

end Provisioning
