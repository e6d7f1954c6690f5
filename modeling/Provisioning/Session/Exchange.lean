import Provisioning.Base64
import Provisioning.Session

/-! # Receiving key material

After the device has announced a part of its endorsement key it sends a frame. Before every read for
it the session checks whether it is to go on and whether the time for the exchange is up; in either
case it drops what has arrived of the frame and abandons the exchange. A frame whose checksum is
wrong is dropped; of any other the selected bytes are shown to the operator and added to the key
log.
-/

namespace Provisioning

/-- An exchange that waits for its frame. -/
structure Exchange where
  part : KeyPart
  /-- What the clock showed when it began. -/
  started : Nat
  deriving DecidableEq, Repr

/-- How a step of a session comes out. -/
inductive Ending where
  | done
  | failed (error : SessionError)
  /-- The exchange waits for its frame, and nothing will come any more. -/
  | waiting (exchange : Exchange)
  deriving DecidableEq, Repr

namespace Session

/-- Add a record to the key log. -/
def record (text : String) (session : Session) : Except SessionError Unit × Session :=
  match session.files.append session.profile.keyLog (Bytes.ofText text) with
  | .ok files => (.ok (), { session with files })
  | .error error =>
    (.error (.keyLog session.profile.keyLog error), { session with files := session.files.tried })

theorem record_of_append {text : String} {session : Session} {files : FileTree}
    (appended : session.files.append session.profile.keyLog (Bytes.ofText text) = .ok files) :
    session.record text = (.ok (), { session with files }) := by
  rw [record, appended]

theorem record_of_append_error {text : String} {session : Session} {error : IoError}
    (refused : session.files.append session.profile.keyLog (Bytes.ofText text) = .error error) :
    session.record text = (.error (.keyLog session.profile.keyLog error),
      { session with files := session.files.tried }) := by
  rw [record, refused]

theorem weight_record (text : String) (session : Session) :
    (session.record text).2.weight = session.weight := by
  unfold record
  split <;> rfl

/-- Deal with a frame of key material that has arrived. -/
def accept (part : KeyPart) (frame : Frame) (session : Session) : Session :=
  if frame.verified then
    let material := part.select session.profile.certRange frame.payload
    let encoded := Base64.mime material
    let session := session
      |>.note .info "key material received" [("kind", .quoted part.label),
        ("received", .number frame.payload.length), ("recorded", .number material.length)]
      |>.deliver (.keyMaterial part material.length encoded)
    match session.record encoded with
    | (.ok (), session) =>
      session.count fun tally => { tally with keyRecords := tally.keyRecords + 1 }
    | (.error error, session) => session.abandon part.command error.message
  else
    session
      |>.note .warn part.mismatchMessage [("declared", .number frame.declared.toNat),
        ("computed", .number frame.computed.toNat), ("size", .number frame.payload.length)]
      |>.count (fun tally => { tally with checksumMismatches := tally.checksumMismatches + 1 })
      |>.deliver (.checksumMismatch part frame.declared frame.computed)

/-- Drop what has arrived of a frame because the program is to stop. -/
def cancel (exchange : Exchange) (session : Session) : Session :=
  let (dropped, receiver) := session.receiver.discard
  { session with receiver }
    |>.note .debug "dropping partial frame" [("dropped", .number dropped)]
    |>.abandon exchange.part.command "cancelled"

/-- Drop what has arrived of a frame because the time for it is up. -/
def expire (exchange : Exchange) (limit : Duration) (session : Session) : Session :=
  let (dropped, receiver) := session.receiver.discard
  { session with receiver }.abandon exchange.part.command
    s!"no complete frame within {limit.text} ({dropped} bytes dropped)"

/-- The limit for the exchange, if it has been reached. -/
def expired? (exchange : Exchange) (session : Session) : Option Duration :=
  session.profile.exchangeLimit.filter fun limit =>
    limit.nanos ≤ session.clock - exchange.started

/-- How much of the time for the exchange is left. -/
def timeLeft (exchange : Exchange) (session : Session) : Nat :=
  match session.profile.exchangeLimit with
  | none => 0
  | some limit => exchange.started + limit.nanos - session.clock

/-- Whether an exchange for which nothing comes any more is left waiting: it has no limit, or what
comes next is not known yet. -/
def isOpen (session : Session) : Bool :=
  session.profile.exchangeLimit.isNone || session.receiver.source.tail == .unknown

/-- What becomes of an exchange at one check and the read that may follow it. -/
inductive Progress where
  /-- The exchange has ended. -/
  | ended (ending : Ending)
  /-- The frame is not complete. -/
  | pending

/-- Check whether to go on, and read once if so. -/
def advance (exchange : Exchange) (session : Session) : Progress × Session :=
  let session := session.check
  if session.running then
    match session.expired? exchange with
    | some limit => (.ended .done, session.expire exchange limit)
    | none =>
      match session.receiver.stepFrame with
      | (.ok (some frame), receiver) =>
        let session := { session with receiver }.note .trace "frame received"
          [("size", .number frame.payload.length)]
        (.ended .done, session.accept exchange.part frame)
      | (.ok none, receiver) => (.pending, { session with receiver })
      | (.error error, receiver) =>
        let session := { session with receiver }
        if error.isTimeout then
          if session.isForsaken && session.isOpen then
            (.ended (.waiting exchange), session)
          else (.pending, session)
        else match error with
          | .oversized size max =>
            (.ended .done,
              session.abandon exchange.part.command (FrameError.oversized size max).message)
          | _ => (.ended (.failed (.frame error)), session)
  else (.ended .done, session.cancel exchange)

theorem advance_pending {exchange : Exchange} {session after : Session}
    (result : session.advance exchange = (.pending, after)) :
    after.receiver.source.weight + after.interludes.length <
        session.receiver.source.weight + session.interludes.length ∨
      after.receiver.source.weight + after.interludes.length =
          session.receiver.source.weight + session.interludes.length ∧
        after.timeLeft exchange < session.timeLeft exchange := by
  have checked : session.check.receiver.source.weight = session.receiver.source.weight ∧
      session.check.interludes.length = session.interludes.length - 1 := by
    unfold check
    split
    · rename_i none
      simp [none]
    · rename_i some
      simp [some, Source.weight]
  simp only [advance] at result
  split at result
  · rename_i going
    split at result
    · cases result
    · rename_i within
      split at result
      · cases result
      · rename_i receiver stepped
        cases result
        have := Receiver.stepFrame_none stepped
        refine .inl ?_
        simp only
        omega
      · rename_i error receiver stepped
        split at result
        · rename_i timeout
          split at result
          · cases result
          · rename_i bounded
            cases result
            simp only
            rcases Receiver.stepFrame_timeout stepped timeout with
              lighter | ⟨_, same, silent, clock, tail, running⟩
            · exact .inl (by omega)
            · cases pending : session.interludes with
              | cons interlude rest =>
                rw [pending] at checked
                simp only [List.length_cons] at checked ⊢
                exact .inl (by omega)
              | nil =>
                have unchanged : session.check = session := by simp [check, pending]
                rw [unchanged] at same clock tail running bounded within going ⊢
                refine .inr ⟨by rw [same, pending], ?_⟩
                have goes : receiver.source.running = true := running.trans going
                simp only [isForsaken, isOpen, Session.running, goes, silent, pending] at bounded
                cases limited : session.profile.exchangeLimit with
                | none => simp [limited] at bounded
                | some limit =>
                  -- Each read for a source that is known to be silent takes its time.
                  have waits : session.receiver.source.wait = 1000000 := by
                    simp only [Receiver.isSilent, Source.isSilent, tail, Bool.and_eq_true,
                      bne_iff_ne] at silent
                    cases behind : session.receiver.source.tail with
                    | closed => exact absurd behind silent.2
                    | silent => rw [Source.wait, behind]; rfl
                    | unknown => simp [limited, tail, behind] at bounded
                  simp only [expired?, limited, Option.filter_some, Session.clock] at within
                  simp only [timeLeft, limited, Session.clock, clock, waits]
                  split at within
                  · cases within
                  · rename_i early
                    have early := of_decide_eq_false (Bool.eq_false_iff.mpr early)
                    omega
        · split at result <;> cases result
  · cases result

theorem weight_accept (part : KeyPart) (frame : Frame) (session : Session) :
    (session.accept part frame).weight = session.weight := by
  simp only [accept]
  split
  · split
    all_goals
      rename_i recorded
      have same := congrArg (fun outcome => outcome.2.weight) recorded
      simp only [weight_record, weight_deliver, weight_note] at same
      simp only [weight_count, weight_abandon, ← same]
  · rw [weight_deliver, weight_count, weight_note]

theorem weight_cancel_le (exchange : Exchange) (session : Session) :
    (session.cancel exchange).weight ≤ session.weight := by
  rw [cancel, weight_abandon, weight_note]
  simp only [weight, Receiver.weight, Receiver.discard, List.length_nil]
  omega

theorem weight_expire_le (exchange : Exchange) (limit : Duration) (session : Session) :
    (session.expire exchange limit).weight ≤ session.weight := by
  rw [expire, weight_abandon]
  simp only [weight, Receiver.weight, Receiver.discard, List.length_nil]
  omega

theorem advance_weight_le (exchange : Exchange) (session : Session) :
    (session.advance exchange).2.weight ≤ session.weight := by
  have checked : session.check.weight ≤ session.weight := by
    rw [weight_check, weight]
    omega
  have stepped := Receiver.stepFrame_weight_le session.check.receiver
  refine Nat.le_trans ?_ checked
  simp only [advance]
  split
  · split
    · exact weight_expire_le _ _ _
    · split
      · rename_i frame receiver result
        rw [result] at stepped
        rw [weight_accept, weight_note]
        exact Nat.add_le_add_right stepped _
      · rename_i receiver result
        rw [result] at stepped
        exact Nat.add_le_add_right stepped _
      · rename_i error receiver result
        rw [result] at stepped
        split
        · split <;> exact Nat.add_le_add_right stepped _
        · split
          · rw [weight_abandon]
            exact Nat.add_le_add_right stepped _
          · exact Nat.add_le_add_right stepped _
  · exact weight_cancel_le _ _

/-- Await the frame of an exchange. -/
def exchange (pending : Exchange) (session : Session) : Ending × Session :=
  match result : session.advance pending with
  | (.ended ending, after) => (ending, after)
  | (.pending, after) => after.exchange pending
termination_by
  (session.receiver.source.weight + session.interludes.length, session.timeLeft pending)
decreasing_by
  rcases advance_pending result with lighter | ⟨same, shorter⟩
  · exact .left _ _ lighter
  · rw [same]
    exact .right _ shorter

theorem weight_exchange_le (pending : Exchange) (session : Session) :
    (session.exchange pending).2.weight ≤ session.weight := by
  fun_induction exchange pending session with
  | case1 session ending after advanced =>
    have := advance_weight_le pending session
    rwa [advanced] at this
  | case2 session after advanced ih =>
    have := advance_weight_le pending session
    rw [advanced] at this
    exact Nat.le_trans ih this

end Session

end Provisioning
