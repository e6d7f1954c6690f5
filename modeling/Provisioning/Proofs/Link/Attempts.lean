import Provisioning.Proofs.Checksum
import Provisioning.Proofs.Link.Sending

/-! # Sending, one attempt after the other

A call of the sending side is a sequence of writes and flushes. Each of these attempts is kept here
with what came of it, so that a call can be told by its attempts alone: `Tries` has them in the
order in which a call makes them, and `Sink.Undergoes` brings a sink through them. How the call
comes out and what the line gets is then read off the attempts (`Exactly`).

A transmitter is used again and again and keeps the last frame that it put together, also one that
was cut off in the middle. `perform_exactly` says that none of this is ever seen: whatever calls
came before, a call does what it would do on a new transmitter.
-/

namespace Provisioning

/-- A write or a flush, and what came of it. -/
inductive Attempt where
  | write (offered : Bytes) (result : Except IoError Nat)
  | flush (result : Except IoError Unit)

/-- The error, if it is of no kind after which the attempt is made again. -/
def IoError.lasting? (error : IoError) : Option IoError :=
  if error.kind ∈ [.interrupted, .wouldBlock] then none else some error

private theorem IoError.lasting?_eq (error : IoError) :
    error.lasting? = if error.kind.isTransient then none else some error := by
  simp [lasting?, IoKind.isTransient]

namespace Attempt

/-- What the sink took. -/
def taken : Attempt → Bytes
  | write offered (.ok count) => offered.take count
  | write _ (.error _) | flush _ => []

/-- The error with which the attempt failed for good. -/
def failure? : Attempt → Option IoError
  | write _ (.error error) | flush (.error error) => error.lasting?
  | write _ (.ok _) | flush (.ok _) => none

end Attempt

/-- All that the sink took in these attempts. -/
def taken (attempts : List Attempt) : Bytes := attempts.flatMap Attempt.taken

@[simp] theorem taken_cons (attempt : Attempt) (attempts : List Attempt) :
    taken (attempt :: attempts) = attempt.taken ++ taken attempts :=
  List.flatMap_cons

/-- The attempts of a call that is to write these bytes, and how it comes out. -/
inductive Tries : Bytes → List Attempt → Except FrameError Unit → Prop where
  | flushed : Tries [] [.flush (.ok ())] (.ok ())
  | unflushed {error : IoError} (lasting : error.kind.isTransient = false) :
      Tries [] [.flush (.error error)] (.error (.io error))
  | flushAgain {error : IoError} {attempts : List Attempt} {result : Except FrameError Unit}
      (transient : error.kind.isTransient = true) (rest : Tries [] attempts result) :
      Tries [] (.flush (.error error) :: attempts) result
  | refused {bytes : Bytes} (some : bytes ≠ []) :
      Tries bytes [.write bytes (.ok 0)] (.error .closed)
  | unwritten {bytes : Bytes} {error : IoError} (some : bytes ≠ [])
      (lasting : error.kind.isTransient = false) :
      Tries bytes [.write bytes (.error error)] (.error (.io error))
  | writeAgain {bytes : Bytes} {error : IoError} {attempts : List Attempt}
      {result : Except FrameError Unit} (some : bytes ≠ [])
      (transient : error.kind.isTransient = true) (rest : Tries bytes attempts result) :
      Tries bytes (.write bytes (.error error) :: attempts) result
  | took {bytes : Bytes} {count : Nat} {attempts : List Attempt} {result : Except FrameError Unit}
      (fits : count + 1 ≤ bytes.length) (rest : Tries (bytes.drop (count + 1)) attempts result) :
      Tries bytes (.write bytes (.ok (count + 1)) :: attempts) result

/-! ## What the attempts tell -/

/-- A flush has succeeded when the sink had taken just these bytes. -/
def Completes (bytes : Bytes) (attempts : List Attempt) : Prop :=
  ∃ earlier later, attempts = earlier ++ .flush (.ok ()) :: later ∧ taken earlier = bytes

private theorem completes_cons_iff {bytes : Bytes} {attempt : Attempt} {attempts : List Attempt}
    (other : attempt ≠ .flush (.ok ())) :
    Completes bytes (attempt :: attempts) ↔
      ∃ rest, bytes = attempt.taken ++ rest ∧ Completes rest attempts := by
  constructor
  · rintro ⟨earlier, later, split, all⟩
    cases earlier with
    | nil => exact absurd (List.cons.inj split).1 other
    | cons first earlier =>
      obtain ⟨rfl, rfl⟩ := List.cons.inj split
      exact ⟨taken earlier, all.symm, earlier, later, rfl, rfl⟩
  · rintro ⟨rest, rfl, earlier, later, rfl, rfl⟩
    exact ⟨attempt :: earlier, later, rfl, rfl⟩

namespace Tries

variable {bytes : Bytes} {attempts : List Attempt} {result : Except FrameError Unit}

theorem beginning (tries : Tries bytes attempts result) : taken attempts <+: bytes := by
  induction tries with
  | flushed | unflushed | refused | unwritten => exact List.nil_prefix
  | flushAgain _ _ ih | writeAgain _ _ _ ih => exact ih
  | @took bytes count attempts result _ _ ih =>
    obtain ⟨behind, all⟩ := ih
    refine ⟨behind, ?_⟩
    rw [taken_cons, Attempt.taken, List.append_assoc, all, List.take_append_drop]

/-- A write offers what the sink has not taken yet. -/
theorem offers (tries : Tries bytes attempts result) {earlier later : List Attempt}
    {offered : Bytes} {outcome : Except IoError Nat}
    (split : attempts = earlier ++ .write offered outcome :: later) :
    offered ≠ [] ∧ offered = bytes.drop (taken earlier).length := by
  induction tries generalizing earlier with
  | flushed | unflushed =>
    rcases earlier with _ | ⟨_, _ | ⟨_, _⟩⟩ <;> simp at split
  | flushAgain _ _ ih =>
    cases earlier with
    | nil => cases (List.cons.inj split).1
    | cons first earlier =>
      obtain ⟨rfl, rest⟩ := List.cons.inj split
      have offers := ih rest
      exact offers
  | refused some | unwritten some =>
    cases earlier with
    | nil =>
      cases (List.cons.inj split).1
      exact ⟨some, rfl⟩
    | cons first earlier => simp at split
  | writeAgain some _ _ ih =>
    cases earlier with
    | nil =>
      cases (List.cons.inj split).1
      exact ⟨some, rfl⟩
    | cons first earlier =>
      obtain ⟨rfl, rest⟩ := List.cons.inj split
      have offers := ih rest
      exact offers
  | @took bytes count attempts result fits _ ih =>
    cases earlier with
    | nil =>
      cases (List.cons.inj split).1
      exact ⟨List.ne_nil_of_length_pos (by omega), rfl⟩
    | cons first earlier =>
      obtain ⟨rfl, rest⟩ := List.cons.inj split
      obtain ⟨some, same⟩ := ih rest
      have size : (taken (.write bytes (.ok (count + 1)) :: earlier)).length =
          count + 1 + (taken earlier).length := by
        rw [taken_cons, Attempt.taken, List.length_append, List.length_take_of_le fits]
      rw [size, ← List.drop_drop]
      exact ⟨some, same⟩

theorem ok_iff (tries : Tries bytes attempts result) :
    result = .ok () ↔ Completes bytes attempts := by
  have last {attempt : Attempt} {error : FrameError} {bytes : Bytes}
      (other : attempt ≠ .flush (.ok ())) :
      (Except.error error : Except FrameError Unit) = .ok () ↔ Completes bytes [attempt] := by
    rw [completes_cons_iff other]
    simp [Completes]
  induction tries with
  | flushed => exact iff_of_true rfl ⟨[], [], rfl, rfl⟩
  | unflushed | refused | unwritten => exact last nofun
  | flushAgain _ _ ih | writeAgain _ _ _ ih =>
    refine ih.trans (.symm ?_)
    rw [completes_cons_iff (by nofun)]
    simp [Attempt.taken]
  | @took bytes count attempts result _ _ ih =>
    refine ih.trans (.symm ?_)
    rw [completes_cons_iff (by nofun), Attempt.taken]
    constructor
    · rintro ⟨rest, all, completes⟩
      have same := (List.take_append_drop (count + 1) bytes).trans all
      rwa [List.append_cancel_left same]
    · intro completes
      exact ⟨_, (List.take_append_drop _ _).symm, completes⟩

theorem closed_iff (tries : Tries bytes attempts result) :
    result = .error .closed ↔ ∃ offered, .write offered (.ok 0) ∈ attempts := by
  induction tries with
  | flushed | unflushed | refused | unwritten => simp
  | flushAgain _ _ ih | writeAgain _ _ _ ih | took _ _ ih => simp [ih]

theorem io_iff (tries : Tries bytes attempts result) (error : IoError) :
    result = .error (.io error) ↔ attempts.findSome? Attempt.failure? = some error := by
  induction tries with
  | flushed | refused => simp [Attempt.failure?]
  | unflushed lasting | unwritten _ lasting =>
    simp [Attempt.failure?, IoError.lasting?_eq, lasting]
  | flushAgain transient _ ih | writeAgain _ transient _ ih =>
    rw [ih, List.findSome?_cons, Attempt.failure?, IoError.lasting?_eq, transient]
    rfl
  | took _ _ ih => rw [ih, List.findSome?_cons, Attempt.failure?]

theorem outcome (tries : Tries bytes attempts result) :
    result = .ok () ∨ result = .error .closed ∨ ∃ error, result = .error (.io error) := by
  induction tries with
  | flushed => exact .inl rfl
  | refused => exact .inr (.inl rfl)
  | unflushed | unwritten => exact .inr (.inr ⟨_, rfl⟩)
  | flushAgain _ _ ih | writeAgain _ _ _ ih | took _ _ ih => exact ih

end Tries

/-- How a call comes out that was to write these bytes, and what has become of them. -/
structure Exactly (bytes : Bytes) (attempts : List Attempt) (result : Except FrameError Unit) :
    Prop where
  /-- The sink took the beginning of the bytes. -/
  beginning : taken attempts <+: bytes
  /-- Each write offers what the sink has not taken yet: nothing is left out, nothing repeated. -/
  offers : ∀ earlier offered outcome later,
    attempts = earlier ++ .write offered outcome :: later →
      offered ≠ [] ∧ offered = bytes.drop (taken earlier).length
  ok : result = .ok () ↔
    ∃ earlier later, attempts = earlier ++ .flush (.ok ()) :: later ∧ taken earlier = bytes
  closed : result = .error .closed ↔ ∃ offered, .write offered (.ok 0) ∈ attempts
  io : ∀ error, result = .error (.io error) ↔
    attempts.findSome? Attempt.failure? = some error
  outcome : result = .ok () ∨ result = .error .closed ∨ ∃ error, result = .error (.io error)

theorem Tries.exactly {bytes : Bytes} {attempts : List Attempt} {result : Except FrameError Unit}
    (tries : Tries bytes attempts result) : Exactly bytes attempts result where
  beginning := tries.beginning
  offers := fun _ _ _ _ split => tries.offers split
  ok := tries.ok_iff
  closed := tries.closed_iff
  io := tries.io_iff
  outcome := tries.outcome

/-! ## The attempts of a call -/

namespace Sink

/-- The sink is brought through these attempts, one after the other. -/
inductive Undergoes : Sink → List Attempt → Sink → Prop where
  | nil (sink : Sink) : Undergoes sink [] sink
  | write {sink next after : Sink} {offered : Bytes} {result : Except IoError Nat}
      {later : List Attempt} (writing : sink.write offered = (result, next))
      (rest : Undergoes next later after) :
      Undergoes sink (.write offered result :: later) after
  | flush {sink next after : Sink} {result : Except IoError Unit} {later : List Attempt}
      (flushing : sink.flush = (result, next)) (rest : Undergoes next later after) :
      Undergoes sink (.flush result :: later) after

/-- What the sink takes in the attempts comes behind what it had taken before. -/
theorem Undergoes.written {sink after : Sink} {attempts : List Attempt}
    (undergoes : sink.Undergoes attempts after) :
    after.written = sink.written ++ Provisioning.taken attempts := by
  induction undergoes with
  | nil sink => exact (List.append_nil _).symm
  | @write sink next after offered result later writing _ ih =>
    rw [ih, taken_cons, ← List.append_assoc]
    cases result with
    | ok count => rw [(write_ok writing).2.2, Attempt.taken]
    | error error => rw [(write_error writing).2, Attempt.taken, List.append_nil]
  | @flush sink next after result later flushing _ ih =>
    have same := flush_written sink
    rw [flushing] at same
    rw [ih, same]
    rfl

/-- The first write of some bytes, and how it goes on from there. -/
theorem writeAll_eq {bytes : Bytes} (some : bytes ≠ []) (sink : Sink) :
    sink.writeAll bytes = match sink.write bytes with
      | (.ok 0, after) => (.error .closed, after)
      | (.ok (count + 1), after) => after.writeAll (bytes.drop (count + 1))
      | (.error error, after) =>
        if error.kind.isTransient then after.writeAll bytes else (.error (.io error), after) := by
  rw [writeAll, if_neg (by simpa using some)]
  split
  all_goals
    rename_i writing
    rw [writing]

/-- The first flush, and how it goes on from there. -/
theorem flushAll_eq (sink : Sink) :
    sink.flushAll = match sink.flush with
      | (.ok (), after) => (.ok (), after)
      | (.error error, after) =>
        if error.kind.isTransient then after.flushAll else (.error (.io error), after) := by
  rw [flushAll]
  split
  all_goals
    rename_i flushing
    rw [flushing]

private theorem flushAll_tries {sink after : Sink} {result : Except FrameError Unit}
    (flushing : sink.flushAll = (result, after)) :
    ∃ attempts, sink.Undergoes attempts after ∧ Tries [] attempts result := by
  fun_induction flushAll sink with
  | case1 sink next flushed =>
    cases flushing
    exact ⟨_, .flush flushed (.nil _), .flushed⟩
  | case2 sink error next flushed transient ih =>
    obtain ⟨attempts, undergoes, tries⟩ := ih flushing
    exact ⟨_, .flush flushed undergoes, .flushAgain transient tries⟩
  | case3 sink error next flushed lasting =>
    cases flushing
    exact ⟨_, .flush flushed (.nil _), .unflushed (Bool.eq_false_iff.mpr lasting)⟩

/-! ## What had been taken before -/

/-- The sink with a history: what had been taken and flushed in it comes first. -/
def behind (history sink : Sink) : Sink :=
  { sink with taken := history.taken ++ sink.taken, flushed := history.flushed + sink.flushed }

/-- The sink without its history. -/
def renewed (sink : Sink) : Sink := { writes := sink.writes, flushes := sink.flushes }

private theorem behind_renewed (sink : Sink) : sink.behind sink.renewed = sink := by
  simp [behind, renewed]

private theorem write_behind (bytes : Bytes) (history sink : Sink) :
    (history.behind sink).write bytes =
      ((sink.write bytes).1, history.behind (sink.write bytes).2) := by
  rcases sink with ⟨_ | ⟨_ | max, rest⟩, flushes, taken, flushed⟩ <;> simp [behind, write]

private theorem flush_behind (history sink : Sink) :
    (history.behind sink).flush = (sink.flush.1, history.behind sink.flush.2) := by
  rcases sink with ⟨writes, _ | ⟨_ | error, rest⟩, taken, flushed⟩ <;>
    simp [behind, flush, Nat.add_assoc]

private theorem writeAll_behind (bytes : Bytes) (history sink : Sink) :
    (history.behind sink).writeAll bytes =
      ((sink.writeAll bytes).1, history.behind (sink.writeAll bytes).2) := by
  fun_induction writeAll bytes sink with
  | case1 bytes sink empty => rw [writeAll, if_pos empty]
  | case2 bytes sink some next offered =>
    rw [writeAll_eq (by simpa using some), write_behind, offered]
  | case3 bytes sink some count next offered ih =>
    rw [writeAll_eq (by simpa using some), write_behind, offered]
    exact ih
  | case4 bytes sink some error next offered transient ih =>
    rw [writeAll_eq (by simpa using some), write_behind, offered]
    exact (if_pos transient).trans ih
  | case5 bytes sink some error next offered lasting =>
    rw [writeAll_eq (by simpa using some), write_behind, offered]
    exact if_neg lasting

private theorem flushAll_behind (history sink : Sink) :
    (history.behind sink).flushAll = (sink.flushAll.1, history.behind sink.flushAll.2) := by
  fun_induction flushAll sink with
  | case1 sink next flushed => rw [flushAll_eq, flush_behind, flushed]
  | case2 sink error next flushed transient ih =>
    rw [flushAll_eq, flush_behind, flushed]
    exact (if_pos transient).trans ih
  | case3 sink error next flushed lasting =>
    rw [flushAll_eq, flush_behind, flushed]
    exact if_neg lasting

end Sink

/-! ## Calls -/

namespace Transmitter

private theorem sendRaw_tries (bytes : Bytes) (sink : Sink) (maxPayload : Nat) (buffer : Bytes) :
    ∃ attempts,
      sink.Undergoes attempts (sendRaw bytes ⟨sink, maxPayload, buffer⟩).2.sink ∧
        Tries bytes attempts (sendRaw bytes ⟨sink, maxPayload, buffer⟩).1 := by
  simp only [sendRaw]
  fun_induction Sink.writeAll bytes sink with
  | case1 bytes sink empty =>
    rw [List.isEmpty_iff.mp empty]
    exact Sink.flushAll_tries rfl
  | case2 bytes sink some next offered =>
    exact ⟨_, .write offered (.nil next), .refused (by simpa using some)⟩
  | case3 bytes sink some count next offered ih =>
    obtain ⟨attempts, undergoes, tries⟩ := ih
    exact ⟨_, .write offered undergoes, .took (Sink.write_ok offered).1 tries⟩
  | case4 bytes sink some error next offered transient ih =>
    obtain ⟨attempts, undergoes, tries⟩ := ih
    exact ⟨_, .write offered undergoes, .writeAgain (by simpa using some) transient tries⟩
  | case5 bytes sink some error next offered lasting =>
    exact ⟨_, .write offered (.nil next),
      .unwritten (by simpa using some) (Bool.eq_false_iff.mpr lasting)⟩

/-- Sending depends on what is left of the sink's script, and on nothing else. -/
theorem sendRaw_behind {used new : Transmitter} {history : Sink}
    (same : used.sink = history.behind new.sink) (bytes : Bytes) :
    (used.sendRaw bytes).1 = (new.sendRaw bytes).1 ∧
      (used.sendRaw bytes).2.sink = history.behind (new.sendRaw bytes).2.sink := by
  simp only [sendRaw, flush, same, Sink.writeAll_behind]
  rcases new.sink.writeAll bytes with ⟨_ | _, middle⟩
  · exact ⟨rfl, rfl⟩
  · simp only [Sink.flushAll_behind]
    exact ⟨trivial, trivial⟩

theorem sendRaw_maxPayload (bytes : Bytes) (transmitter : Transmitter) :
    (transmitter.sendRaw bytes).2.maxPayload = transmitter.maxPayload := by
  unfold sendRaw
  split <;> rfl

/-- What can be asked of a transmitter. -/
inductive Call where
  | send (payload : Bytes)
  | sendRaw (bytes : Bytes)
  | flush

def perform (call : Call) (transmitter : Transmitter) : Except FrameError Unit × Transmitter :=
  match call with
  | .send payload => transmitter.send payload
  | .sendRaw bytes => transmitter.sendRaw bytes
  | .flush => transmitter.flush

/-- The transmitter once these calls have been made, whatever came of them. -/
def performAll (transmitter : Transmitter) : List Call → Transmitter
  | [] => transmitter
  | call :: rest => (transmitter.perform call).2.performAll rest

/-- What a call is to write: a payload between its length and the sum of its bytes, each a word, and
anything else as it is. -/
def Call.bytes : Call → Bytes
  | send payload =>
    Bytes.ofWord (UInt32.ofNat payload.length) ++ payload ++
      Bytes.ofWord (UInt32.ofNat (Bytes.total payload % UInt32.size))
  | sendRaw bytes => bytes
  | flush => []

/-- Why a call leaves the line alone: its payload is too long for the limit, or for a word. -/
def Call.refusal? (maxPayload : Nat) : Call → Option FrameError
  | send payload =>
    if maxPayload < payload.length then some (.oversized payload.length maxPayload)
    else if maxDeclaredLength < payload.length then
      some (.oversized payload.length maxDeclaredLength)
    else none
  | sendRaw _ | flush => none

private theorem wire_ofPayload (payload : Bytes) :
    (Frame.ofPayload payload).wire = (Call.send payload).bytes := by
  have sum : UInt32.ofNat (Bytes.total payload % UInt32.size) = checksum payload := by
    rw [← toNat_checksum, UInt32.ofNat_toNat]
  rw [Call.bytes, sum]
  rfl

private theorem encodeWithin_eq (maxPayload : Nat) (payload : Bytes) :
    Frame.encodeWithin maxPayload payload =
      match (Call.send payload).refusal? maxPayload with
      | some error => .error error
      | none => .ok (Call.send payload).bytes := by
  simp only [Frame.encodeWithin, Frame.encode, Call.refusal?, wire_ofPayload]
  grind

theorem perform_maxPayload (call : Call) (transmitter : Transmitter) :
    (transmitter.perform call).2.maxPayload = transmitter.maxPayload := by
  cases call with
  | send payload =>
    cases encoded : Frame.encodeWithin transmitter.maxPayload payload with
    | ok wire =>
      rw [perform, send_of_encoded encoded]
      exact sendRaw_maxPayload wire _
    | error error =>
      obtain ⟨after, refused, _, kept⟩ := send_of_refused encoded
      rw [perform, refused]
      exact kept
  | sendRaw bytes => exact sendRaw_maxPayload bytes transmitter
  | flush => rfl

private theorem performAll_maxPayload (calls : List Call) (transmitter : Transmitter) :
    (transmitter.performAll calls).maxPayload = transmitter.maxPayload := by
  induction calls generalizing transmitter with
  | nil => rfl
  | cons call rest ih => exact (ih _).trans (perform_maxPayload call transmitter)

/-- Whatever has been sent before, or only begun to be sent, makes no difference to a call. -/
theorem perform_renewed (call : Call) (transmitter : Transmitter) :
    let new : Transmitter :=
      { sink := transmitter.sink.renewed, maxPayload := transmitter.maxPayload }
    (transmitter.perform call).1 = (new.perform call).1 ∧
      (transmitter.perform call).2.sink = transmitter.sink.behind (new.perform call).2.sink := by
  intro new
  have same := (Sink.behind_renewed transmitter.sink).symm
  cases call with
  | send payload =>
    cases encoded : Frame.encodeWithin transmitter.maxPayload payload with
    | ok wire =>
      have other := @send_of_encoded payload wire new encoded
      rw [perform, perform, send_of_encoded encoded, other]
      exact sendRaw_behind same wire
    | error error =>
      obtain ⟨after, refused, untouched, _⟩ := send_of_refused encoded
      obtain ⟨other, refusedToo, untouchedToo, _⟩ := @send_of_refused payload error new encoded
      rw [perform, perform, refused, refusedToo]
      refine ⟨rfl, ?_⟩
      rw [untouched, untouchedToo]
      exact same
  | sendRaw bytes => exact sendRaw_behind same bytes
  | flush =>
    rw [perform, flush, same, Sink.flushAll_behind]
    exact ⟨rfl, rfl⟩

theorem perform_tries (call : Call) (transmitter : Transmitter) :
    match call.refusal? transmitter.maxPayload with
    | some error => (transmitter.perform call).1 = .error error ∧
        (transmitter.perform call).2.sink = transmitter.sink
    | none => ∃ attempts,
        transmitter.sink.Undergoes attempts (transmitter.perform call).2.sink ∧
          Tries call.bytes attempts (transmitter.perform call).1 := by
  cases call with
  | send payload =>
    have encoded := encodeWithin_eq transmitter.maxPayload payload
    split
    · rename_i error refusal
      rw [refusal] at encoded
      obtain ⟨after, refused, untouched, _⟩ := send_of_refused encoded
      rw [perform, refused]
      exact ⟨rfl, untouched⟩
    · rename_i fits
      rw [fits] at encoded
      rw [perform, send_of_encoded encoded]
      exact sendRaw_tries _ _ _ _
  | sendRaw bytes => exact sendRaw_tries bytes _ _ _
  | flush => exact Sink.flushAll_tries rfl

/-- Whatever calls came before, a call does what it would do on a new transmitter. One whose payload
is too long leaves the sink alone. Any other comes out as its attempts tell, and what the sink takes
in them is the beginning of what the call is to write. -/
theorem perform_exactly (start : Transmitter) (earlier : List Call) (call : Call) :
    let before := start.performAll earlier
    let new : Transmitter := { sink := before.sink.renewed, maxPayload := start.maxPayload }
    let result := (before.perform call).1
    let after := (before.perform call).2
    (result = (new.perform call).1 ∧
        after.sink = before.sink.behind (new.perform call).2.sink) ∧
      match call.refusal? start.maxPayload with
      | some error => result = .error error ∧ after.sink = before.sink
      | none => ∃ attempts, before.sink.Undergoes attempts after.sink ∧
          after.sink.written = before.sink.written ++ taken attempts ∧
          Exactly call.bytes attempts result := by
  intro before new result after
  have limit : before.maxPayload = start.maxPayload := performAll_maxPayload earlier start
  constructor
  · have renewed := perform_renewed call before
    rwa [limit] at renewed
  · have tries := perform_tries call before
    rw [limit] at tries
    split at tries
    · exact tries
    · obtain ⟨attempts, undergoes, tries⟩ := tries
      exact ⟨attempts, undergoes, undergoes.written, tries.exactly⟩

end Transmitter

end Provisioning
