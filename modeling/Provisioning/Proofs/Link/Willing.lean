import Provisioning.Link.Transmitter

/-! # Sinks that take everything in the end

A sink is willing if each of its writes takes something and the writes and flushes that fail may be
tried again. Whatever is sent to it then arrives whole, in order and once, however little each write
takes.
-/

namespace Provisioning

/-- The bytes that a payload is sent as, unless it is too long. -/
def Frame.encodeWithin (maxPayload : Nat) (payload : Bytes) : Except FrameError Bytes :=
  if maxPayload < payload.length then .error (.oversized payload.length maxPayload)
  else encode payload

theorem Frame.encodeWithin_eq_ok_iff {maxPayload : Nat} {payload wire : Bytes} :
    encodeWithin maxPayload payload = .ok wire ↔
      payload.length ≤ maxPayload ∧ payload.length ≤ maxDeclaredLength ∧
        wire = (ofPayload payload).wire := by
  unfold encodeWithin
  split
  · rename_i large
    constructor
    · nofun
    · intro fits
      exact absurd fits.1 (Nat.not_le.mpr large)
  · rename_i small
    rw [encode_eq_ok_iff]
    exact ⟨fun fits => ⟨Nat.not_lt.mp small, fits⟩, And.right⟩

theorem Frame.length_of_encodeWithin {maxPayload : Nat} {payload wire : Bytes}
    (encoded : encodeWithin maxPayload payload = .ok wire) :
    wire.length = frameOverhead + payload.length := by
  rw [(encodeWithin_eq_ok_iff.mp encoded).2.2, length_wire]
  rfl

theorem Frame.oversized_of_encodeWithin {maxPayload : Nat} {payload : Bytes} {error : FrameError}
    (refused : encodeWithin maxPayload payload = .error error) :
    ∃ size max, error = .oversized size max := by
  unfold encodeWithin encode at refused
  split at refused
  · cases refused
    exact ⟨_, _, rfl⟩
  · split at refused
    · cases refused
    · cases refused
      exact ⟨_, _, rfl⟩

/-- The write takes at least a byte, or is tried again. -/
def WriteStep.isWilling : WriteStep → Bool
  | .fail error => error.kind.isTransient
  | .take max => 0 < max

namespace Sink

/-- Every write gets on or is tried again, and so is every flush. -/
def isWilling (sink : Sink) : Bool :=
  sink.writes.all (·.isWilling) && sink.flushes.all (·.all (·.kind.isTransient))

/-- The sink is as willing as before and has taken these bytes. -/
structure Takes (before : Sink) (bytes : Bytes) (after : Sink) : Prop where
  willing : after.isWilling = true
  written : after.written = before.written ++ bytes

theorem Takes.trans {first middle last : Sink} {here there : Bytes} (left : first.Takes here middle)
    (right : middle.Takes there last) : first.Takes (here ++ there) last :=
  ⟨right.willing, by rw [right.written, left.written, List.append_assoc]⟩

private theorem write_of_willing {sink after : Sink} {bytes : Bytes} {result : Except IoError Nat}
    (nonempty : bytes ≠ []) (willing : sink.isWilling = true)
    (writing : sink.write bytes = (result, after)) :
    match result with
    | .ok count => 0 < count ∧ sink.Takes (bytes.take count) after
    | .error error => error.kind.isTransient = true ∧ sink.Takes [] after := by
  have positive : 0 < bytes.length := List.length_pos_iff.mpr nonempty
  simp only [isWilling, Bool.and_eq_true] at willing
  obtain ⟨writes, flushes⟩ := willing
  have kept (rest : List WriteStep) (step : WriteStep) (script : sink.writes = step :: rest) :
      step.isWilling = true ∧ rest.all (·.isWilling) = true := by
    rwa [script, List.all_cons, Bool.and_eq_true] at writes
  cases result with
  | ok count =>
    have taken := (write_ok writing).2.2
    unfold write at writing
    split at writing
    · rename_i none
      cases writing
      exact ⟨positive, by simp [isWilling, none, flushes], taken⟩
    · cases writing
    · rename_i max rest script
      cases writing
      obtain ⟨some, rest⟩ := kept _ _ script
      have : 0 < max := by simpa [WriteStep.isWilling] using some
      exact ⟨by omega, by simp [isWilling, rest, flushes], taken⟩
  | error error =>
    have taken := (write_error writing).2
    unfold write at writing
    split at writing
    · cases writing
    · rename_i rest script
      cases writing
      obtain ⟨again, rest⟩ := kept _ _ script
      exact ⟨again, by simp [isWilling, rest, flushes], by rw [taken, List.append_nil]⟩
    · cases writing

private theorem flush_of_willing {sink after : Sink} {result : Except IoError Unit}
    (willing : sink.isWilling = true) (flushing : sink.flush = (result, after)) :
    sink.Takes [] after ∧ ∀ error, result = .error error → error.kind.isTransient = true := by
  simp only [isWilling, Bool.and_eq_true] at willing
  obtain ⟨writes, flushes⟩ := willing
  unfold flush at flushing
  split at flushing
  · rename_i error rest script
    cases flushing
    rw [script, List.all_cons, Bool.and_eq_true] at flushes
    refine ⟨⟨by simp [isWilling, writes, flushes.2], (List.append_nil _).symm⟩, ?_⟩
    rintro _ ⟨⟩
    exact flushes.1
  · rename_i rest script
    cases flushing
    rw [script, List.all_cons, Bool.and_eq_true] at flushes
    exact ⟨⟨by simp [isWilling, writes, flushes.2], (List.append_nil _).symm⟩, nofun⟩
  · rename_i script
    cases flushing
    exact ⟨⟨by simp [isWilling, writes, script], (List.append_nil _).symm⟩, nofun⟩

private theorem writeAll_of_willing (bytes : Bytes) {sink : Sink}
    (willing : sink.isWilling = true) :
    ∃ after, sink.writeAll bytes = (.ok (), after) ∧ sink.Takes bytes after := by
  fun_induction writeAll bytes sink with
  | case1 bytes sink empty =>
    rw [List.isEmpty_iff.mp empty]
    exact ⟨sink, rfl, willing, (List.append_nil _).symm⟩
  | case2 bytes sink nonempty next written =>
    have nonempty : bytes ≠ [] := fun empty => nonempty (List.isEmpty_iff.mpr empty)
    have := (write_of_willing nonempty willing written).1
    omega
  | case3 bytes sink nonempty count next written ih =>
    have nonempty : bytes ≠ [] := fun empty => nonempty (List.isEmpty_iff.mpr empty)
    have some := (write_of_willing nonempty willing written).2
    obtain ⟨after, rest, takes⟩ := ih some.willing
    refine ⟨after, rest, ?_⟩
    have all := some.trans takes
    rwa [List.take_append_drop] at all
  | case4 bytes sink nonempty error next written again ih =>
    have nonempty : bytes ≠ [] := fun empty => nonempty (List.isEmpty_iff.mpr empty)
    have none := (write_of_willing nonempty willing written).2
    obtain ⟨after, rest, takes⟩ := ih none.willing
    exact ⟨after, rest, none.trans takes⟩
  | case5 bytes sink nonempty error next written failed =>
    have nonempty : bytes ≠ [] := fun empty => nonempty (List.isEmpty_iff.mpr empty)
    exact absurd (write_of_willing nonempty willing written).1 failed

private theorem flushAll_of_willing {sink : Sink} (willing : sink.isWilling = true) :
    ∃ after, sink.flushAll = (.ok (), after) ∧ sink.Takes [] after := by
  fun_induction flushAll sink with
  | case1 sink next flushed => exact ⟨next, rfl, (flush_of_willing willing flushed).1⟩
  | case2 sink error next flushed again ih =>
    have none := (flush_of_willing willing flushed).1
    obtain ⟨after, rest, takes⟩ := ih none.willing
    exact ⟨after, rest, none.trans takes⟩
  | case3 sink error next flushed failed =>
    exact absurd ((flush_of_willing willing flushed).2 error rfl) failed

end Sink

namespace Transmitter

/-- The transmitter has sent these bytes to a sink that is as willing as before. -/
structure Sends (before : Transmitter) (bytes : Bytes) (after : Transmitter) : Prop where
  takes : before.sink.Takes bytes after.sink
  maxPayload : after.maxPayload = before.maxPayload

theorem sendRaw_of_willing (bytes : Bytes) {transmitter : Transmitter}
    (willing : transmitter.sink.isWilling = true) :
    ∃ after, transmitter.sendRaw bytes = (.ok (), after) ∧ transmitter.Sends bytes after := by
  obtain ⟨written, writes, takes⟩ := Sink.writeAll_of_willing bytes willing
  obtain ⟨flushed, flushes, rest⟩ := Sink.flushAll_of_willing takes.willing
  refine ⟨{ transmitter with sink := flushed }, by simp [sendRaw, writes, flush, flushes], ?_, rfl⟩
  have all := takes.trans rest
  rwa [List.append_nil] at all

/-- A payload that fits is sent like the bytes that carry it, once these have taken the place of the
last frame. -/
theorem send_of_encoded {payload wire : Bytes} {transmitter : Transmitter}
    (encoded : Frame.encodeWithin transmitter.maxPayload payload = .ok wire) :
    transmitter.send payload = { transmitter with buffer := wire }.sendRaw wire := by
  unfold Frame.encodeWithin at encoded
  unfold send
  split at encoded
  · cases encoded
  · rename_i small
    rw [if_neg small, encoded]
    rfl

/-- A payload that does not fit leaves the line alone. -/
theorem send_of_refused {payload : Bytes} {error : FrameError} {transmitter : Transmitter}
    (refused : Frame.encodeWithin transmitter.maxPayload payload = .error error) :
    ∃ after, transmitter.send payload = (.error error, after) ∧ after.sink = transmitter.sink ∧
      after.maxPayload = transmitter.maxPayload := by
  unfold Frame.encodeWithin at refused
  unfold send
  split at refused
  · rename_i large
    cases refused
    exact ⟨transmitter, if_pos large, rfl, rfl⟩
  · rename_i small
    refine ⟨{ transmitter with buffer := [] }, ?_, rfl, rfl⟩
    rw [if_neg small, refused]

end Transmitter

end Provisioning
