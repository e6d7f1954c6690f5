import Provisioning.Bytes
import Provisioning.IoError

/-! # What the host writes to the line

A sink is the line as its host can write to it: a script of what will happen at the next writes and
flushes, and what has come of those before. A write may take fewer bytes than it is offered. Behind
the script every write is taken whole and every flush succeeds.
-/

namespace Provisioning

/-- What happens at a write. -/
inductive WriteStep where
  | fail (error : IoError)
  /-- At most this many bytes are taken. -/
  | take (max : Nat)

structure Sink where
  writes : List WriteStep := []
  /-- The error of each flush to come that fails. -/
  flushes : List (Option IoError) := []
  /-- What each write that did not fail has taken. -/
  taken : Array Bytes := #[]
  /-- How many flushes have succeeded. -/
  flushed : Nat := 0

namespace Sink

/-- Everything that the sink has taken. -/
def written (sink : Sink) : Bytes := sink.taken.toList.flatten

/-- Offer bytes to the sink, which tells how many it takes. -/
def write (bytes : Bytes) (sink : Sink) : Except IoError Nat × Sink :=
  match sink.writes with
  | [] => (.ok bytes.length, { sink with taken := sink.taken.push bytes })
  | .fail error :: rest => (.error error, { sink with writes := rest })
  | .take max :: rest =>
    (.ok (min max bytes.length),
      { sink with writes := rest, taken := sink.taken.push (bytes.take max) })

def flush (sink : Sink) : Except IoError Unit × Sink :=
  match sink.flushes with
  | some error :: rest => (.error error, { sink with flushes := rest })
  | none :: rest => (.ok (), { sink with flushes := rest, flushed := sink.flushed + 1 })
  | [] => (.ok (), { sink with flushed := sink.flushed + 1 })

theorem write_ok {bytes : Bytes} {sink after : Sink} {count : Nat}
    (result : sink.write bytes = (.ok count, after)) :
    count ≤ bytes.length ∧ after.writes.length ≤ sink.writes.length ∧
      after.written = sink.written ++ bytes.take count := by
  unfold write at result
  split at result
  · rename_i writes
    cases result
    simp [written]
  · cases result
  · rename_i max rest writes
    cases result
    refine ⟨Nat.min_le_right max bytes.length, by simp [writes], ?_⟩
    simp [written, List.take_eq_take_min]

theorem write_error {bytes : Bytes} {sink after : Sink} {error : IoError}
    (result : sink.write bytes = (.error error, after)) :
    after.writes.length < sink.writes.length ∧ after.written = sink.written := by
  unfold write at result
  split at result
  · cases result
  · rename_i rest writes
    cases result
    simp [written, writes]
  · cases result

theorem flush_error {sink after : Sink} {error : IoError}
    (result : sink.flush = (.error error, after)) :
    after.flushes.length < sink.flushes.length ∧ after.written = sink.written := by
  unfold flush at result
  split at result
  · rename_i rest flushes
    cases result
    simp [written, flushes]
  · cases result
  · cases result

end Sink

end Provisioning
