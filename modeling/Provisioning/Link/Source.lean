import Provisioning.Bytes
import Provisioning.IoError

/-! # What the host reads from the line

A source is the device as its host can hear it: data that has arrived and is not read yet, and a
script of what will happen at the reads after that. A read hands out arrived data first and begins
a step of the script only when none is left. A step may take time and may see the operator ask the
program to stop, so the source also carries the clock and the flag that keeps the program running;
both can change while a read blocks.

Behind its script a source is closed, or it stays silent and every read runs into a timeout. While a
device is served as it happens, it is not known yet what comes behind the script; a read then runs
into a timeout too, and no time passes. `weight` bounds the work that is left in a source:
`read_ok_weight` and `read_error_weight` say that every read of a source that is neither closed nor
silent makes it lighter.
-/

namespace Provisioning

/-- What happens at a read that finds no arrived data. -/
structure ReadStep where
  /-- Nanoseconds that pass first. -/
  delay : Nat := 0
  /-- The operator asks the program to stop meanwhile. -/
  stops : Bool := false
  /-- An error, or data that has arrived; no data at all is the end of the stream. -/
  outcome : Except IoError Bytes

/-- What a source does behind its script. -/
inductive Tail where
  | closed
  | silent
  /-- What comes next is not known yet. -/
  | unknown
  deriving DecidableEq, Repr

structure Source where
  pending : Bytes := []
  script : List ReadStep := []
  tail : Tail := .closed
  /-- Cleared when the operator asks the program to stop. -/
  running : Bool := true
  /-- Nanoseconds since some moment in the past. -/
  clock : Nat := 0
  /-- How often the source has been read. -/
  reads : Nat := 0

namespace Source

/-- How long a read of a silent source waits before it gives up. -/
def silentWait : Nat := 1000000

/-- How long a read behind the script waits before it gives up. -/
def wait (source : Source) : Nat :=
  match source.tail with
  | .silent => silentWait
  | .closed | .unknown => 0

/-- The source once a read of it has begun. -/
def counted (source : Source) : Source := { source with reads := source.reads + 1 }

/-- The source once a read has begun a step of its script. -/
def begin (source : Source) (step : ReadStep) (rest : List ReadStep) : Source :=
  { source.counted with
    script := rest
    clock := source.clock + step.delay
    running := source.running && !step.stops }

/-- One read into a buffer of `limit` bytes. -/
def read (limit : Nat) (source : Source) : Except IoError Bytes × Source :=
  match source.pending with
  | _ :: _ =>
    (.ok (source.pending.take limit),
      { source.counted with pending := source.pending.drop limit })
  | [] => match source.script with
    | step :: rest => match step.outcome with
      | .error error => (.error error, source.begin step rest)
      | .ok data =>
        (.ok (data.take limit), { source.begin step rest with pending := data.drop limit })
    | [] =>
      if source.tail = .closed then (.ok [], source.counted)
      else
        (.error (.ofKind .timedOut), { source.counted with clock := source.clock + source.wait })

/-- Nothing but timeouts will come. -/
def isSilent (source : Source) : Bool :=
  source.pending.isEmpty && source.script.isEmpty && source.tail != .closed

theorem read_of_isSilent {source : Source} (silent : source.isSilent = true) (limit : Nat) :
    source.read limit = (.error (.ofKind .timedOut),
      { source.counted with clock := source.clock + source.wait }) := by
  simp only [isSilent, Bool.and_eq_true, List.isEmpty_iff, bne_iff_ne] at silent
  obtain ⟨⟨pending, script⟩, tail⟩ := silent
  rw [read, pending, script]
  exact if_neg tail

def stepWeight (step : ReadStep) : Nat :=
  match step.outcome with
  | .error _ => 1
  | .ok data => 1 + 2 * data.length

def scriptWeight : List ReadStep → Nat
  | [] => 0
  | step :: rest => stepWeight step + scriptWeight rest

/-- Two for each byte to come and one for each step of the script. -/
def weight (source : Source) : Nat :=
  2 * source.pending.length + scriptWeight source.script

theorem read_ok_weight {limit : Nat} {source after : Source} {data : Bytes}
    (result : source.read limit = (.ok data, after)) :
    after.weight + 2 * data.length ≤ source.weight := by
  unfold read at result
  split at result
  · cases result
    simp only [weight, counted, List.length_take, List.length_drop]
    omega
  · rename_i empty
    split at result
    · rename_i step rest script
      split at result
      · cases result
      · rename_i arrived outcome
        cases result
        simp only [weight, begin, counted, List.length_take, List.length_drop, script, stepWeight,
          outcome, scriptWeight]
        omega
    · split at result
      · cases result
        simp [weight, counted]
      · cases result

theorem read_error_weight {limit : Nat} {source after : Source} {error : IoError}
    (result : source.read limit = (.error error, after)) :
    after.weight < source.weight ∨
      source.isSilent = true ∧ error.kind = .timedOut ∧ after.weight = source.weight ∧
        after.isSilent = true ∧ after.clock = source.clock + source.wait ∧
          after.tail = source.tail ∧ after.running = source.running := by
  unfold read at result
  split at result
  · cases result
  · rename_i empty
    split at result
    · rename_i step rest script
      split at result
      · rename_i outcome
        cases result
        refine .inl ?_
        simp only [weight, begin, counted, script, stepWeight, outcome, scriptWeight]
        omega
      · cases result
    · rename_i script
      split at result
      · cases result
      · rename_i tail
        cases result
        refine .inr ?_
        simp_all [isSilent, weight, counted, IoError.ofKind]

theorem read_error_script {limit : Nat} {source after : Source} {error : IoError}
    (result : source.read limit = (.error error, after)) (interrupted : error.kind = .interrupted) :
    after.script.length < source.script.length := by
  unfold read at result
  split at result
  · cases result
  · split at result
    · rename_i step rest script
      split at result
      · cases result
        simp [begin, script]
      · cases result
    · split at result
      · cases result
      · cases result
        simp [IoError.ofKind] at interrupted

/-- Read until the read is not interrupted. -/
def draw (limit : Nat) (source : Source) : Except IoError Bytes × Source :=
  match result : source.read limit with
  | (.error error, after) =>
    if interrupted : error.kind = .interrupted then draw limit after else (.error error, after)
  | (.ok data, after) => (.ok data, after)
termination_by source.script.length
decreasing_by exact read_error_script result interrupted

theorem draw_ok_weight {limit : Nat} {source after : Source} {data : Bytes}
    (result : source.draw limit = (.ok data, after)) :
    after.weight + 2 * data.length ≤ source.weight := by
  fun_induction draw limit source with
  | case1 source error next read interrupted ih =>
    have := ih result
    rcases read_error_weight read with lighter | silent
    · omega
    · omega
  | case2 => cases result
  | case3 source data next read =>
    cases result
    exact read_ok_weight read

theorem draw_error_weight {limit : Nat} {source after : Source} {error : IoError}
    (result : source.draw limit = (.error error, after)) :
    after.weight < source.weight ∨
      source.isSilent = true ∧ error.kind = .timedOut ∧ after.weight = source.weight ∧
        after.isSilent = true ∧ after.clock = source.clock + source.wait ∧
          after.tail = source.tail ∧ after.running = source.running := by
  fun_induction draw limit source with
  | case1 source error next read interrupted ih =>
    rcases read_error_weight read with lighter | silent
    · rcases ih result with lighter' | silent
      · exact .inl (by omega)
      · exact .inl (by omega)
    · rw [silent.2.1] at interrupted
      cases interrupted
  | case2 source error next read =>
    cases result
    exact read_error_weight read
  | case3 => cases result

/-- What one read returned is not an interruption once the reads have been repeated. -/
theorem draw_error_kind {limit : Nat} {source after : Source} {error : IoError}
    (result : source.draw limit = (.error error, after)) : error.kind ≠ .interrupted := by
  fun_induction draw limit source with
  | case1 source error next read interrupted ih => exact ih result
  | case2 source error next read other =>
    cases result
    exact other
  | case3 => cases result

end Source

end Provisioning
