import Provisioning.Frame
import Provisioning.Link.Source

/-! # The receive buffer

Lines of text and frames share one buffer, so what was read ahead while looking for the end of a
line is still there for the frame that follows it. A call that fails, or runs into a timeout, keeps
what has arrived; repeating it goes on where it stopped.

A line ends at a line feed, which is dropped together with one carriage return before it. Text
without a line feed is handed out in pieces once `maxLineLength` bytes of it are held, so that
chatter cannot fill the buffer. `weight` bounds the reads and results that are left.
-/

namespace Provisioning

/-- Bytes asked for at each read. -/
def readChunkSize : Nat := 8 * 1024

/-- How much text is held back while its line feed is awaited. -/
def maxLineLength : Nat := 64 * 1024

def lineFeed : UInt8 := 10

def carriageReturn : UInt8 := 13

/-- A line as received, or a piece of one that grew too long. -/
inductive Line where
  /-- What stood before a line feed. -/
  | whole (text : Bytes)
  /-- The next `maxLineLength` bytes of a line whose end has not been seen. -/
  | piece (text : Bytes)
  deriving DecidableEq, Repr

def Line.text : Line → Bytes
  | whole text => text
  | piece text => text

/-- A line without the carriage return that ends it, if one does. -/
def stripReturn (line : Bytes) : Bytes :=
  if line.getLast? = some carriageReturn then line.dropLast else line

/-- Take the first line off the bytes received so far, or a piece if too much is held. -/
def cutLine? (buffer : Bytes) : Option (Line × Bytes) :=
  match buffer.dropWhile (· != lineFeed) with
  | _ :: rest => some (.whole (stripReturn (buffer.takeWhile (· != lineFeed))), rest)
  | [] =>
    if maxLineLength ≤ buffer.length then
      some (.piece (buffer.take maxLineLength), buffer.drop maxLineLength)
    else none

theorem length_dropWhile_le {α : Type} (p : α → Bool) (xs : List α) :
    (xs.dropWhile p).length ≤ xs.length :=
  (List.dropWhile_suffix p).length_le

theorem cutLine?_length_lt {buffer rest : Bytes} {line : Line}
    (cut : cutLine? buffer = some (line, rest)) : rest.length < buffer.length := by
  unfold cutLine? at cut
  split at cut
  · rename_i suffix
    cases cut
    have := length_dropWhile_le (· != lineFeed) buffer
    rw [suffix, List.length_cons] at this
    omega
  · split at cut
    · rename_i large
      cases cut
      have : 0 < maxLineLength := by decide
      simp only [List.length_drop]
      omega
    · cases cut

/-- The host's receiving side: the source, and what has been read from it and not yet consumed. -/
structure Receiver where
  source : Source
  maxPayload : Nat := defaultMaxPayload
  buffer : Bytes := []

namespace Receiver

/-- Drop what has been received and not consumed, and count it. -/
def discard (receiver : Receiver) : Nat × Receiver :=
  (receiver.buffer.length, { receiver with buffer := [] })

/-- Append what the next read brings. -/
def fill (receiver : Receiver) : Except FrameError Unit × Receiver :=
  match receiver.source.draw readChunkSize with
  | (.error error, source) => (.error (.io error), { receiver with source })
  | (.ok [], source) => (.error .closed, { receiver with source })
  | (.ok (byte :: bytes), source) =>
    (.ok (), { receiver with source, buffer := receiver.buffer ++ byte :: bytes })

/-- Take a frame off the buffer if it begins with a whole one. -/
def takeFrame (receiver : Receiver) : Except FrameError (Option Frame) × Receiver :=
  match Frame.decode receiver.maxPayload receiver.buffer with
  | .incomplete => (.ok none, receiver)
  | .oversized size rest =>
    (.error (.oversized size receiver.maxPayload), { receiver with buffer := rest })
  | .frame frame rest => (.ok (some frame), { receiver with buffer := rest })

/-- Take a frame, reading at most once for it. -/
def stepFrame (receiver : Receiver) : Except FrameError (Option Frame) × Receiver :=
  match receiver.takeFrame with
  | (.ok none, receiver) => match receiver.fill with
    | (.ok (), receiver) => receiver.takeFrame
    | (.error error, receiver) => (.error error, receiver)
  | taken => taken

/-- Nothing but timeouts will come. -/
def isSilent (receiver : Receiver) : Bool := receiver.source.isSilent

/-- Bounds the reads and the results that are left. -/
def weight (receiver : Receiver) : Nat := receiver.source.weight + receiver.buffer.length

theorem fill_ok {receiver after : Receiver} (result : receiver.fill = (.ok (), after)) :
    after.source.weight < receiver.source.weight ∧ after.weight < receiver.weight ∧
      after.maxPayload = receiver.maxPayload := by
  unfold fill at result
  split at result
  · cases result
  · cases result
  · rename_i byte bytes source drawn
    cases result
    have lighter := Source.draw_ok_weight drawn
    simp only [List.length_cons] at lighter
    simp only [weight, List.length_append, List.length_cons, and_true]
    omega

theorem fill_timeout {receiver after : Receiver} {error : FrameError}
    (result : receiver.fill = (.error error, after)) (timeout : error.isTimeout = true) :
    after.buffer = receiver.buffer ∧ after.maxPayload = receiver.maxPayload ∧
      (after.source.weight < receiver.source.weight ∨
        receiver.isSilent = true ∧ after.source.weight = receiver.source.weight ∧
          after.isSilent = true ∧
            after.source.clock = receiver.source.clock + receiver.source.wait ∧
              after.source.tail = receiver.source.tail ∧
                after.source.running = receiver.source.running) := by
  unfold fill at result
  split at result
  · rename_i error source drawn
    cases result
    refine ⟨rfl, rfl, ?_⟩
    rcases Source.draw_error_weight drawn with lighter | ⟨silent, _, later⟩
    · exact .inl lighter
    · exact .inr ⟨silent, later⟩
  · cases result
    cases timeout
  · cases result

theorem fill_weight_le (receiver : Receiver) : receiver.fill.2.weight ≤ receiver.weight := by
  unfold fill
  split
  · rename_i error source drawn
    simp only [weight]
    rcases Source.draw_error_weight drawn with lighter | silent
    · omega
    · omega
  · rename_i source drawn
    have := Source.draw_ok_weight drawn
    simp only [weight]
    omega
  · rename_i byte bytes source drawn
    have := Source.draw_ok_weight drawn
    simp only [List.length_cons] at this
    simp only [weight, List.length_append, List.length_cons]
    omega

theorem takeFrame_none {receiver after : Receiver}
    (result : receiver.takeFrame = (.ok none, after)) : after = receiver := by
  unfold takeFrame at result
  split at result <;> cases result
  rfl

theorem takeFrame_weight_le (receiver : Receiver) :
    receiver.takeFrame.2.weight ≤ receiver.weight := by
  unfold takeFrame
  split
  · exact Nat.le_refl _
  · rename_i size rest decoded
    have bytes := (Frame.decode_eq_oversized_iff.mp decoded).2.2
    simp only [weight, bytes, List.length_append]
    omega
  · rename_i frame rest decoded
    have bytes := (Frame.decode_eq_frame_iff.mp decoded).2.2
    simp only [weight, bytes, List.length_append]
    omega

theorem stepFrame_none {receiver after : Receiver}
    (result : receiver.stepFrame = (.ok none, after)) :
    after.source.weight < receiver.source.weight := by
  unfold stepFrame at result
  split at result
  · rename_i same taken
    cases takeFrame_none taken
    split at result
    · rename_i filled fills
      cases takeFrame_none result
      exact (fill_ok fills).1
    · cases result
  · rename_i other
    exact absurd result (other after)

theorem stepFrame_weight_le (receiver : Receiver) :
    receiver.stepFrame.2.weight ≤ receiver.weight := by
  unfold stepFrame
  split
  · rename_i same taken
    cases takeFrame_none taken
    have filled := fill_weight_le receiver
    split
    · rename_i after fills
      rw [fills] at filled
      exact Nat.le_trans (takeFrame_weight_le after) filled
    · rename_i fills
      rw [fills] at filled
      exact filled
  · exact takeFrame_weight_le receiver

theorem stepFrame_timeout {receiver after : Receiver} {error : FrameError}
    (result : receiver.stepFrame = (.error error, after)) (timeout : error.isTimeout = true) :
    after.source.weight < receiver.source.weight ∨
      receiver.isSilent = true ∧ after.source.weight = receiver.source.weight ∧
        after.isSilent = true ∧ after.source.clock = receiver.source.clock + receiver.source.wait ∧
          after.source.tail = receiver.source.tail ∧
            after.source.running = receiver.source.running := by
  unfold stepFrame at result
  split at result
  · rename_i same taken
    cases takeFrame_none taken
    split at result
    · rename_i filled fills
      unfold takeFrame at result
      split at result <;> cases result
      cases timeout
    · rename_i error filled fills
      cases result
      exact (fill_timeout fills timeout).2.2
  · unfold takeFrame at result
    split at result <;> cases result
    cases timeout

/-- Await a whole frame. -/
def awaitFrame (receiver : Receiver) : Except FrameError Frame × Receiver :=
  match result : receiver.stepFrame with
  | (.ok (some frame), after) => (.ok frame, after)
  | (.ok none, after) => after.awaitFrame
  | (.error error, after) => (.error error, after)
termination_by receiver.source.weight
decreasing_by exact stepFrame_none result

/-- Await a line. -/
def awaitLine (receiver : Receiver) : Except FrameError Line × Receiver :=
  match cutLine? receiver.buffer with
  | some (line, rest) => (.ok line, { receiver with buffer := rest })
  | none => match result : receiver.fill with
    | (.ok (), after) => after.awaitLine
    | (.error error, after) => (.error error, after)
termination_by receiver.source.weight
decreasing_by exact (fill_ok result).1

theorem awaitLine_ok {receiver after : Receiver} {line : Line}
    (result : receiver.awaitLine = (.ok line, after)) : after.weight < receiver.weight := by
  fun_induction awaitLine receiver with
  | case1 receiver line rest cut =>
    cases result
    have := cutLine?_length_lt cut
    simp only [weight]
    omega
  | case2 receiver _ next fills ih => exact Nat.lt_trans (ih result) (fill_ok fills).2.1
  | case3 => cases result

theorem awaitLine_timeout {receiver after : Receiver} {error : FrameError}
    (result : receiver.awaitLine = (.error error, after)) (timeout : error.isTimeout = true) :
    after.weight < receiver.weight ∨
      after.weight = receiver.weight ∧ after.isSilent = true ∧
        after.source.running = receiver.source.running := by
  fun_induction awaitLine receiver with
  | case1 => cases result
  | case2 receiver _ next fills ih =>
    have lighter := (fill_ok fills).2.1
    rcases ih result with lighter' | ⟨same, _⟩
    · exact .inl (by omega)
    · exact .inl (by omega)
  | case3 receiver _ error next fills =>
    cases result
    obtain ⟨buffer, _, lighter | ⟨_, same, still, _, _, running⟩⟩ := fill_timeout fills timeout
    · exact .inl (by simp only [weight, buffer]; omega)
    · exact .inr ⟨by simp only [weight, buffer]; omega, still, running⟩

end Receiver

end Provisioning
