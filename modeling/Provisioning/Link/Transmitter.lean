import Provisioning.Frame
import Provisioning.Link.Sink

/-! # Sending

Frames and bare tokens are written whole and then flushed. Writes and flushes that are interrupted
or would block are tried again at once, from the byte where they stopped; nothing is read back.
-/

namespace Provisioning

namespace Sink

/-- Write all the bytes, offering again what a write has not taken. -/
def writeAll (bytes : Bytes) (sink : Sink) : Except FrameError Unit × Sink :=
  if bytes.isEmpty then (.ok (), sink)
  else match result : sink.write bytes with
    | (.ok 0, after) => (.error .closed, after)
    | (.ok (count + 1), after) => after.writeAll (bytes.drop (count + 1))
    | (.error error, after) =>
      if error.kind.isTransient then after.writeAll bytes else (.error (.io error), after)
termination_by sink.writes.length + bytes.length
decreasing_by
  · have := write_ok result
    simp only [List.length_drop]
    omega
  · have := write_error result
    omega

/-- Flush until the flush is neither interrupted nor would block. -/
def flushAll (sink : Sink) : Except FrameError Unit × Sink :=
  match result : sink.flush with
  | (.ok (), after) => (.ok (), after)
  | (.error error, after) =>
    if error.kind.isTransient then after.flushAll else (.error (.io error), after)
termination_by sink.flushes.length
decreasing_by exact (flush_error result).1

end Sink

/-- The host's sending side. -/
structure Transmitter where
  sink : Sink
  maxPayload : Nat := defaultMaxPayload
  /-- Where frames are put together: the last one stays until the next takes its place. -/
  buffer : Bytes := []

namespace Transmitter

def flush (transmitter : Transmitter) : Except FrameError Unit × Transmitter :=
  let (result, sink) := transmitter.sink.flushAll
  (result, { transmitter with sink })

/-- Send bytes as they are. -/
def sendRaw (bytes : Bytes) (transmitter : Transmitter) : Except FrameError Unit × Transmitter :=
  match transmitter.sink.writeAll bytes with
  | (.ok (), sink) => { transmitter with sink }.flush
  | (.error error, sink) => (.error error, { transmitter with sink })

/-- Send a payload in a frame. A payload above the limit is refused and the line left alone. -/
def send (payload : Bytes) (transmitter : Transmitter) : Except FrameError Unit × Transmitter :=
  if transmitter.maxPayload < payload.length then
    (.error (.oversized payload.length transmitter.maxPayload), transmitter)
  else
    let cleared : Transmitter := { transmitter with buffer := [] }
    match Frame.encode payload with
    | .ok wire =>
      let loaded : Transmitter := { cleared with buffer := cleared.buffer ++ wire }
      loaded.sendRaw loaded.buffer
    | .error error => (.error error, cleared)

end Transmitter

end Provisioning
