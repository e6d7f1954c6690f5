import Provisioning.Frame

/-! # Captures

A capture is a file of frames that were taken off the line, one behind the other. A survey walks
through it from the front, lists the frames with their places, and tells where and why it had to
stop.
-/

namespace Provisioning

/-- A frame of a capture. -/
structure SurveyedFrame where
  index : Nat
  /-- Where its first byte stands. -/
  offset : Nat
  frame : Frame
  deriving DecidableEq, Repr

structure Survey where
  frames : List SurveyedFrame
  /-- Bytes behind the last frame that belong to none. -/
  trailing : Nat
  /-- A length above the limit, and where it stands. -/
  fault : Option (Nat × FrameError)
  deriving DecidableEq, Repr

namespace Survey

/-- Walk on from a place in the capture. -/
def walk (maxPayload index offset : Nat) (bytes : Bytes) : Survey :=
  match decoded : Frame.decode maxPayload bytes with
  | .incomplete => ⟨[], bytes.length, none⟩
  | .oversized size rest => ⟨[], rest.length, some (offset, .oversized size maxPayload)⟩
  | .frame frame rest =>
    let behind := walk maxPayload (index + 1) (offset + frame.wireSize) rest
    { behind with frames := ⟨index, offset, frame⟩ :: behind.frames }
termination_by bytes.length
decreasing_by
  have bytes := (Frame.decode_eq_frame_iff.mp decoded).2.2
  simp only [bytes, Frame.wire, List.length_append, Bytes.length_ofWord]
  omega

/-- The survey of a whole capture. -/
def ofCapture (maxPayload : Nat) (capture : Bytes) : Survey := walk maxPayload 0 0 capture

/-- Nothing is left over and every checksum is right. -/
def isClean (survey : Survey) : Bool :=
  survey.fault.isNone && survey.trailing == 0 && survey.frames.all (·.frame.verified)

/-- Where the survey had to stop, and why. -/
def faultMessage? (survey : Survey) : Option String :=
  survey.fault.map fun (offset, error) => s!"at offset {offset}: " ++ error.message

end Survey

end Provisioning
