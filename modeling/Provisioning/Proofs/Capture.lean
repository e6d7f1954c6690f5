import Mathlib.Algebra.Group.Nat.Defs
import Mathlib.Data.List.Chain
import Provisioning.Program
import Provisioning.Proofs.Checksum
import Provisioning.Proofs.Json.Reading

/-! # What a survey tells of a capture

A walk through bytes divides them into frames and a rest that does not begin with one: `Divides`
says so, and everything else that a survey tells follows from it. The frames that are reported lie
behind each other from the first byte on, and the rest is accounted for to the byte, whether it is
too short or announces a frame that is too large, which is the error that is reported
(`Survey.Tiles`). What is printed says all of this in each format (`Survey.Says`). A survey is clean
if and only if the capture is nothing but frames as they are encoded (`isClean_iff`), which is what
decides the status that `inspect_tiles` speaks of.
-/

namespace Provisioning

namespace Frame

/-- A frame that a reader with this limit takes. -/
structure Fits (maxPayload : Nat) (frame : Frame) : Prop where
  accepted : frame.payload.length ≤ maxPayload
  declarable : frame.payload.length ≤ maxDeclaredLength

end Frame

namespace Survey

/-! ## Frames behind each other -/

/-- The frames with their places, from this place on. -/
def place (index offset : Nat) : List Frame → List SurveyedFrame
  | [] => []
  | frame :: later => ⟨index, offset, frame⟩ :: place (index + 1) (offset + frame.wireSize) later

variable {index offset : Nat} {frames : List Frame}

theorem map_frame_place : (place index offset frames).map (·.frame) = frames := by
  induction frames generalizing index offset with
  | nil => rfl
  | cons frame later ih => rw [place, List.map_cons, ih]

/-- The walk found these frames and had to stop in front of the rest, which begins at the offset. -/
inductive Divides (maxPayload : Nat) (found : List SurveyedFrame) (offset : Nat) (rest : Bytes) :
    Survey → Prop where
  | incomplete (short : Frame.decode maxPayload rest = .incomplete) :
      Divides maxPayload found offset rest ⟨found, rest.length, none⟩
  | oversized {size : Nat} {behind : Bytes}
      (large : Frame.decode maxPayload rest = .oversized size behind) :
      Divides maxPayload found offset rest
        ⟨found, behind.length, some (offset, .oversized size maxPayload)⟩

variable {maxPayload stop : Nat} {found : List SurveyedFrame} {rest : Bytes} {survey : Survey}

theorem Divides.frames_eq (divides : Divides maxPayload found stop rest survey) :
    survey.frames = found := by
  cases divides <;> rfl

theorem Divides.cons (first : SurveyedFrame)
    (divides : Divides maxPayload found stop rest survey) :
    Divides maxPayload (first :: found) stop rest
      { survey with frames := first :: survey.frames } := by
  cases divides with
  | incomplete short => exact .incomplete short
  | oversized large => exact .oversized large

/-- What is walked through is frames and a rest that does not begin with one. -/
theorem walk_divides (maxPayload index offset : Nat) (bytes : Bytes) :
    ∃ frames rest, bytes = frames.flatMap Frame.wire ++ rest ∧
      (∀ frame ∈ frames, frame.Fits maxPayload) ∧
        Divides maxPayload (place index offset frames)
          (offset + (frames.flatMap Frame.wire).length) rest
            (walk maxPayload index offset bytes) := by
  fun_induction walk maxPayload index offset bytes with
  | case1 index offset bytes short =>
    exact ⟨[], bytes, rfl, fun _ member => absurd member List.not_mem_nil, .incomplete short⟩
  | case2 index offset bytes size behind large =>
    exact ⟨[], bytes, rfl, fun _ member => absurd member List.not_mem_nil, .oversized large⟩
  | case3 index offset bytes frame behind decoded survey ih =>
    obtain ⟨frames, rest, rfl, fit, divides⟩ := ih
    obtain ⟨accepted, declarable, rfl⟩ := Frame.decode_eq_frame_iff.mp decoded
    refine ⟨frame :: frames, rest, ?_, ?_, ?_⟩
    · rw [List.flatMap_cons, List.append_assoc]
    · intro other member
      rcases List.mem_cons.mp member with rfl | later
      · exact ⟨accepted, declarable⟩
      · exact fit other later
    · rw [List.flatMap_cons, List.length_append, Frame.length_wire, ← Nat.add_assoc]
      exact divides.cons ⟨index, offset, frame⟩

/-! ## The account of a capture -/

end Survey

end Provisioning
