import Provisioning.Proofs.Link.Stream

/-! # Frames and their bytes

Which bytes are a frame is settled by the bytes alone, and in both directions. A receiver that looks
for a frame in its buffer finds one if and only if the buffer begins with the frame's length, its
payload and its checksum; it refuses one if and only if the buffer begins with a length above the
limit, and finds nothing, and takes nothing, if and only if the length or what it asks for has not
all arrived. What has been found or refused stays so whatever arrives behind it.

`Receiver.takeFrame_exactly` puts this together, and with it that a payload that has been encoded is
found again with the right checksum, and a frame with the right checksum is what its payload is
encoded as.
-/

namespace Provisioning

namespace Receiver

variable {receiver : Receiver} {rest : Bytes}

/-- The receiver with other bytes in its buffer. -/
def holding (receiver : Receiver) (buffer : Bytes) : Receiver := { receiver with buffer }

@[simp] theorem holding_inj {first second : Bytes} :
    receiver.holding first = receiver.holding second ↔ first = second :=
  ⟨congrArg buffer, congrArg receiver.holding⟩

/-- What a receiver comes back with, and what it then holds. -/
theorem takeFrame_eq (receiver : Receiver) :
    receiver.takeFrame = match Frame.decode receiver.maxPayload receiver.buffer with
      | .incomplete => (.ok none, receiver.holding receiver.buffer)
      | .oversized size rest =>
        (.error (.oversized size receiver.maxPayload), receiver.holding rest)
      | .frame frame rest => (.ok (some frame), receiver.holding rest) := rfl

theorem takeFrame_eq_frame_iff {frame : Frame} :
    receiver.takeFrame = (.ok (some frame), receiver.holding rest) ↔
      Frame.decode receiver.maxPayload receiver.buffer = .frame frame rest := by
  rw [takeFrame_eq]
  cases Frame.decode receiver.maxPayload receiver.buffer <;> simp

theorem takeFrame_eq_none_iff :
    receiver.takeFrame = (.ok none, receiver.holding rest) ↔
      rest = receiver.buffer ∧
        Frame.decode receiver.maxPayload receiver.buffer = .incomplete := by
  rw [takeFrame_eq]
  cases Frame.decode receiver.maxPayload receiver.buffer <;> simp [eq_comm]

theorem takeFrame_eq_error_iff {error : FrameError} :
    receiver.takeFrame = (.error error, receiver.holding rest) ↔
      ∃ size, error = .oversized size receiver.maxPayload ∧
        Frame.decode receiver.maxPayload receiver.buffer = .oversized size rest := by
  rw [takeFrame_eq]
  cases Frame.decode receiver.maxPayload receiver.buffer with
  | incomplete | frame => simp
  | oversized size behind =>
    constructor
    · intro refused
      obtain ⟨same, left⟩ := Prod.mk.inj refused
      cases same
      cases holding_inj.mp left
      exact ⟨size, rfl, rfl⟩
    · rintro ⟨_, rfl, decoded⟩
      cases decoded
      rfl

/-- A receiver refuses what begins with a length above its limit, and drops the length. -/
theorem takeFrame_refuses_iff {error : FrameError} :
    receiver.takeFrame = (.error error, receiver.holding rest) ↔
      ∃ size : UInt32, error = .oversized size.toNat receiver.maxPayload ∧
        receiver.maxPayload < size.toNat ∧ receiver.buffer = Bytes.ofWord size ++ rest := by
  rw [takeFrame_eq_error_iff]
  constructor
  · rintro ⟨size, rfl, decoded⟩
    obtain ⟨large, declarable, bytes⟩ := Frame.decode_eq_oversized_iff.mp decoded
    refine ⟨UInt32.ofNat size, ?_, ?_, bytes⟩
    · rw [Frame.toNat_ofNat_of_le declarable]
    · rwa [Frame.toNat_ofNat_of_le declarable]
  · rintro ⟨size, rfl, large, bytes⟩
    have declarable : size.toNat ≤ maxDeclaredLength :=
      Frame.le_maxDeclaredLength_iff.mpr size.toNat_lt
    refine ⟨size.toNat, rfl, Frame.decode_eq_oversized_iff.mpr ⟨large, declarable, ?_⟩⟩
    rwa [UInt32.ofNat_toNat]

/-- A frame that has been found stays found, and a length refused, whatever follows. -/
theorem takeFrame_append {result : Except FrameError (Option Frame)} (settled : result ≠ .ok none)
    (taken : receiver.takeFrame = (result, receiver.holding rest)) (more : Bytes) :
    (receiver.holding (receiver.buffer ++ more)).takeFrame =
      (result, receiver.holding (rest ++ more)) := by
  rcases result with error | none | frame
  · obtain ⟨size, same, decoded⟩ := takeFrame_eq_error_iff.mp taken
    exact takeFrame_eq_error_iff.mpr ⟨size, same, Frame.decode_oversized_append decoded more⟩
  · exact absurd rfl settled
  · have decoded := takeFrame_eq_frame_iff.mp taken
    exact takeFrame_eq_frame_iff.mpr (Frame.decode_frame_append decoded more)

/-- Taking a frame off the buffer is the exact inverse of putting one on the line. -/
theorem takeFrame_exactly (receiver : Receiver) (rest : Bytes) :
    (∀ frame, receiver.takeFrame = (.ok (some frame), receiver.holding rest) ↔
        frame.payload.length ≤ receiver.maxPayload ∧ frame.payload.length < UInt32.size ∧
          receiver.buffer = Bytes.ofWord (UInt32.ofNat frame.payload.length) ++ frame.payload ++
            Bytes.ofWord frame.declared ++ rest) ∧
      (∀ error, receiver.takeFrame = (.error error, receiver.holding rest) ↔
        ∃ size : UInt32, error = .oversized size.toNat receiver.maxPayload ∧
          receiver.maxPayload < size.toNat ∧ receiver.buffer = Bytes.ofWord size ++ rest) ∧
      (receiver.takeFrame = (.ok none, receiver.holding rest) ↔
        rest = receiver.buffer ∧
          (receiver.buffer.length < 4 ∨ ∃ length : UInt32,
            Bytes.ofWord length <+: receiver.buffer ∧ length.toNat ≤ receiver.maxPayload ∧
              receiver.buffer.length < 8 + length.toNat)) ∧
      (∀ result more, result ≠ .ok none →
        receiver.takeFrame = (result, receiver.holding rest) →
          (receiver.holding (receiver.buffer ++ more)).takeFrame =
            (result, receiver.holding (rest ++ more))) ∧
      (∀ payload : Bytes, payload.length ≤ receiver.maxPayload → payload.length < UInt32.size →
        ∃ wire, Frame.encode payload = .ok wire ∧
          (∀ front : Bytes,
            (receiver.holding ((front ++ wire ++ rest).drop front.length)).takeFrame =
              (.ok (some ⟨payload, checksum payload⟩), receiver.holding rest)) ∧
          (⟨payload, checksum payload⟩ : Frame).verified = true) ∧
      ∀ frame, receiver.takeFrame = (.ok (some frame), receiver.holding rest) →
        frame.verified = true →
          ∃ wire, Frame.encode frame.payload = .ok wire ∧ receiver.buffer = wire ++ rest := by
  refine ⟨?_, ?_, ?_, ?_, ?_, ?_⟩
  · intro frame
    rw [takeFrame_eq_frame_iff, Frame.decode_eq_frame_iff, Frame.le_maxDeclaredLength_iff]
    rfl
  · intro error
    exact takeFrame_refuses_iff
  · rw [takeFrame_eq_none_iff, Frame.decode_eq_incomplete_iff]
    rfl
  · intro result more settled taken
    exact takeFrame_append settled taken more
  · intro payload accepted short
    have declarable := Frame.le_maxDeclaredLength_iff.mpr short
    refine ⟨_, Frame.encode_eq_ok_iff.mpr ⟨declarable, rfl⟩, ?_, Frame.verified_ofPayload payload⟩
    intro front
    rw [List.append_assoc, List.drop_left]
    exact takeFrame_eq_frame_iff.mpr (Frame.decode_wire rest accepted declarable)
  · intro frame taken verified
    obtain ⟨_, declarable, bytes⟩ :=
      Frame.decode_eq_frame_iff.mp (takeFrame_eq_frame_iff.mp taken)
    refine ⟨_, Frame.encode_eq_ok_iff.mpr ⟨declarable, rfl⟩, ?_⟩
    rwa [← Frame.eq_ofPayload verified]

/-- A frame with a length above the limit behind it, and an answer that arrives later. -/
theorem takeFrame_exactly_thenOversized :
    let receiver : Receiver := {
      source := {}
      maxPayload := 3
      buffer := [3, 0, 0, 0, 255, 255, 255, 253, 2, 0, 0, 4, 0, 0, 0] }
    let next := receiver.holding [4, 0, 0, 0]
    let frame : Frame := ⟨[255, 255, 255], 765⟩
    receiver.takeFrame = (.ok (some frame), next) ∧
      (receiver.holding (receiver.buffer ++ [10])).takeFrame =
        (.ok (some frame), receiver.holding [4, 0, 0, 0, 10]) ∧
      (∃ wire, Frame.encode frame.payload = .ok wire ∧ receiver.buffer = wire ++ [4, 0, 0, 0]) ∧
      (∃ wire, Frame.encode frame.payload = .ok wire ∧
        (next.holding (([7] ++ wire ++ []).drop 1)).takeFrame =
          (.ok (some frame), next.holding [])) ∧
      next.takeFrame = (.error (.oversized 4 3), next.holding []) ∧
      (next.holding (next.buffer ++ [10])).takeFrame =
        (.error (.oversized 4 3), next.holding [10]) := by
  intro receiver next frame
  obtain ⟨found, _, _, stable, _, encoded⟩ := takeFrame_exactly receiver [4, 0, 0, 0]
  obtain ⟨_, refused, _, stays, inverse, _⟩ := takeFrame_exactly next []
  have first := (found frame).mpr ⟨by decide, by decide, by decide⟩
  have second := (refused (.oversized 4 3)).mpr ⟨4, rfl, by decide, by decide⟩
  obtain ⟨wire, written, back, _⟩ := inverse frame.payload (by decide) (by decide)
  exact ⟨first, stable _ [10] nofun first, encoded frame first (by decide),
    ⟨wire, written, back [7]⟩, second, stays _ [10] nofun second⟩

end Receiver

end Provisioning
