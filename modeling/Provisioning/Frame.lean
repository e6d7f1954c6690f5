import Provisioning.Bytes
import Provisioning.Frame.Error

/-! # Frames

A payload travels as a frame: its length as a word, the payload, and the sum of its bytes as a word.
The sum wraps at thirty-two bits and does not notice that bytes have changed places.

`decode` takes the first frame off a byte string. A length above the limit costs its four bytes, so
that what follows can still be read as text. `decode_wire` says that a frame is read back from what
it is written as, whatever follows, and `decode_eq_frame_iff` that nothing else is read as one.
-/

namespace Provisioning

/-- The bytes around every payload: a length before it and a checksum behind it. -/
def lengthSize : Nat := 4

def checksumSize : Nat := 4

def frameOverhead : Nat := lengthSize + checksumSize

/-- The largest payload, unless the operator sets another: 16 MiB. -/
def defaultMaxPayload : Nat := 16 * 1024 * 1024

/-- The largest length that a word can declare. -/
def maxDeclaredLength : Nat := 4294967295

/-- The sum of the bytes, wrapping at thirty-two bits. -/
def checksum (payload : Bytes) : UInt32 := payload.foldl (fun sum byte => sum + byte.toUInt32) 0

/-- A payload and the checksum that came with it. -/
structure Frame where
  payload : Bytes
  declared : UInt32
  deriving DecidableEq, Repr

namespace Frame

/-- The frame that carries a payload. -/
def ofPayload (payload : Bytes) : Frame := ⟨payload, checksum payload⟩

/-- The checksum that the payload should have come with. -/
def computed (frame : Frame) : UInt32 := checksum frame.payload

def verified (frame : Frame) : Bool := frame.declared == frame.computed

/-- The payload of a frame whose checksum is right. -/
def verifiedPayload (frame : Frame) : Except FrameError Bytes :=
  if frame.verified then .ok frame.payload else .error (.mismatch frame.declared frame.computed)

/-- How many bytes the frame takes on the wire. -/
def wireSize (frame : Frame) : Nat := frameOverhead + frame.payload.length

/-- The bytes of a frame on the wire. -/
def wire (frame : Frame) : Bytes :=
  Bytes.ofWord (UInt32.ofNat frame.payload.length) ++ frame.payload ++ Bytes.ofWord frame.declared

theorem length_wire (frame : Frame) : frame.wire.length = frame.wireSize := by
  simp only [wire, wireSize, frameOverhead, lengthSize, checksumSize, List.length_append,
    Bytes.length_ofWord]
  omega

/-- The bytes that carry a payload, if its length fits in a word. -/
def encode (payload : Bytes) : Except FrameError Bytes :=
  if payload.length ≤ maxDeclaredLength then .ok (ofPayload payload).wire
  else .error (.oversized payload.length maxDeclaredLength)

theorem encode_eq_ok_iff {payload wire : Bytes} :
    encode payload = .ok wire ↔
      payload.length ≤ maxDeclaredLength ∧ wire = (ofPayload payload).wire := by
  unfold encode
  split
  · rename_i declarable
    constructor
    · intro encoded
      cases encoded
      exact ⟨declarable, rfl⟩
    · rintro ⟨_, rfl⟩
      rfl
  · rename_i long
    constructor
    · intro encoded
      cases encoded
    · intro encoded
      exact absurd encoded.1 long

theorem verified_ofPayload (payload : Bytes) : (ofPayload payload).verified = true :=
  beq_self_eq_true _

/-- A frame with the right checksum is the frame that carries its payload. -/
theorem eq_ofPayload {frame : Frame} (verified : frame.verified = true) :
    frame = ofPayload frame.payload := by
  have right : frame.declared = checksum frame.payload := eq_of_beq verified
  rw [ofPayload, ← right]

/-- What a word can declare is what fits in thirty-two bits. -/
theorem le_maxDeclaredLength_iff {n : Nat} : n ≤ maxDeclaredLength ↔ n < UInt32.size := by
  unfold maxDeclaredLength UInt32.size
  omega

/-- What the bytes received so far begin with. -/
inductive Decoded where
  /-- Not yet a whole frame. -/
  | incomplete
  /-- A length above the limit, and what follows it. -/
  | oversized (size : Nat) (rest : Bytes)
  /-- A whole frame, and what follows it. -/
  | frame (frame : Frame) (rest : Bytes)
  deriving DecidableEq, Repr

/-- The first four bytes as a word, and the bytes behind them. -/
def takeWord? : Bytes → Option (UInt32 × Bytes)
  | b0 :: b1 :: b2 :: b3 :: rest => some (Bytes.word b0 b1 b2 b3, rest)
  | _ => none

/-- Take the first frame off the bytes received so far. -/
def decode (maxPayload : Nat) (bytes : Bytes) : Decoded :=
  match takeWord? bytes with
  | none => .incomplete
  | some (length, rest) =>
    if maxPayload < length.toNat then .oversized length.toNat rest
    else match takeWord? (rest.drop length.toNat) with
      | none => .incomplete
      | some (declared, behind) => .frame ⟨rest.take length.toNat, declared⟩ behind

theorem takeWord?_eq_some_iff {bytes rest : Bytes} {w : UInt32} :
    takeWord? bytes = some (w, rest) ↔ bytes = Bytes.ofWord w ++ rest := by
  constructor
  · intro taken
    match bytes with
    | b0 :: b1 :: b2 :: b3 :: behind =>
      simp only [takeWord?, Option.some.injEq, Prod.mk.injEq] at taken
      obtain ⟨rfl, rfl⟩ := taken
      rw [Bytes.ofWord_word]
      rfl
    | [] | [_] | [_, _] | [_, _, _] => simp [takeWord?] at taken
  · rintro rfl
    simp only [Bytes.ofWord, List.cons_append, List.nil_append, takeWord?, Bytes.word_ofWord]

theorem takeWord?_eq_none_iff {bytes : Bytes} : takeWord? bytes = none ↔ bytes.length < 4 := by
  match bytes with
  | _ :: _ :: _ :: _ :: _ => simp [takeWord?]
  | [] | [_] | [_, _] | [_, _, _] => simp [takeWord?]

theorem wire_append (frame : Frame) (rest : Bytes) :
    frame.wire ++ rest =
      Bytes.ofWord (UInt32.ofNat frame.payload.length) ++
        (frame.payload ++ (Bytes.ofWord frame.declared ++ rest)) := by
  simp [wire]

theorem toNat_ofNat_of_le {n : Nat} (declarable : n ≤ maxDeclaredLength) :
    (UInt32.ofNat n).toNat = n := by
  have : n ≤ 4294967295 := declarable
  simp only [UInt32.toNat_ofNat']
  omega

/-- What a whole length word and the bytes behind it decode to. -/
theorem decode_ofWord_append (maxPayload : Nat) (length : UInt32) (rest : Bytes) :
    decode maxPayload (Bytes.ofWord length ++ rest) =
      if maxPayload < length.toNat then .oversized length.toNat rest
      else match takeWord? (rest.drop length.toNat) with
        | none => .incomplete
        | some (declared, behind) => .frame ⟨rest.take length.toNat, declared⟩ behind := by
  rw [decode, takeWord?_eq_some_iff.mpr rfl]

theorem decode_eq_oversized_iff {maxPayload size : Nat} {bytes rest : Bytes} :
    decode maxPayload bytes = .oversized size rest ↔
      maxPayload < size ∧ size ≤ maxDeclaredLength ∧
        bytes = Bytes.ofWord (UInt32.ofNat size) ++ rest := by
  constructor
  · intro outcome
    unfold decode at outcome
    split at outcome
    · cases outcome
    · rename_i length behind taken
      split at outcome
      · rename_i large
        cases outcome
        refine ⟨large, le_maxDeclaredLength_iff.mpr length.toNat_lt, ?_⟩
        rw [UInt32.ofNat_toNat]
        exact takeWord?_eq_some_iff.mp taken
      · split at outcome <;> cases outcome
  · rintro ⟨large, declarable, rfl⟩
    rw [decode_ofWord_append, toNat_ofNat_of_le declarable, if_pos large]

theorem decode_eq_frame_iff {maxPayload : Nat} {bytes rest : Bytes} {frame : Frame} :
    decode maxPayload bytes = .frame frame rest ↔
      frame.payload.length ≤ maxPayload ∧ frame.payload.length ≤ maxDeclaredLength ∧
        bytes = frame.wire ++ rest := by
  constructor
  · intro outcome
    unfold decode at outcome
    split at outcome
    · cases outcome
    · rename_i length behind taken
      split at outcome
      · cases outcome
      · rename_i small
        split at outcome
        · cases outcome
        · rename_i declared after last
          cases outcome
          have split := takeWord?_eq_some_iff.mp last
          have whole : (behind.take length.toNat).length = length.toNat := by
            have := congrArg List.length split
            simp only [List.length_drop, List.length_append, Bytes.length_ofWord] at this
            simp only [List.length_take]
            omega
          have declarable := le_maxDeclaredLength_iff.mpr length.toNat_lt
          simp only [wire_append, whole, UInt32.ofNat_toNat]
          refine ⟨by omega, declarable, ?_⟩
          rw [← split, List.take_append_drop]
          exact takeWord?_eq_some_iff.mp taken
  · rintro ⟨accepted, declarable, rfl⟩
    rw [wire_append, decode_ofWord_append, toNat_ofNat_of_le declarable, if_neg (by omega),
      List.drop_left, takeWord?_eq_some_iff.mpr rfl, List.take_left]

/-- Bytes are not yet a frame as long as the length is not whole, or as there are fewer of them than
it asks for. -/
theorem decode_eq_incomplete_iff {maxPayload : Nat} {bytes : Bytes} :
    decode maxPayload bytes = .incomplete ↔
      bytes.length < 4 ∨
        ∃ length : UInt32, Bytes.ofWord length <+: bytes ∧ length.toNat ≤ maxPayload ∧
          bytes.length < frameOverhead + length.toNat := by
  have overhead : frameOverhead = 8 := rfl
  rcases taken : takeWord? bytes with _ | ⟨length, rest⟩
  · rw [decode, taken]
    exact iff_of_true rfl (.inl (takeWord?_eq_none_iff.mp taken))
  · have front := takeWord?_eq_some_iff.mp taken
    subst front
    have whole : (Bytes.ofWord length ++ rest).length = 4 + rest.length := by
      rw [List.length_append, Bytes.length_ofWord]
    rw [decode_ofWord_append]
    constructor
    · intro outcome
      split at outcome
      · cases outcome
      · rename_i small
        split at outcome
        · rename_i short
          rw [takeWord?_eq_none_iff, List.length_drop] at short
          exact .inr ⟨length, List.prefix_append _ _, by omega, by omega⟩
        · cases outcome
    · rintro (short | ⟨other, ⟨behind, same⟩, accepted, short⟩)
      · omega
      · have words := List.append_inj_left same (by simp)
        cases Bytes.ofWord_injective words
        have none : takeWord? (rest.drop length.toNat) = none := by
          rw [takeWord?_eq_none_iff, List.length_drop]
          omega
        rw [if_neg (by omega), none]

/-- A payload that fits is read back from its frame, whatever follows. -/
theorem decode_wire {maxPayload : Nat} {frame : Frame} (rest : Bytes)
    (accepted : frame.payload.length ≤ maxPayload)
    (declarable : frame.payload.length ≤ maxDeclaredLength) :
    decode maxPayload (frame.wire ++ rest) = .frame frame rest :=
  decode_eq_frame_iff.mpr ⟨accepted, declarable, rfl⟩

end Frame

end Provisioning
