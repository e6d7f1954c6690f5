import Provisioning.Proofs.Checksum

/-! # What a checksum catches

The bytes of a frame may be changed on their way. If the length is left alone, they are still read
as a frame, and its checksum is right if and only if the last four bytes are the sum of the payload
that has arrived (`decode_altered`). So a change of the checksum alone is caught, and so is a change
of a single byte of the payload, which moves the sum by less than it takes to wrap. Bytes that have
changed places are not: the sum is the same in any order.
-/

namespace Provisioning

namespace Bytes

/-- The number that the bytes spell, the least significant first. -/
def littleEndian : Bytes → Nat
  | [] => 0
  | byte :: rest => byte.toNat + 256 * littleEndian rest

private theorem littleEndian_ofWord (w : UInt32) : littleEndian (ofWord w) = w.toNat := by
  have bound := w.toNat_lt
  simp only [ofWord, littleEndian, UInt8.toNat_ofNat']
  omega

/-- Any four bytes are a word. -/
theorem exists_ofWord {bytes : Bytes} (four : bytes.length = 4) : ∃ w, bytes = ofWord w := by
  match bytes with
  | [b0, b1, b2, b3] => exact ⟨word b0 b1 b2 b3, (ofWord_word b0 b1 b2 b3).symm⟩

/-- The sum does not tell in which order the bytes stand. -/
theorem total_perm {first second : Bytes} (moved : first.Perm second) :
    total first = total second := by
  induction moved with
  | nil => rfl
  | cons byte _ ih => rw [total, total, ih]
  | swap one other rest =>
    simp only [total]
    omega
  | trans _ _ ih ih' => exact ih.trans ih'

/-- A byte in place of another changes the sum by the difference of the two. -/
theorem total_set {bytes : Bytes} {index : Nat} (inside : index < bytes.length) (byte : UInt8) :
    total (bytes.set index byte) + bytes[index].toNat = total bytes + byte.toNat := by
  induction bytes generalizing index with
  | nil => cases inside
  | cons first rest ih =>
    cases index with
    | zero =>
      simp only [List.set_cons_zero, List.getElem_cons_zero, total]
      omega
    | succ index =>
      have later := ih (Nat.lt_of_succ_lt_succ inside)
      simp only [List.set_cons_succ, List.getElem_cons_succ, total]
      omega

end Bytes

theorem checksum_perm {first second : Bytes} (moved : first.Perm second) :
    checksum first = checksum second := by
  rw [← UInt32.toNat_inj, toNat_checksum, toNat_checksum, Bytes.total_perm moved]

/-- Two bytes differ by less than the sum takes to wrap. -/
theorem checksum_set_ne {payload : Bytes} {index : Nat} (inside : index < payload.length)
    {byte : UInt8} (changed : byte ≠ payload[index]) :
    checksum (payload.set index byte) ≠ checksum payload := by
  have moved := Bytes.total_set inside byte
  have new := byte.toNat_lt
  have old := payload[index].toNat_lt
  have apart : byte.toNat ≠ payload[index].toNat := fun same => changed (UInt8.toNat_inj.mp same)
  intro same
  rw [← UInt32.toNat_inj, toNat_checksum, toNat_checksum] at same
  unfold UInt32.size at same
  omega

namespace Frame

variable {maxPayload : Nat} {payload : Bytes} {declared : UInt32}

/-- The bytes are read as a frame of this payload with this checksum, which is found wrong. -/
structure Caught (maxPayload : Nat) (bytes payload : Bytes) (declared : UInt32) : Prop where
  decoded : decode maxPayload bytes = .frame ⟨payload, declared⟩ []
  unverified : (⟨payload, declared⟩ : Frame).verified = false
  refused : (⟨payload, declared⟩ : Frame).verifiedPayload =
    .error (.mismatch declared (checksum payload))

/-- The bytes are read as a frame of this payload with this checksum, which is found right. -/
structure Passed (maxPayload : Nat) (bytes payload : Bytes) (declared : UInt32) : Prop where
  decoded : decode maxPayload bytes = .frame ⟨payload, declared⟩ []
  verified : (⟨payload, declared⟩ : Frame).verified = true
  accepted : (⟨payload, declared⟩ : Frame).verifiedPayload = .ok payload

theorem verified_iff :
    (⟨payload, declared⟩ : Frame).verified = true ↔
      declared.toNat = payload.total % UInt32.size := by
  rw [verified_eq_addsUp]
  exact beq_iff_eq

private theorem decode_wire_nil (accepted : payload.length ≤ maxPayload)
    (declarable : payload.length ≤ maxDeclaredLength) :
    decode maxPayload (Frame.mk payload declared).wire = .frame ⟨payload, declared⟩ [] := by
  have decoded := @decode_wire maxPayload ⟨payload, declared⟩ [] accepted declarable
  rwa [List.append_nil] at decoded

private theorem caught_of_ne (accepted : payload.length ≤ maxPayload)
    (declarable : payload.length ≤ maxDeclaredLength) (wrong : declared ≠ checksum payload) :
    Caught maxPayload (Frame.mk payload declared).wire payload declared := by
  have unverified : (⟨payload, declared⟩ : Frame).verified = false := beq_eq_false_iff_ne.mpr wrong
  refine ⟨decode_wire_nil accepted declarable, unverified, ?_⟩
  rw [verifiedPayload, unverified]
  rfl

private theorem passed_of_eq (accepted : payload.length ≤ maxPayload)
    (declarable : payload.length ≤ maxDeclaredLength) (right : declared = checksum payload) :
    Passed maxPayload (Frame.mk payload declared).wire payload declared := by
  have verified : (⟨payload, declared⟩ : Frame).verified = true := beq_iff_eq.mpr right
  refine ⟨decode_wire_nil accepted declarable, verified, ?_⟩
  rw [verifiedPayload, verified]
  rfl

/-! ## The parts of a frame on the line -/

private theorem length_ofWord_append (w : UInt32) (bytes : Bytes) :
    (Bytes.ofWord w ++ bytes).length = 4 + bytes.length := by
  rw [List.length_append, Bytes.length_ofWord]

private theorem take_wire (payload : Bytes) (declared : UInt32) :
    (Frame.mk payload declared).wire.take (4 + payload.length) =
      Bytes.ofWord (UInt32.ofNat payload.length) ++ payload := by
  rw [wire, List.take_left' (length_ofWord_append _ _)]

private theorem drop_wire (payload : Bytes) (declared : UInt32) :
    (Frame.mk payload declared).wire.drop (4 + payload.length) = Bytes.ofWord declared := by
  rw [wire, List.drop_left' (length_ofWord_append _ _)]

/-- What differs from a frame in its checksum alone is a frame with another checksum. -/
theorem exists_wire {altered : Bytes}
    (size : altered.length = (Frame.mk payload declared).wire.length)
    (kept : altered.take (4 + payload.length) =
      (Frame.mk payload declared).wire.take (4 + payload.length)) :
    ∃ other, Bytes.ofWord other = altered.drop (4 + payload.length) ∧
      altered = (Frame.mk payload other).wire := by
  have overhead : frameOverhead = 8 := rfl
  have four : (altered.drop (4 + payload.length)).length = 4 := by
    rw [List.length_drop, size, length_wire]
    simp only [wireSize]
    omega
  obtain ⟨other, last⟩ := Bytes.exists_ofWord four
  refine ⟨other, last.symm, ?_⟩
  calc altered
      = altered.take (4 + payload.length) ++ altered.drop (4 + payload.length) :=
        (List.take_append_drop _ _).symm
    _ = Bytes.ofWord (UInt32.ofNat payload.length) ++ payload ++ Bytes.ofWord other := by
        rw [kept, take_wire, last]

/-- A byte of the payload that is changed on the line. -/
theorem set_wire {index : Nat} (inside : index < payload.length) (byte : UInt8) :
    (Frame.mk payload declared).wire.set (4 + index) byte =
      (Frame.mk (payload.set index byte) declared).wire := by
  have behind : 4 + index - (Bytes.ofWord (UInt32.ofNat payload.length)).length = index := by
    rw [Bytes.length_ofWord]
    omega
  have front : 4 + index < (Bytes.ofWord (UInt32.ofNat payload.length) ++ payload).length := by
    rw [length_ofWord_append]
    omega
  have four : (Bytes.ofWord (UInt32.ofNat payload.length)).length ≤ 4 + index :=
    Nat.le_add_right 4 index
  simp only [wire, List.length_set]
  rw [List.set_append_left _ _ front, List.set_append_right _ _ four, behind]

/-- A frame whose bytes have been changed is still read as one as long as its length is left alone,
and passes if and only if its checksum is the sum of what its payload has become. -/
theorem decode_altered (maxPayload : Nat) (payload : Bytes)
    (accepted : payload.length ≤ maxPayload) (short : payload.length < UInt32.size) :
    (∀ other trailer : Bytes, other.length = payload.length → trailer.length = 4 →
        ∃ frame, decode maxPayload
            (Bytes.ofWord (UInt32.ofNat payload.length) ++ other ++ trailer) = .frame frame [] ∧
          frame.payload = other ∧
          (frame.verified = true ↔ trailer.littleEndian = Bytes.total other % UInt32.size)) ∧
      ∃ wire, encode payload = .ok wire ∧
        (∀ altered : Bytes, altered.length = wire.length →
          altered.take (4 + payload.length) = wire.take (4 + payload.length) → altered ≠ wire →
            ∃ declared, Bytes.ofWord declared = altered.drop (4 + payload.length) ∧
              Caught maxPayload altered payload declared) ∧
        (∀ (index : Nat) (inside : index < payload.length) (byte : UInt8),
          byte ≠ payload[index] →
            Caught maxPayload (wire.set (4 + index) byte) (payload.set index byte)
              (checksum payload)) ∧
        ∀ other : Bytes, other.Perm payload →
          Passed maxPayload (wire.take 4 ++ other ++ wire.drop (4 + payload.length)) other
            (checksum payload) := by
  have declarable := le_maxDeclaredLength_iff.mpr short
  constructor
  · intro other trailer same four
    obtain ⟨declared, rfl⟩ := Bytes.exists_ofWord four
    rw [← same] at accepted declarable ⊢
    refine ⟨_, decode_wire_nil accepted declarable, rfl, ?_⟩
    rw [Bytes.littleEndian_ofWord]
    exact verified_iff
  refine ⟨(ofPayload payload).wire, encode_eq_ok_iff.mpr ⟨declarable, rfl⟩, ?_, ?_, ?_⟩
  · intro altered size kept changed
    obtain ⟨declared, last, rfl⟩ := exists_wire size kept
    refine ⟨declared, last, caught_of_ne accepted declarable ?_⟩
    rintro rfl
    exact changed rfl
  · intro index inside byte changed
    have length : (payload.set index byte).length = payload.length := List.length_set
    rw [ofPayload, set_wire inside]
    rw [← length] at accepted declarable
    exact caught_of_ne accepted declarable (checksum_set_ne inside changed).symm
  · intro other moved
    have length : (ofPayload payload).wire.take 4 = Bytes.ofWord (UInt32.ofNat other.length) := by
      rw [moved.length_eq]
      rfl
    rw [length, ofPayload, drop_wire]
    rw [← moved.length_eq] at accepted declarable
    exact passed_of_eq accepted declarable (checksum_perm moved).symm

theorem decode_altered_threeBytes :
    let payload : Bytes := [1, 255, 3]
    payload.length ≤ 3 ∧ payload.length < UInt32.size ∧
      (∃ frame, decode 3 [3, 0, 0, 0, 2, 255, 2, 3, 1, 0, 0] = .frame frame [] ∧
        frame.payload = [2, 255, 2] ∧ frame.verified = true) ∧
      (∃ declared, Bytes.ofWord declared = [4, 1, 0, 0] ∧
        Caught 3 [3, 0, 0, 0, 1, 255, 3, 4, 1, 0, 0] payload declared) ∧
      Caught 3 [3, 0, 0, 0, 1, 254, 3, 3, 1, 0, 0] [1, 254, 3] 259 ∧
      Passed 3 [3, 0, 0, 0, 255, 3, 1, 3, 1, 0, 0] [255, 3, 1] 259 := by
  intro payload
  obtain ⟨rebuilt, wire, encoded, trailer, byte, moved⟩ :=
    decode_altered 3 payload (by decide) (by decide)
  have length : Bytes.ofWord (UInt32.ofNat payload.length) = [3, 0, 0, 0] := by decide
  have bytes : (ofPayload payload).wire = [3, 0, 0, 0, 1, 255, 3, 3, 1, 0, 0] := by decide
  obtain rfl := (encode_eq_ok_iff.mp encoded).2.trans bytes
  rw [length] at rebuilt
  obtain ⟨frame, decoded, same, right⟩ :=
    rebuilt [2, 255, 2] [3, 1, 0, 0] (by decide) (by decide)
  refine ⟨by decide, by decide, ⟨frame, decoded, same, right.mpr (by decide)⟩, ?_, ?_, ?_⟩
  · exact trailer [3, 0, 0, 0, 1, 255, 3, 4, 1, 0, 0] (by decide) (by decide) (by decide)
  · exact byte 1 (by decide) 254 (by decide)
  · exact moved [255, 3, 1] (by decide)

end Frame

end Provisioning
