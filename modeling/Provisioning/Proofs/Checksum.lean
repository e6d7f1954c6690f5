import Provisioning.Frame

/-! # The checksum as a number

A checksum is told here by what the bytes add up to, without the order in which they are added and
without a sum that wraps on the way. `toNat_checksum` and `Frame.verified_eq_addsUp` say that frames
go by the same.
-/

namespace Provisioning

/-- The sum of the bytes. -/
def Bytes.total : Bytes → Nat
  | [] => 0
  | byte :: rest => byte.toNat + total rest

/-- The checksum that came with the frame is the sum of its bytes. -/
def Frame.addsUp (frame : Frame) : Bool :=
  frame.declared.toNat == Bytes.total frame.payload % UInt32.size

theorem toNat_checksum (payload : Bytes) :
    (checksum payload).toNat = Bytes.total payload % UInt32.size := by
  have summed (bytes : Bytes) (sum : UInt32) :
      (bytes.foldl (fun sum byte => sum + byte.toUInt32) sum).toNat =
        (sum.toNat + Bytes.total bytes) % UInt32.size := by
    induction bytes generalizing sum with
    | nil => exact (Nat.mod_eq_of_lt sum.toNat_lt).symm
    | cons byte rest ih =>
      have step : (sum + byte.toUInt32).toNat = (sum.toNat + byte.toNat) % UInt32.size := by
        rw [UInt32.toNat_add, UInt8.toNat_toUInt32]
      rw [List.foldl_cons, ih, step, Bytes.total, Nat.mod_add_mod, Nat.add_assoc]
  rw [checksum, summed, UInt32.toNat_zero, Nat.zero_add]

theorem Frame.verified_eq_addsUp (frame : Frame) : frame.verified = frame.addsUp := by
  rw [Bool.eq_iff_iff, verified, addsUp, beq_iff_eq, beq_iff_eq, ← toNat_checksum,
    UInt32.toNat_inj, computed]

end Provisioning
