import Provisioning.Bytes
import Provisioning.Command

/-! # Endorsement-key material

The device hands over two things about its endorsement key: a certificate, of whose payload only a
range of bytes is recorded, and the public part, which is recorded whole.
-/

namespace Provisioning

/-- The bytes at the positions from `start` up to, and without, `stop`. -/
structure ByteRange where
  start : Nat
  stop : Nat
  deriving DecidableEq, Repr

/-- The part of a byte string that lies in a range. A range that reaches past the end, or ends
before it starts, takes what there is. -/
def ByteRange.slice (range : ByteRange) (bytes : Bytes) : Bytes :=
  (bytes.take range.stop).drop range.start

inductive KeyPart where
  | certificate
  | publicKey
  deriving DecidableEq, Repr

namespace KeyPart

/-- The command that announces the part. -/
def command : KeyPart → Command
  | certificate => .ekCert
  | publicKey => .ekPublic

/-- The part that a line announces. -/
def announcedBy? (line : String) : Option KeyPart :=
  if line = Command.ekCert.literal then some certificate
  else if line = Command.ekPublic.literal then some publicKey
  else none

theorem announcedBy?_eq_some {line : String} {part : KeyPart}
    (announced : announcedBy? line = some part) : line = part.command.literal := by
  unfold announcedBy? at announced
  split at announced
  · cases announced
    assumption
  · split at announced
    · cases announced
      assumption
    · cases announced

/-- The name of the part in machine-readable output. -/
def tag : KeyPart → String
  | certificate => "ek_cert"
  | publicKey => "ek_public"

/-- The heading above the part in the transcript. -/
def label : KeyPart → String
  | certificate => "fTPM Endorsement Key Certificate:"
  | publicKey => "fTPM Endorsement Key Public:"

/-- What the operator is told when the checksum is wrong. -/
def mismatchMessage : KeyPart → String
  | certificate => "Invalid EK certificate received!"
  | publicKey => "Invalid EK public key received!"

/-- The bytes of a payload that are recorded. -/
def select (part : KeyPart) (range : ByteRange) (payload : Bytes) : Bytes :=
  match part with
  | certificate => range.slice payload
  | publicKey => payload

end KeyPart

end Provisioning
