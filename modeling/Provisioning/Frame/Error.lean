import Provisioning.IoError
import Provisioning.Text.Digits

/-! # What can go wrong with a frame -/

namespace Provisioning

inductive FrameError where
  /-- A length above the largest payload that is accepted or sent. -/
  | oversized (size max : Nat)
  /-- A payload whose byte sum is not the one declared behind it. -/
  | mismatch (declared computed : UInt32)
  /-- The link failed. -/
  | io (error : IoError)
  /-- The other side hung up. -/
  | closed
  deriving DecidableEq, Repr

namespace FrameError

def message : FrameError → String
  | oversized size max => s!"payload too large ({size} bytes, max {max})"
  | mismatch declared computed =>
      "checksum mismatch (declared " ++ Text.hexWord declared ++ ", computed " ++
        Text.hexWord computed ++ ")"
  | io error => "frame I/O error: " ++ error.text
  | closed => "connection closed (incomplete frame)"

/-- The call found nothing in time. What had arrived before it is kept. -/
def isTimeout : FrameError → Bool
  | io error => error.kind.isTimeout
  | _ => false

end FrameError

end Provisioning
