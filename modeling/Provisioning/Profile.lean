import Provisioning.Duration
import Provisioning.Frame
import Provisioning.KeyMaterial

/-! # What a device is provisioned with -/

namespace Provisioning

/-- Everything that the host answers a device with, and the limits it sets. -/
structure Profile where
  mac0 : UInt32 := 0xDEADBEEF
  mac1 : UInt32 := 0x0000BAD0
  /-- The token that says a host is there. -/
  hostToken : UInt32 := 0x4D464748
  /-- The file with the device's certificate. -/
  deviceCert : Option String := none
  /-- The file with the endorsement key's certificate. -/
  ekCertificate : Option String := none
  serialNumber : Bytes := Bytes.ofText "RealSerialNumber123456789\n"
  /-- The file that received key material is added to. -/
  keyLog : String := "mfgek.txt"
  /-- The part of a received certificate that is recorded. -/
  certRange : ByteRange := ⟨10, 326⟩
  /-- The largest payload that is accepted or sent. -/
  maxPayload : Nat := defaultMaxPayload
  /-- How long a frame of key material may take. Without a limit it is awaited for ever. -/
  exchangeLimit : Option Duration := none
  deriving DecidableEq, Repr

namespace Profile

/-- The file that is sent as the endorsement key's certificate: its own, or the device's. -/
def ekCertificateFile (profile : Profile) : Option String :=
  profile.ekCertificate <|> profile.deviceCert

/-- The answer to a request for the MAC words: both, and their wrapping sum. -/
def macBlock (mac0 mac1 : UInt32) : Bytes :=
  Bytes.ofWord mac0 ++ Bytes.ofWord mac1 ++ Bytes.ofWord (mac0 + mac1)

end Profile

end Provisioning
