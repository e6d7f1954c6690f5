import Provisioning.Json

/-! # The counters of a session -/

namespace Provisioning

structure Tally where
  /-- Lines of text taken up by the session's loop. -/
  lines : Nat := 0
  commands : Nat := 0
  echoed : Nat := 0
  undecodable : Nat := 0
  served : Nat := 0
  /-- Records added to the key log. -/
  keyRecords : Nat := 0
  deviceFailures : Nat := 0
  checksumMismatches : Nat := 0
  abandoned : Nat := 0
  provisioned : Bool := false
  deriving DecidableEq, Repr

/-- The counters as fields of a JSON object. -/
def Tally.fields (tally : Tally) : List (String × Json) :=
  [("lines", .number tally.lines), ("commands", .number tally.commands),
    ("echoed", .number tally.echoed), ("undecodable", .number tally.undecodable),
    ("served", .number tally.served), ("key_records", .number tally.keyRecords),
    ("device_failures", .number tally.deviceFailures),
    ("checksum_mismatches", .number tally.checksumMismatches),
    ("abandoned", .number tally.abandoned), ("provisioned", .bool tally.provisioned)]

end Provisioning
