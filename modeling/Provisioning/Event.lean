import Provisioning.Json
import Provisioning.KeyMaterial

/-! # What the operator sees of a session -/

namespace Provisioning

/-- Printed after every failure and every rejected payload. The session goes on all the same. -/
def rebootNotice : String := "REBOOTING SYSTEM"

def successMessage : String := "Device provisioning successful. Power off device now!"

inductive Event where
  /-- A line that is no command, shown as it came. -/
  | echo (line : String)
  /-- A line of so many bytes that is not text. -/
  | undecodable (size : Nat)
  /-- A command was answered with so many bytes. -/
  | served (command : Command) (size : Nat)
  /-- Key material has arrived and its checksum is right; so many bytes of it are to be recorded,
  and this is their encoding. -/
  | keyMaterial (part : KeyPart) (size : Nat) (encoded : String)
  /-- The device reports that it is provisioned. -/
  | provisioned (message : String)
  /-- The device reports a failed step. -/
  | deviceFailure (step : FailedStep)
  /-- Key material with a wrong checksum was dropped. -/
  | checksumMismatch (part : KeyPart) (declared computed : UInt32)
  /-- The host could not complete a command. -/
  | abandoned (command : Command) (reason : String)
  deriving DecidableEq, Repr

namespace Event

/-- An event as a JSON object, its kind first. -/
def json : Event → Json
  | echo line => .object [("event", .text "echo"), ("line", .text line)]
  | undecodable size => .object [("event", .text "undecodable"), ("size", .number size)]
  | served command size =>
    .object [("event", .text "served"), ("command", .text command.literal), ("size", .number size)]
  | keyMaterial part size encoded =>
    .object [("event", .text "key_material"), ("kind", .text part.tag), ("size", .number size),
      ("base64", .text encoded)]
  | provisioned message => .object [("event", .text "provisioned"), ("message", .text message)]
  | deviceFailure step =>
    .object [("event", .text "device_failure"), ("failure", .text step.literal),
      ("message", .text step.message)]
  | checksumMismatch part declared computed =>
    .object [("event", .text "checksum_mismatch"), ("kind", .text part.tag),
      ("message", .text part.mismatchMessage), ("declared", .number declared.toNat),
      ("computed", .number computed.toNat)]
  | abandoned command reason =>
    .object [("event", .text "exchange_abandoned"), ("command", .text command.literal),
      ("reason", .text reason)]

end Event

end Provisioning
