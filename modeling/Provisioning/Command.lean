/-! # What the device asks for

A device asks for something, or reports how it fares, by sending a line that is exactly one of
sixteen literals. There is no folding of case and no allowance for anything before or behind the
literal: `ofLine?_eq_some_iff` says that a line is a command when it is the command's literal and at
no other time.
-/

namespace Provisioning

/-- A provisioning step that the device reports as failed. -/
inductive FailedStep where
  | mac
  | remoteHost
  | ekCert
  | ekPublic
  | deviceCert
  | ekCertificate
  | smbios
  | provisionedStatus
  deriving DecidableEq, Repr

namespace FailedStep

def literal : FailedStep → String
  | mac => "MFGF:mac"
  | remoteHost => "MFGF:remotehost"
  | ekCert => "MFGF:ekcert"
  | ekPublic => "MFGF:ekpublic"
  | deviceCert => "MFGF:devicecert"
  | ekCertificate => "MFGF:ekcertificate"
  | smbios => "MFGF:smbios"
  | provisionedStatus => "MFGF:provisionedS"

/-- What the operator is told. -/
def message : FailedStep → String
  | mac => "Device failed to receive MAC address!"
  | remoteHost => "Device failed to communicate with host!"
  | ekCert => "Device failed to retrieve EK certificate!"
  | ekPublic => "Device failed to retrieve EK public key!"
  | deviceCert => "Device failed to store device certificate!"
  | ekCertificate => "Device failed to store EK certificate!"
  | smbios => "Device failed to store smbios values!"
  | provisionedStatus => "Device failed to store provisioning status!"

def all : List FailedStep :=
  [mac, remoteHost, ekCert, ekPublic, deviceCert, ekCertificate, smbios, provisionedStatus]

end FailedStep

inductive Command where
  /-- The device asks for its pair of MAC words. -/
  | requestMac
  /-- The device asks whether a host is there. -/
  | hostCheck
  /-- The device asks for its cross-signed certificate. -/
  | deviceCert
  /-- The device asks for the certificate of its endorsement key. -/
  | ekCertificate
  /-- The device asks for the serial number of its system. -/
  | smbiosSerial
  /-- The device is about to send its endorsement key's certificate. -/
  | ekCert
  /-- The device is about to send the public part of its endorsement key. -/
  | ekPublic
  /-- Provisioning is complete. -/
  | success
  /-- A step has failed. -/
  | failure (step : FailedStep)
  deriving DecidableEq, Repr

namespace Command

def literal : Command → String
  | requestMac => "MFG:reqmac"
  | hostCheck => "MFG:hostcheck"
  | deviceCert => "MFG:devicecert"
  | ekCertificate => "MFG:ekcertificate"
  | smbiosSerial => "MFG:smbiossystemserial"
  | ekCert => "MFG:ekcert"
  | ekPublic => "MFG:ekpublic"
  | success => "MFG:success"
  | failure step => step.literal

def all : List Command :=
  [requestMac, hostCheck, deviceCert, ekCertificate, smbiosSerial, ekCert, ekPublic, success] ++
    FailedStep.all.map failure

theorem mem_all (command : Command) : command ∈ all := by
  cases command with
  | failure step => cases step <;> decide
  | _ => decide

theorem literal_injective {c d : Command} (same : c.literal = d.literal) : c = d := by
  have distinct : ∀ c ∈ all, ∀ d ∈ all, c.literal = d.literal → c = d := by decide
  exact distinct c (mem_all c) d (mem_all d) same

/-- The command whose literal a line is. -/
def ofLine? (line : String) : Option Command := all.find? (·.literal = line)

theorem ofLine?_eq_some_iff {line : String} {command : Command} :
    ofLine? line = some command ↔ line = command.literal := by
  constructor
  · intro found
    have := List.find?_some found
    simpa using (of_decide_eq_true this).symm
  · rintro rfl
    cases found : ofLine? command.literal with
    | none =>
      have := List.find?_eq_none.mp found command (mem_all command)
      simp at this
    | some other =>
      have := List.find?_some found
      rw [literal_injective (of_decide_eq_true this)]

end Command

end Provisioning
