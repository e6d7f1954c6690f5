import Provisioning.Link.Port
import Provisioning.Session

/-! # Exit statuses

When a command of the program fails, the operator sees a message and the program ends with a status
that tells what kind of failure it was.
-/

namespace Provisioning

namespace ExitStatus

def success : Nat := 0
def failure : Nat := 1
def transport : Nat := 3
def permissionDenied : Nat := 50
def dataInvalid : Nat := 60
def usage : Nat := 64
def timeout : Nat := 124
def internal : Nat := 125

/-- The status for an error of some kind, where kinds without a status of their own get the one that
is given. -/
def ofKind (otherwise : Nat) (kind : IoKind) : Nat :=
  match kind with
  | .permissionDenied => permissionDenied
  | .timedOut | .wouldBlock => timeout
  | _ => otherwise

end ExitStatus

/-- Why a command failed. -/
structure Failure where
  status : Nat
  message : String
  deriving DecidableEq, Repr

namespace Failure

/-- A file could not be used. -/
def ofIoError (context : String) (error : IoError) : Failure where
  status := if error.kind = .notFound then ExitStatus.failure
    else ExitStatus.ofKind ExitStatus.internal error.kind
  message := context ++ ": " ++ error.text

/-- The line failed, or what came over it was wrong. -/
def ofFrameError (context : String) (error : FrameError) : Failure :=
  match error with
  | .io source =>
    ⟨ExitStatus.ofKind ExitStatus.transport source.kind, context ++ ": " ++ source.text⟩
  | .oversized .. | .mismatch .. => ⟨ExitStatus.dataInvalid, context ++ ": " ++ error.message⟩
  | .closed => ⟨ExitStatus.failure, context ++ ": " ++ error.message⟩

/-- A port could not be used. -/
def ofPortError (context : String) (error : PortError) : Failure where
  status := match error.ioKind with
    | some kind => ExitStatus.ofKind ExitStatus.transport kind
    | none => ExitStatus.transport
  message := context ++ ": " ++ error.message

/-- A session ended with an error. -/
def ofSessionError (context : String) : SessionError → Failure
  | .frame error => ofFrameError context error
  | .keyLog _ error => ofIoError context error

end Failure

end Provisioning
