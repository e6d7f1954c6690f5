/-! # Input and output errors

An error of the host's input and output has a kind, by which the program decides what to do, and a
text for the operator.
-/

namespace Provisioning

inductive IoKind where
  | notFound
  | permissionDenied
  | connectionRefused
  | connectionReset
  | connectionAborted
  | notConnected
  | addrInUse
  | brokenPipe
  | alreadyExists
  | wouldBlock
  | notADirectory
  | isADirectory
  | invalidInput
  | invalidData
  | timedOut
  | writeZero
  | interrupted
  | unsupported
  | unexpectedEof
  | outOfMemory
  | invalidFilename
  | other
  deriving DecidableEq, Repr

namespace IoKind

/-- The text of an error about which nothing but its kind is known. -/
def description : IoKind → String
  | notFound => "entity not found"
  | permissionDenied => "permission denied"
  | connectionRefused => "connection refused"
  | connectionReset => "connection reset"
  | connectionAborted => "connection aborted"
  | notConnected => "not connected"
  | addrInUse => "address in use"
  | brokenPipe => "broken pipe"
  | alreadyExists => "entity already exists"
  | wouldBlock => "operation would block"
  | notADirectory => "not a directory"
  | isADirectory => "is a directory"
  | invalidInput => "invalid input parameter"
  | invalidData => "invalid data"
  | timedOut => "timed out"
  | writeZero => "write zero"
  | interrupted => "operation interrupted"
  | unsupported => "unsupported"
  | unexpectedEof => "unexpected end of file"
  | outOfMemory => "out of memory"
  | invalidFilename => "invalid filename"
  | other => "other error"

/-- Nothing arrived in time; the same call may succeed later. -/
def isTimeout (kind : IoKind) : Bool := kind = timedOut || kind = wouldBlock

/-- A write or flush that failed in this way is tried again at once. -/
def isTransient (kind : IoKind) : Bool := kind = interrupted || kind = wouldBlock

end IoKind

structure IoError where
  kind : IoKind
  text : String
  deriving DecidableEq, Repr

/-- An error about which nothing but its kind is known. -/
def IoError.ofKind (kind : IoKind) : IoError := ⟨kind, kind.description⟩

end Provisioning
