import Provisioning.Event

/-! # The transcript

Every event is written to the operator's output as it happens, either as one JSON object on a line
of its own or in the words that operators are used to. The output may fail: an outlet has room for
so many bytes, cuts the piece that crosses the limit, and takes nothing after it. An event that
could not be written whole is given up where it was cut, and the session goes on.
-/

namespace Provisioning

inductive OutputFormat where
  | json
  | table
  | pretty
  deriving DecidableEq, Repr

/-- A place that text is written to. -/
structure Outlet where
  /-- How many more bytes it takes, if there is a limit. -/
  room : Option Nat := none
  accepted : Bytes := []

namespace Outlet

/-- Write a piece, of which the outlet takes what it has room for. -/
def put (piece : Bytes) (outlet : Outlet) : Bool × Outlet :=
  match outlet.room with
  | none => (true, { outlet with accepted := outlet.accepted ++ piece })
  | some room =>
    (piece.length ≤ room,
      { room := some (room - piece.length), accepted := outlet.accepted ++ piece.take room })

/-- Write pieces one after the other, up to the first that is cut. -/
def putAll : List Bytes → Outlet → Bool × Outlet
  | [], outlet => (true, outlet)
  | piece :: rest, outlet => match outlet.put piece with
    | (true, outlet) => outlet.putAll rest
    | (false, outlet) => (false, outlet)

end Outlet

namespace Event

/-- The lines of an event in the operators' words. -/
def lines : Event → List String
  | echo line => [line]
  | undecodable size => [s!"undecodable line skipped ({size} bytes)"]
  | served command size => [command.literal ++ s!": sent {size} bytes"]
  | keyMaterial part _ encoded => [part.label, encoded]
  | provisioned message => [message]
  | deviceFailure step => [step.message, rebootNotice]
  | checksumMismatch part _ _ => [part.mismatchMessage, rebootNotice]
  | abandoned command reason => [command.literal ++ ": abandoned (" ++ reason ++ ")"]

/-- The pieces of an event's text. -/
def pieces (format : OutputFormat) (event : Event) : List String :=
  match format with
  | .json => [event.json.render, "\n"]
  | .table | .pretty => event.lines.flatMap fun line => [line, "\n"]

/-- The text of an event. -/
def text (format : OutputFormat) (event : Event) : String := String.join (event.pieces format)

/-- Write an event, and tell whether it was written whole. -/
def emit (format : OutputFormat) (event : Event) (outlet : Outlet) : Bool × Outlet :=
  outlet.putAll ((event.pieces format).map Bytes.ofText)

end Event

namespace Transcript

/-- The text of events that are written to an outlet without a limit. -/
def text (format : OutputFormat) (events : List Event) : String :=
  String.join (events.map (·.text format))

/-- Write events one after the other. -/
def emitAll (format : OutputFormat) (events : List Event) (outlet : Outlet) : Outlet :=
  events.foldl (fun outlet event => (event.emit format outlet).2) outlet

end Transcript

end Provisioning
