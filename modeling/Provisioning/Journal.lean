import Provisioning.Json

/-! # The log

While it works the program notes what it does. A record has a level, a message and named fields; it
is written on one line, as text or as a JSON object. The operator chooses the least serious level
that is written.
-/

namespace Provisioning

inductive Level where
  | error
  | warn
  | info
  | debug
  | trace
  deriving DecidableEq, Repr

namespace Level

/-- The levels in their order, the most serious first. -/
def rank : Level → Nat
  | error => 0
  | warn => 1
  | info => 2
  | debug => 3
  | trace => 4

/-- The word for the level on the command line. -/
def word : Level → String
  | error => "error"
  | warn => "warn"
  | info => "info"
  | debug => "debug"
  | trace => "trace"

/-- The word for the level in the log. -/
def label : Level → String
  | error => "ERROR"
  | warn => "WARN"
  | info => "INFO"
  | debug => "DEBUG"
  | trace => "TRACE"

def all : List Level := [error, warn, info, debug, trace]

/-- Whether a record of this level is written when the operator asks for `least`. -/
def within (level least : Level) : Bool := level.rank ≤ least.rank

end Level

inductive LogFormat where
  | text
  | json
  deriving DecidableEq, Repr

namespace Journal

/-- The value of a field; in text lines a quoted one stands between quotes and a plain one does
not. -/
inductive Value where
  | number (n : Nat)
  | quoted (text : String)
  | plain (text : String)
  deriving DecidableEq, Repr

namespace Value

def text : Value → String
  | number n => toString n
  | quoted text => String.ofList (Text.Quoted.encode text.toList)
  | plain text => text

def json : Value → Json
  | number n => .number n
  | quoted text => .text text
  | plain text => .text text

end Value

structure Record where
  level : Level
  message : String
  fields : List (String × Value) := []
  deriving DecidableEq, Repr

namespace Record

/-- A record as text, behind the time of day. -/
def textLine (time : String) (record : Record) : String :=
  let label := record.level.label
  let padding := String.ofList (List.replicate (5 - label.length) ' ')
  let fields := record.fields.map fun (name, value) => " " ++ name ++ "=" ++ value.text
  time ++ " " ++ padding ++ label ++ " " ++ record.message ++ String.join fields ++ "\n"

/-- A record as a JSON object. -/
def jsonLine (time : String) (record : Record) : String :=
  let fields := ("message", Json.text record.message) ::
    record.fields.map fun (name, value) => (name, value.json)
  Json.render (.object [("timestamp", .text time), ("level", .text record.level.label),
    ("fields", .object fields)]) ++ "\n"

def line (format : LogFormat) (time : String) (record : Record) : String :=
  match format with
  | .text => record.textLine time
  | .json => record.jsonLine time

end Record

/-- The lines of the records that are serious enough. -/
def lines (format : LogFormat) (least : Level) (time : String) (records : List Record) : String :=
  String.join ((records.filter (·.level.within least)).map (·.line format time))

end Journal

end Provisioning
