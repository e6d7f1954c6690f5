import Provisioning.Arguments.Grammar
import Provisioning.Arguments.Value
import Provisioning.Journal
import Provisioning.Link.Port
import Provisioning.Profile
import Provisioning.Transcript

/-! # The program's command line

The program has four commands. `run` serves a device, `ports` lists the serial ports, `inspect`
surveys a capture, and `version` tells about the program itself. How output and log are written can
be chosen in front of a command or behind it, and what is said behind it wins.
-/

namespace Provisioning

namespace OutputFormat

def ofWord? : String → Option OutputFormat
  | "json" => some json
  | "table" => some table
  | "pretty" => some pretty
  | _ => none

/-- The format where none is chosen. -/
def usual (terminal : Bool) : OutputFormat := if terminal then pretty else json

end OutputFormat

def LogFormat.ofWord? : String → Option LogFormat
  | "text" => some text
  | "json" => some json
  | _ => none

def Level.ofWord? (word : String) : Option Level := Level.all.find? (·.word = word)

/-- What the program is asked to do. -/
inductive Request where
  | run (port : PortSettings) (profile : Profile)
  | ports
  | inspect (file : String) (maxPayload : Nat)
  | version (extended : Bool)
  deriving DecidableEq, Repr

/-- What the operator asks for with a command line. -/
structure Invocation where
  request : Request
  format : Option OutputFormat := none
  logFormat : LogFormat := .text
  logLevel : Level := .info
  deriving DecidableEq, Repr

namespace Arguments

/-- Choices that every command leaves open. -/
structure Common where
  format : Option OutputFormat := none
  logFormat : Option LogFormat := none
  logLevel : Option Level := none
  deriving DecidableEq, Repr

/-- What is said behind a command wins over what is said in front of it. -/
def Common.over (behind front : Common) : Common where
  format := behind.format <|> front.format
  logFormat := behind.logFormat <|> front.logFormat
  logLevel := behind.logLevel <|> front.logLevel

/-- The settings of a level: the common choices, and its own. -/
structure Settings (α : Type) where
  own : α
  common : Common := {}

/-- The settings of `run`. -/
structure RunSettings where
  port : PortSettings := { port := "" }
  profile : Profile := {}

/-- The settings of `inspect`. -/
structure InspectSettings where
  file : String := ""
  maxPayload : Nat := defaultMaxPayload

section Put

variable {σ α : Type}

def anyText (put : String → σ → σ) : Put σ := fun text settings => .ok (put text settings)

def path (put : String → σ → σ) : Put σ := fun text settings =>
  if text.isEmpty then .error .emptyPath else .ok (put text settings)

def choice (read : String → Option α) (put : α → σ → σ) : Put σ := fun text settings =>
  match read text with
  | some value => .ok (put value settings)
  | none => .error .noChoice

def number (read : String → Option Nat) (put : Nat → σ → σ) : Put σ := fun text settings =>
  match read text with
  | some value => .ok (put value settings)
  | none => .error .unreadable

def checked (read : String → Except Failure α) (put : α → σ → σ) : Put σ := fun text settings =>
  match read text with
  | .ok value => .ok (put value settings)
  | .error _ => .error .unreadable

end Put

def helpParameter {σ : Type} : Parameter σ where
  name := "help"
  short := some 'h'
  effect := .refuse .help

/-- The parameters that every level has. -/
def commonParameters {α : Type} : List (Parameter (Settings α)) := [
  { name := "format"
    effect := .value (choice OutputFormat.ofWord? fun value settings =>
      { settings with common.format := some value }) },
  { name := "log-format"
    effect := .value (choice LogFormat.ofWord? fun value settings =>
      { settings with common.logFormat := some value }) },
  { name := "log-level"
    effect := .value (choice Level.ofWord? fun value settings =>
      { settings with common.logLevel := some value }) },
  helpParameter]

/-- The commands, and the one that gives help about them. -/
inductive Verb where
  | run
  | ports
  | inspect
  | version
  | help
  deriving DecidableEq, Repr

/-- The level in front of the command. -/
def rootGrammar : Grammar (Settings Unit) Verb where
  parameters := commonParameters ++
    [{ name := "version", short := some 'V', effect := .refuse .version }]
  commands := [("run", .run), ("ports", .ports), ("inspect", .inspect), ("version", .version),
    ("help", .help)]

def runGrammar : Grammar (Settings RunSettings) Empty where
  parameters := [
    { name := "port", short := some 'p', envVar := some "MFGPROV_PORT", required := true
      effect := .value (anyText fun value settings =>
        { settings with own.port.port := value }) },
    { name := "baud", envVar := some "MFGPROV_BAUD"
      effect := .value (number speed? fun value settings =>
        { settings with own.port.baudRate := value }) },
    { name := "poll-interval", envVar := some "MFGPROV_POLL_INTERVAL"
      effect := .value (checked readDuration fun value settings =>
        { settings with own.port.pollInterval := value }) },
    { name := "device-cert", envVar := some "MFGPROV_DEVICE_CERT"
      effect := .value (path fun value settings =>
        { settings with own.profile.deviceCert := some value }) },
    { name := "ek-certificate", envVar := some "MFGPROV_EK_CERTIFICATE"
      effect := .value (path fun value settings =>
        { settings with own.profile.ekCertificate := some value }) },
    { name := "serial-number", envVar := some "MFGPROV_SERIAL_NUMBER"
      effect := .value (anyText fun value settings =>
        { settings with own.profile.serialNumber := Bytes.ofText (value ++ "\n") }) },
    { name := "ek-log", envVar := some "MFGPROV_EK_LOG"
      effect := .value (path fun value settings =>
        { settings with own.profile.keyLog := value }) },
    { name := "mac0", envVar := some "MFGPROV_MAC0"
      effect := .value (checked readWord fun value settings =>
        { settings with own.profile.mac0 := value }) },
    { name := "mac1", envVar := some "MFGPROV_MAC1"
      effect := .value (checked readWord fun value settings =>
        { settings with own.profile.mac1 := value }) },
    { name := "ek-cert-range", envVar := some "MFGPROV_EK_CERT_RANGE"
      effect := .value (checked readRange fun value settings =>
        { settings with own.profile.certRange := value }) },
    { name := "exchange-timeout", envVar := some "MFGPROV_EXCHANGE_TIMEOUT"
      effect := .value (checked readDuration fun value settings =>
        { settings with own.profile.exchangeLimit := some value }) },
    { name := "max-payload", envVar := some "MFGPROV_MAX_PAYLOAD"
      effect := .value (number size? fun value settings =>
        { settings with own.profile.maxPayload := value }) }] ++ commonParameters

/-- The variables of the environment that the program knows. -/
def envVars : List String := runGrammar.parameters.filterMap (·.envVar)

def portsGrammar : Grammar (Settings Unit) Empty where
  parameters := commonParameters

def inspectGrammar : Grammar (Settings InspectSettings) Empty where
  parameters := [
    { name := "max-payload"
      effect := .value (number size? fun value settings =>
        { settings with own.maxPayload := value }) }] ++ commonParameters
  operand := some ⟨"file", path fun value settings => { settings with own.file := value }⟩

def versionGrammar : Grammar (Settings Bool) Empty where
  parameters := [
    { name := "extended"
      effect := .flag fun settings => { settings with own := true } }] ++ commonParameters

/-- Help can be asked for the whole program or for one command. -/
def helpFor : List String → Refusal
  | [] => .help
  | [word] => if (rootGrammar.commands.lookup word).isSome then .help else .unknownCommand word
  | word :: other :: _ =>
    .unknownCommand (if (rootGrammar.commands.lookup word).isSome then other else word)

def helpText : String := "commands: run, ports, inspect, version, help\n"

/-- Read the words behind a command. -/
def readRequest (environment : List (String × String)) (words : List String) :
    Verb → Except Refusal (Request × Common)
  | .run => do
    let settings ← runGrammar.readAll environment { own := {} } words
    pure (.run settings.own.port settings.own.profile, settings.common)
  | .ports => do
    let settings ← portsGrammar.readAll environment { own := () } words
    pure (.ports, settings.common)
  | .inspect => do
    let settings ← inspectGrammar.readAll environment { own := {} } words
    pure (.inspect settings.own.file settings.own.maxPayload, settings.common)
  | .version => do
    let settings ← versionGrammar.readAll environment { own := false } words
    pure (.version settings.own, settings.common)
  | .help => .error (helpFor words)

/-- Read a command line. -/
def read (environment : List (String × String)) (words : List String) :
    Except Refusal Invocation := do
  let (front, command) ← rootGrammar.read words { settings := { own := () } }
  match command with
  | none =>
    let front ← front.settle
    .error (if front.given.isEmpty then .nothingGiven else .missingCommand)
  | some (verb, rest) =>
    let (request, behind) ← readRequest environment rest verb
    let front ← front.settle
    let common := behind.over front.settings.common
    pure {
      request
      format := common.format
      logFormat := common.logFormat.getD .text
      logLevel := common.logLevel.getD .info }

end Arguments

end Provisioning
