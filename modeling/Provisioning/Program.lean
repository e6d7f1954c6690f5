import Provisioning.Arguments
import Provisioning.Report
import Provisioning.Session.Run

/-! # The program

A request is carried out on a host: it has ports, perhaps with a device on one of them, and files.
What comes of it is a status or a failure, the text for the operator, and the log.

To serve a device its port is opened, and the handle is doubled so that one side reads and the other
writes. The operator can stop the program from then on. A request to serve may also never come to an
end, when nothing arrives any more and nobody stops it.
-/

namespace Provisioning

/-- How the program was built. -/
structure Build where
  target : String
  system : String
  architecture : String
  compiler : String
  revision : String
  deriving DecidableEq, Repr

namespace Build

def name : String := "mfgprov"

def version : String := "0.1.0"

/-- What the program tells about itself. -/
def report (extended : Bool) (build : Build) : String :=
  if extended then
    s!"name: {name}\nversion: {version}\nbuild_target: {build.target}\n" ++
      s!"target_os: {build.system}\ntarget_arch: {build.architecture}\n" ++
      s!"rustc: {build.compiler}\ngit_hash: {build.revision}\n" ++
      s!"default_baud: {PortSettings.defaultBaudRate}\n"
  else s!"{name} {version}\n"

end Build

/-- What a request is carried out on. -/
structure Host where
  build : Build
  device : Option Device := none
  /-- The ports, in the order in which the driver finds them. -/
  ports : Except SerialError (List PortEntry) := .ok []
  files : FileTree := {}
  source : Source := {}
  sink : Sink := {}

inductive Completion where
  | done (status : Nat)
  | failed (failure : Failure)
  /-- Nothing will come from the device any more, and nobody stops the program. -/
  | waiting (pending : Option Exchange)
  deriving DecidableEq, Repr

namespace Completion

/-- The status that the program ends with, if it ends. -/
def status? : Completion → Option Nat
  | done status => some status
  | failed failure => some failure.status
  | waiting _ => none

/-- The line for the operator about a failure. -/
def errorLine : Completion → String
  | failed failure => "error: " ++ failure.message ++ "\n"
  | done _ | waiting _ => ""

end Completion

/-- What comes of a request. -/
structure Outcome where
  completion : Completion
  /-- What the operator reads. -/
  output : String := ""
  journal : List Journal.Record := []
  use : PortUse := {}
  files : FileTree
  sink : Sink

/-- The log and the message about a failure, as the operator asks for them. -/
def Outcome.errorOutput (format : LogFormat) (least : Level) (time : String) (outcome : Outcome) :
    String :=
  Journal.lines format least time outcome.journal ++ outcome.completion.errorLine

namespace Host

/-- The outcome of a request that leaves the files and the line as they were. -/
def outcome (host : Host) (completion : Completion) (output : String)
    (journal : List Journal.Record) : Outcome where
  completion
  output
  journal
  files := host.files
  sink := host.sink

/-- Open a port for a session that serves the device on it. -/
def connect (host : Host) (port : PortSettings) (profile : Profile) :
    Except Failure Session × PortUse × List Journal.Record :=
  match Handle.open port host.device host.files with
  | (.error error, use, journal) => (.error (.ofPortError "open failed" error), use, journal)
  | (.ok handle, use, journal) =>
    let (doubled, more) := handle.clone
    let use := { use with clones := use.clones + 1 }
    let journal := journal ++ more
    match doubled, handle.device.signalError with
    | .error error, _ => (.error (.ofPortError "link split failed" error), use, journal)
    | .ok _, some text =>
      (.error ⟨ExitStatus.internal, "signal handler setup failed: " ++ text⟩, use, journal)
    | .ok _, none =>
      (.ok (Session.start profile host.source host.sink host.files
        |>.note .info "provisioning console ready"
          [("port", .plain port.port), ("ek_log", .plain profile.keyLog)]), use, journal)

/-- Serve the device on a port. -/
def serve (host : Host) (port : PortSettings) (profile : Profile) (format : OutputFormat) :
    Outcome :=
  match host.connect port profile with
  | (.error failure, use, journal) => { host.outcome (.failed failure) "" journal with use }
  | (.ok session, use, journal) =>
    let (ended, session) := session.run
    let transcript := Transcript.text format session.events.toList
    let (completion, output) := match ended with
      | .finished tally => (.done ExitStatus.success, transcript ++ tally.report format)
      | .failed error => (.failed (.ofSessionError "console stopped" error), transcript)
      | .waiting pending => (.waiting pending, transcript)
    { completion, output, use
      journal := journal ++ session.journal.toList
      files := session.files
      sink := session.transmitter.sink }

/-- List the ports. -/
def listPorts (host : Host) (format : OutputFormat) : Outcome :=
  match host.ports with
  | .error error =>
    host.outcome (.failed (.ofPortError "port scan failed" (.enumerate error))) "" []
  | .ok ports =>
    host.outcome (.done ExitStatus.success) (PortEntry.report format (PortEntry.sorted ports))
      [⟨.debug, "serial ports found", [("count", .number ports.length)]⟩]

/-- Survey the capture in a file. -/
def inspect (host : Host) (file : String) (maxPayload : Nat) (format : OutputFormat) : Outcome :=
  match host.files.read file with
  | .error error => host.outcome (.failed (.ofIoError ("failed reading " ++ file) error)) "" []
  | .ok capture =>
    let survey := Survey.ofCapture maxPayload capture
    let status := if survey.isClean then ExitStatus.success else ExitStatus.dataInvalid
    host.outcome (.done status) (survey.report format) []

/-- Carry out a request. -/
def carryOut (host : Host) (request : Request) (format : OutputFormat) : Outcome :=
  match request with
  | .run port profile => host.serve port profile format
  | .ports => host.listPorts format
  | .inspect file maxPayload => host.inspect file maxPayload format
  | .version extended =>
    host.outcome (.done ExitStatus.success) (host.build.report extended) []

end Host

end Provisioning
