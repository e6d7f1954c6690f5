import Provisioning.Program
import Provisioning.Session.Live

/-! # The command line

The outermost layer reads and writes files, ports and the terminal. What is to be written, and what
the program makes of what it reads, is decided elsewhere.
-/

namespace Provisioning.Terminal

def build : Build := ⟨"unknown", "unknown", "unknown", "unknown", "unknown"⟩

/-- An error of the host's system. -/
def errorOf : IO.Error → IoError
  | .noFileOrDirectory .. => FileTree.missing
  | .permissionDenied .. => ⟨.permissionDenied, "Permission denied (os error 13)"⟩
  | .inappropriateType .. => FileTree.isDirectory
  | error => ⟨.other, toString error⟩

/-- An error of opening a port. -/
def portErrorOf : IO.Error → SerialError
  | .noFileOrDirectory .. => Handle.missingPort
  | .permissionDenied .. => ⟨.io .permissionDenied, "Permission denied"⟩
  | error => ⟨.unknown, toString error⟩

/-- The tree with the file that a path leads to, if it can be read. -/
def load (tree : FileTree) (path : String) : IO FileTree := do
  try
    let contents ← IO.FS.readBinFile path
    pure (tree.withFile path contents.data.toList)
  catch error => match error with
    | .inappropriateType .. => pure (tree.withDirectory path)
    | _ => pure tree

/-- The files of a profile: its certificates, and the way to its key log. Whether the log can be
written is found when it is. -/
def loadFiles (profile : Profile) : IO FileTree :=
  (profile.deviceCert.toList ++ profile.ekCertificate.toList).foldlM load
    (FileTree.withWay profile.keyLog {})

/-- The serial adapters of the host. -/
def findPorts : IO (List PortEntry) := do
  let names := (List.range 64).flatMap fun i => [s!"ttyUSB{i}", s!"ttyACM{i}"]
  let found ← names.filterM fun name => do
    try
      let _ ← IO.FS.readFile ("/sys/class/tty/" ++ name ++ "/uevent")
      pure true
    catch _ => pure false
  pure (found.map fun name => .describe ("/dev/" ++ name) .unknown)

/-- How the operator wants output and log. -/
structure Style where
  format : OutputFormat
  logFormat : LogFormat
  logLevel : Level

def timestamp : IO String := do
  let millis ← IO.monoMsNow
  pure (toString millis ++ "ms")

/-- Print what came of a request, and give the program's status. -/
def print (style : Style) (output : String) (journal : List Journal.Record)
    (completion : Completion) : IO UInt32 := do
  IO.eprint (Journal.lines style.logFormat style.logLevel (← timestamp) journal)
  IO.print output
  (← IO.getStdout).flush
  IO.eprint completion.errorLine
  pure (UInt32.ofNat (completion.status?.getD ExitStatus.success))

/-- A line that a device is served on. -/
structure Line where
  reader : IO.FS.Handle
  writer : IO.FS.Handle
  profile : Profile
  pollInterval : Duration

/-- Begin to read a byte. -/
def Line.listen (line : Line) : IO (Task (Except IO.Error ByteArray)) :=
  IO.asTask (line.reader.read 1) .dedicated

/-- Begin to wait for the poll interval. -/
def Line.pause (line : Line) : IO (Task (Except IO.Error Unit)) :=
  IO.asTask (IO.sleep (UInt32.ofNat (line.pollInterval.nanos / 1000000))) .dedicated

/-- Let a session go on, and add to the key log what it has recorded. If that fails, the session
goes on from where it was and is told so. -/
def Line.goOn (line : Line) (step : Session → RunEnd × Session) (session : Session) :
    IO (RunEnd × Session) := do
  let outcome := step session
  let record := session.added outcome.2
  if record.isEmpty then pure outcome
  else
    try
      let log ← IO.FS.Handle.mk line.profile.keyLog .append
      log.write ⟨record.toArray⟩
      log.flush
      pure outcome
    catch error => pure (step (session.refusing (errorOf error)))

/-- Carry out what else a session has done since the last time, and forget about it. -/
def Line.carryOut (line : Line) (style : Style) (session : Session) : IO Session := do
  let _ ← print style (Transcript.text style.format session.events.toList) session.journal.toList
    (.done ExitStatus.success)
  let written := session.transmitter.sink.written
  unless written.isEmpty do
    line.writer.write ⟨written.toArray⟩
    line.writer.flush
  let files ← loadFiles line.profile
  pure { session with
    events := #[], journal := #[], files, transmitter := { session.transmitter with sink := {} } }

/-- Serve a device until the session comes to an end. The session is taken up again when a byte has
been read and when the poll interval is over, whichever comes first. -/
partial def Line.serve (line : Line) (style : Style) (reading : Task (Except IO.Error ByteArray))
    (pause : Task (Except IO.Error Unit)) (ended : RunEnd) (session : Session) : IO UInt32 := do
  let session ← line.carryOut style session
  match ended with
  | .finished tally => print style (tally.report style.format) [] (.done ExitStatus.success)
  | .failed error => print style "" [] (.failed (.ofSessionError "console stopped" error))
  | .waiting pending =>
    let _ ← IO.waitAny [reading.map fun _ => (), pause.map fun _ => ()]
    let now ← IO.monoNanosNow
    if ← IO.hasFinished reading then
      match reading.get with
      | .error error =>
        print style "" [] (.failed (.ofFrameError "console stopped" (.io (errorOf error))))
      | .ok bytes =>
        let (ended, session) ← line.goOn (·.takeUp now (some bytes.data.toList) pending) session
        line.serve style (← line.listen) pause ended session
    else
      let (ended, session) ← line.goOn (·.takeUp now none pending) session
      line.serve style reading (← line.pause) ended session

/-- Serve the device on a port. -/
def run (style : Style) (port : PortSettings) (profile : Profile) : IO UInt32 := do
  let opened ← EIO.toIO' do
    let reader ← IO.FS.Handle.mk port.port .read
    let writer ← IO.FS.Handle.mk port.port .readWrite
    pure (reader, writer)
  let openError := match opened with
    | .ok _ => none
    | .error error => some (portErrorOf error)
  let host : Host := {
    build
    device := some { port := port.port, openError }
    files := ← loadFiles profile
    source := { tail := .unknown, clock := ← IO.monoNanosNow } }
  match host.connect port profile, opened with
  | (.ok session, _, journal), .ok (reader, writer) =>
    let _ ← print style "" journal (.done ExitStatus.success)
    let line : Line := { reader, writer, profile, pollInterval := port.pollInterval }
    let (ended, session) ← line.goOn Session.run session
    try line.serve style (← line.listen) (← line.pause) ended session
    catch error =>
      print style "" [] (.failed (.ofFrameError "console stopped" (.io (errorOf error))))
  | (.error failure, _, journal), _ => print style "" journal (.failed failure)
  | _, .error error => print style "" [] (.failed (.ofIoError "open failed" (errorOf error)))

/-- Carry out an invocation. -/
def carryOut (invocation : Invocation) : IO UInt32 := do
  let terminal ← (← IO.getStdout).isTty
  let style : Style :=
    ⟨invocation.format.getD (.usual terminal), invocation.logFormat, invocation.logLevel⟩
  match invocation.request with
  | .run port profile => run style port profile
  | request =>
    let files ← match request with
      | .inspect file _ => load {} file
      | _ => pure {}
    let host : Host := { build, files, ports := .ok (← findPorts) }
    let outcome := host.carryOut request style.format
    print style outcome.output outcome.journal outcome.completion

end Provisioning.Terminal

open Provisioning in
def main (words : List String) : IO UInt32 := do
  let environment ← Arguments.envVars.filterMapM fun name => do
    pure ((← IO.getEnv name).map fun value => (name, value))
  match Arguments.read environment words with
  | .ok invocation => Terminal.carryOut invocation
  | .error refusal =>
    match refusal with
    | .help => IO.print Arguments.helpText
    | .version => IO.print (Terminal.build.report false)
    | _ => IO.eprintln ("error: " ++ refusal.message)
    pure (UInt32.ofNat refusal.status)
