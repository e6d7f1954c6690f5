import Provisioning.Session

/-! # Answering the device

Five commands ask for bytes. What they are answered with depends on the profile and, for the
certificates, on the files as they are at that moment: `Command.answer`. A bare answer is written as
it is, a payload in a frame. What cannot be answered is abandoned and the session goes on; only a
failing line ends it.
-/

namespace Provisioning

/-- What a command asks the host to write. -/
inductive Answer where
  /-- Nothing. -/
  | silence
  /-- These bytes as they are. -/
  | raw (bytes : Bytes)
  /-- This payload, in a frame, read from a file if one is named. -/
  | framed (payload : Bytes) (file : Option String)
  /-- The host has nothing to answer with. -/
  | unavailable (reason : String)
  deriving DecidableEq, Repr

/-- A certificate is the whole of the file that is configured for it. -/
def Answer.ofFile (files : FileTree) : Option String → Answer
  | none => .unavailable "no certificate file configured"
  | some path => match files.read path with
    | .ok payload => .framed payload (some path)
    | .error error => .unavailable ("failed reading " ++ path ++ ": " ++ error.text)

/-- What a command is answered with. -/
def Command.answer (profile : Profile) (files : FileTree) : Command → Answer
  | requestMac => .raw (Profile.macBlock profile.mac0 profile.mac1)
  | hostCheck => .raw (Bytes.ofWord profile.hostToken)
  | deviceCert => .ofFile files profile.deviceCert
  | ekCertificate => .ofFile files profile.ekCertificateFile
  | smbiosSerial => .framed profile.serialNumber none
  | ekCert | ekPublic | success | failure _ => .silence

namespace Session

/-- A command was answered with so many bytes. -/
def served (command : Command) (size : Nat) (session : Session) : Session :=
  session
    |>.note .info "answered device" [("command", .quoted command.literal), ("size", .number size)]
    |>.count (fun tally => { tally with served := tally.served + 1 })
    |>.deliver (.served command size)

/-- Write bytes as they are. -/
def answerRaw (command : Command) (bytes : Bytes) (session : Session) :
    Except SessionError Unit × Session :=
  let session := session.note .trace "sending raw bytes" [("size", .number bytes.length)]
  match session.transmitter.sendRaw bytes with
  | (.ok (), transmitter) => (.ok (), { session with transmitter }.served command bytes.length)
  | (.error error, transmitter) => (.error (.frame error), { session with transmitter })

/-- Write a payload in a frame. One that is too large is abandoned. -/
def answerFramed (command : Command) (payload : Bytes) (session : Session) :
    Except SessionError Unit × Session :=
  let size := frameOverhead + payload.length
  match session.transmitter.send payload with
  | (.error (.oversized size max), transmitter) =>
    (.ok (), { session with transmitter }.abandon command (FrameError.oversized size max).message)
  | (result, transmitter) =>
    let session := { session with transmitter }.note .trace "sending frame"
      [("size", .number payload.length), ("wire", .number size)]
    match result with
    | .ok () => (.ok (), session.served command size)
    | .error error => (.error (.frame error), session)

/-- Write what a command asks for. -/
def respond (command : Command) (answer : Answer) (session : Session) :
    Except SessionError Unit × Session :=
  match answer with
  | .silence => (.ok (), session)
  | .unavailable reason => (.ok (), session.abandon command reason)
  | .raw bytes => session.answerRaw command bytes
  | .framed payload none => session.answerFramed command payload
  | .framed payload (some path) =>
    session
      |>.note .debug "sending file" [("path", .plain path), ("size", .number payload.length)]
      |>.answerFramed command payload

@[simp] theorem weight_served (command : Command) (size : Nat) (session : Session) :
    (session.served command size).weight = session.weight := by
  simp [served]

theorem weight_answerRaw (command : Command) (bytes : Bytes) (session : Session) :
    (session.answerRaw command bytes).2.weight = session.weight := by
  simp only [answerRaw]
  split
  · rw [weight_served]
    rfl
  · rfl

theorem weight_answerFramed (command : Command) (payload : Bytes) (session : Session) :
    (session.answerFramed command payload).2.weight = session.weight := by
  simp only [answerFramed]
  split
  · rw [weight_abandon]
    rfl
  · split
    · rw [weight_served, weight_note]
      rfl
    · rfl

theorem weight_respond (command : Command) (answer : Answer) (session : Session) :
    (session.respond command answer).2.weight = session.weight := by
  cases answer with
  | silence => rfl
  | raw bytes => exact weight_answerRaw command bytes session
  | unavailable reason => exact weight_abandon command reason session
  | framed payload file => cases file <;> simp [respond, weight_answerFramed]

end Session

end Provisioning
