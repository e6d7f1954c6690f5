import Provisioning.Proofs.Link.Stream
import Provisioning.Proofs.Link.Willing
import Provisioning.Session.Run

/-! # What a stream of bytes means to a session

This is a session as one would tell it to the maker of a device, without buffers, reads or time. The
stream is taken apart into messages from the front: a line is what stands before a line feed, and
behind a line that announces key material comes a frame. What is left at the end without its line
feed, or is not the whole of an announced frame, means nothing more.

Each message changes a `Ledger`: the host's files, the counters, what the operator has been told and
what has been written to the device. The meaning of a stream is what its messages, one after the
other, make of the ledger.
-/

namespace Provisioning

/-- What a device says in one go. -/
inductive Message where
  /-- A line of so many bytes that is not text. -/
  | garbled (size : Nat)
  /-- A line that announces no key material. -/
  | line (text : String)
  /-- Key material, announced and sent. -/
  | material (part : KeyPart) (frame : Frame)
  /-- Key material, announced and of a length above the limit. -/
  | oversized (part : KeyPart) (size : Nat)
  /-- Key material, announced and not sent in full before the end of the stream. -/
  | unfinished (part : KeyPart)
  deriving DecidableEq, Repr

/-- The first message of a stream, and what follows it. -/
def firstMessage? (maxPayload : Nat) (stream : Bytes) : Option (Message × Bytes) :=
  match firstLine? stream with
  | none => none
  | some (line, rest) => match Bytes.text? line with
    | none => some (.garbled line.length, rest)
    | some text => match KeyPart.announcedBy? text with
      | none => some (.line text, rest)
      | some part => match Frame.decode maxPayload rest with
        | .incomplete => some (.unfinished part, [])
        | .oversized size behind => some (.oversized part size, behind)
        | .frame frame behind => some (.material part frame, behind)

section Announced

variable {maxPayload : Nat} {stream line rest behind : Bytes} {text : String} {part : KeyPart}
  (first : firstLine? stream = some (line, rest)) (decoded : Bytes.text? line = some text)
  (announced : KeyPart.announcedBy? text = some part)

include first decoded announced

theorem firstMessage?_of_frame {frame : Frame}
    (found : Frame.decode maxPayload rest = .frame frame behind) :
    firstMessage? maxPayload stream = some (.material part frame, behind) := by
  simp only [firstMessage?, first, decoded, announced, found]

theorem firstMessage?_of_oversized {size : Nat}
    (found : Frame.decode maxPayload rest = .oversized size behind) :
    firstMessage? maxPayload stream = some (.oversized part size, behind) := by
  simp only [firstMessage?, first, decoded, announced, found]

theorem firstMessage?_of_incomplete (found : Frame.decode maxPayload rest = .incomplete) :
    firstMessage? maxPayload stream = some (.unfinished part, []) := by
  simp only [firstMessage?, first, decoded, announced, found]

end Announced

private theorem firstMessage?_length_lt {maxPayload : Nat} {stream rest : Bytes} {message : Message}
    (found : firstMessage? maxPayload stream = some (message, rest)) :
    rest.length < stream.length := by
  unfold firstMessage? at found
  split at found
  · cases found
  · rename_i line behind first
    have shorter := firstLine?_length_lt first
    split at found
    · cases found
      exact shorter
    · split at found
      · cases found
        exact shorter
      · split at found
        · cases found
          exact Nat.zero_lt_of_lt shorter
        · rename_i decoded
          cases found
          have := congrArg List.length (Frame.decode_eq_oversized_iff.mp decoded).2.2
          rw [List.length_append] at this
          omega
        · rename_i decoded
          cases found
          have := congrArg List.length (Frame.decode_eq_frame_iff.mp decoded).2.2
          rw [List.length_append] at this
          omega

/-- The messages of a stream. -/
def messages (maxPayload : Nat) (stream : Bytes) : List Message :=
  match found : firstMessage? maxPayload stream with
  | none => []
  | some (message, rest) =>
    have := firstMessage?_length_lt found
    message :: messages maxPayload rest
termination_by stream.length

theorem messages_of_none {maxPayload : Nat} {stream : Bytes}
    (found : firstMessage? maxPayload stream = none) : messages maxPayload stream = [] := by
  rw [messages]
  split
  · rfl
  · rename_i other
    rw [found] at other
    cases other

theorem messages_of_some {maxPayload : Nat} {stream rest : Bytes} {message : Message}
    (found : firstMessage? maxPayload stream = some (message, rest)) :
    messages maxPayload stream = message :: messages maxPayload rest := by
  rw [messages]
  split
  · rename_i other
    rw [found] at other
    cases other
  · rename_i other
    rw [found] at other
    cases other
    rfl

theorem messages_nil (maxPayload : Nat) : messages maxPayload [] = [] := messages_of_none rfl

/-- Wherever a line is expected in the stream, less than a full piece of text comes before the next
line feed or the end. -/
inductive ShortLines (maxPayload : Nat) : Bytes → Prop where
  | last {stream : Bytes} (short : firstRun stream < maxLineLength)
      (none : firstMessage? maxPayload stream = none) : ShortLines maxPayload stream
  | next {stream rest : Bytes} {message : Message} (short : firstRun stream < maxLineLength)
      (found : firstMessage? maxPayload stream = some (message, rest))
      (later : ShortLines maxPayload rest) : ShortLines maxPayload stream

theorem ShortLines.short {maxPayload : Nat} {stream : Bytes}
    (lines : ShortLines maxPayload stream) : firstRun stream < maxLineLength := by
  cases lines with
  | last short none => exact short
  | next short found later => exact short

theorem ShortLines.rest {maxPayload : Nat} {stream rest : Bytes} {message : Message}
    (lines : ShortLines maxPayload stream)
    (found : firstMessage? maxPayload stream = some (message, rest)) :
    ShortLines maxPayload rest := by
  cases lines with
  | last short none =>
    rw [found] at none
    cases none
  | next short other later =>
    rw [found] at other
    cases other
    exact later

/-- A stream that is itself shorter than a full piece has only short lines. -/
theorem ShortLines.of_length_lt (maxPayload : Nat) {stream : Bytes}
    (short : stream.length < maxLineLength) : ShortLines maxPayload stream := by
  have run : firstRun stream < maxLineLength :=
    Nat.lt_of_le_of_lt (List.takeWhile_prefix _).length_le short
  cases found : firstMessage? maxPayload stream with
  | none => exact .last run found
  | some first =>
    have shorter := firstMessage?_length_lt found
    exact .next run found (of_length_lt maxPayload (Nat.lt_trans shorter short))
termination_by stream.length

/-! ## Ledgers -/

/-- What a session has brought about. -/
structure Ledger where
  files : FileTree
  tally : Tally := {}
  /-- What the operator has been told. -/
  events : List Event := []
  /-- What has been written to the device. -/
  written : Bytes := []

namespace Ledger

variable (profile : Profile) (ledger : Ledger)

/-- The operator is told. -/
def tell (event : Event) : Ledger := { ledger with events := ledger.events ++ [event] }

/-- A counter changes. -/
def count (change : Tally → Tally) : Ledger := { ledger with tally := change ledger.tally }

/-- The device is written to. -/
def write (bytes : Bytes) : Ledger := { ledger with written := ledger.written ++ bytes }

/-- A command has been answered. -/
def serve (command : Command) (bytes : Bytes) : Ledger :=
  ledger.write bytes
    |>.count (fun tally => { tally with served := tally.served + 1 })
    |>.tell (.served command bytes.length)

/-- A command could not be carried out. -/
def abandon (command : Command) (reason : String) : Ledger :=
  ledger.count (fun tally => { tally with abandoned := tally.abandoned + 1 })
    |>.tell (.abandoned command reason)

/-- A command asks for an answer. -/
def respond (command : Command) : Answer → Ledger
  | .silence => ledger
  | .unavailable reason => ledger.abandon command reason
  | .raw bytes => ledger.serve command bytes
  | .framed payload _ => match Frame.encodeWithin profile.maxPayload payload with
    | .ok wire => ledger.serve command wire
    | .error error => ledger.abandon command error.message

/-- A command that announces no key material is obeyed. -/
def obey (command : Command) : Ledger :=
  match command with
  | .success =>
    ledger.count (fun tally => { tally with provisioned := true })
      |>.tell (.provisioned successMessage)
  | .failure step =>
    ledger.count (fun tally => { tally with deviceFailures := tally.deviceFailures + 1 })
      |>.tell (.deviceFailure step)
  | command => ledger.respond profile command (command.answer profile ledger.files)

/-- A line that announces no key material is taken up. -/
def takeUp (line : String) : Ledger :=
  match Command.ofLine? line with
  | none =>
    ledger.count (fun tally => { tally with echoed := tally.echoed + 1 }) |>.tell (.echo line)
  | some command =>
    ledger.count (fun tally => { tally with commands := tally.commands + 1 })
      |>.obey profile command

/-- Key material has arrived. It is recorded if its bytes have the sum that was declared. -/
def receive (part : KeyPart) (frame : Frame) : Ledger :=
  if frame.declared = checksum frame.payload then
    let material := part.select profile.certRange frame.payload
    let record := Base64.mime material
    let told := ledger.tell (.keyMaterial part material.length record)
    match ledger.files.append profile.keyLog (Bytes.ofText record) with
    | .ok files =>
      { told with files }.count fun tally => { tally with keyRecords := tally.keyRecords + 1 }
    | .error error =>
      { told with files := ledger.files.tried }.abandon part.command
        (SessionError.keyLog profile.keyLog error).message
  else
    ledger.count (fun tally => { tally with checksumMismatches := tally.checksumMismatches + 1 })
      |>.tell (.checksumMismatch part frame.declared (checksum frame.payload))

/-- A line of text has been read. -/
def lineRead : Ledger := ledger.count fun tally => { tally with lines := tally.lines + 1 }

/-- A line that announces key material has been taken up. -/
def announced : Ledger :=
  ledger.lineRead.count fun tally => { tally with commands := tally.commands + 1 }

/-- What a message makes of the ledger. -/
def take : Message → Ledger
  | .garbled size =>
    ledger.count (fun tally => { tally with undecodable := tally.undecodable + 1 })
      |>.tell (.undecodable size)
  | .line text => ledger.lineRead.takeUp profile text
  | .material part frame => ledger.announced.receive profile part frame
  | .oversized part size =>
    ledger.announced.abandon part.command (FrameError.oversized size profile.maxPayload).message
  | .unfinished _ => ledger.announced

/-- What a stream makes of the ledger. -/
def meaning (stream : Bytes) : Ledger :=
  (messages profile.maxPayload stream).foldl (take profile) ledger

end Ledger

end Provisioning
