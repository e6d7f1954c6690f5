import Provisioning.Proofs.Base64.Records
import Provisioning.Proofs.Json.Reading
import Provisioning.Proofs.Transcript.Limit

/-! # What a transcript tells

A transcript in JSON holds one line for each event, and each line is an object. Which kind of event
it is stands under `event`, and the fields beside it are those of this kind and no others. So a
reader who knows these names (`Event.ofFields?`), but not in which order they are written, gets back
every event that was written and nothing else, whatever texts the events hold
(`emitAll_recoverable`).
-/

namespace Provisioning

/-! ## Reading one event -/

namespace KeyPart

def ofTag? (tag : String) : Option KeyPart := [certificate, publicKey].find? (·.tag = tag)

private theorem ofTag?_tag (part : KeyPart) : ofTag? part.tag = some part := by
  cases part <;> decide

end KeyPart

namespace FailedStep

def ofLiteral? (literal : String) : Option FailedStep := all.find? (·.literal = literal)

private theorem ofLiteral?_literal (step : FailedStep) : ofLiteral? step.literal = some step := by
  cases step <;> decide

end FailedStep

namespace Event

/-- The word of a number that is one. -/
def wordOf? (value : Nat) : Option UInt32 :=
  if value < UInt32.size then some (UInt32.ofNat value) else none

private theorem wordOf?_toNat (word : UInt32) : wordOf? word.toNat = some word := by
  rw [wordOf?, if_pos word.toNat_lt, UInt32.ofNat_toNat]

/-- The text that an object has under a name. -/
def textOf? (fields : List (String × Json)) (name : String) : Option String :=
  match fields.lookup name with
  | some (.text value) => some value
  | _ => none

/-- The number that an object has under a name. -/
def numberOf? (fields : List (String × Json)) (name : String) : Option Nat :=
  match fields.lookup name with
  | some (.number value) => some value
  | _ => none

/-- The event that an object with these fields stands for. -/
def ofFields? (fields : List (String × Json)) : Option Event := do
  let has (names : List String) : Option Unit := guard ((fields.map Prod.fst).Perm names)
  match ← textOf? fields "event" with
  | "echo" =>
    has ["event", "line"]
    return echo (← textOf? fields "line")
  | "undecodable" =>
    has ["event", "size"]
    return undecodable (← numberOf? fields "size")
  | "served" =>
    has ["event", "command", "size"]
    let command ← Command.ofLine? (← textOf? fields "command")
    return served command (← numberOf? fields "size")
  | "key_material" =>
    has ["event", "kind", "size", "base64"]
    let part ← KeyPart.ofTag? (← textOf? fields "kind")
    return keyMaterial part (← numberOf? fields "size") (← textOf? fields "base64")
  | "provisioned" =>
    has ["event", "message"]
    return provisioned (← textOf? fields "message")
  | "device_failure" =>
    has ["event", "failure", "message"]
    let step ← FailedStep.ofLiteral? (← textOf? fields "failure")
    guard (textOf? fields "message" = some step.message)
    return deviceFailure step
  | "checksum_mismatch" =>
    has ["event", "kind", "message", "declared", "computed"]
    let part ← KeyPart.ofTag? (← textOf? fields "kind")
    guard (textOf? fields "message" = some part.mismatchMessage)
    let declared ← wordOf? (← numberOf? fields "declared")
    let computed ← wordOf? (← numberOf? fields "computed")
    return checksumMismatch part declared computed
  | "exchange_abandoned" =>
    has ["event", "command", "reason"]
    let command ← Command.ofLine? (← textOf? fields "command")
    return abandoned command (← textOf? fields "reason")
  | _ => none

def ofJson? : Json → Option Event
  | .object fields => ofFields? fields
  | _ => none

/-- The event that a line stands for. -/
def ofLine? (line : List Char) : Option Event := (Json.read? line).bind ofJson?

theorem ofJson?_json (event : Event) : ofJson? event.json = some event := by
  have command (command : Command) : Command.ofLine? command.literal = some command :=
    Command.ofLine?_eq_some_iff.mpr rfl
  cases event <;>
    simp [ofJson?, json, ofFields?, textOf?, numberOf?, List.lookup_cons, guard, command,
      KeyPart.ofTag?_tag, FailedStep.ofLiteral?_literal, wordOf?_toNat]

private theorem ofLine?_chars (event : Event) : ofLine? event.json.chars = some event := by
  rw [ofLine?, Json.read?_chars, Option.bind_some, ofJson?_json]

end Event

/-! ## Reading a transcript -/

namespace Transcript

open Base64 (splitLines splitLines_flatMap)

private theorem toList_text_json (events : List Event) :
    (text .json events).toList = (events.map (·.json.chars)).flatMap (· ++ ['\n']) := by
  have one (event : Event) : (event.text .json).toList = event.json.chars ++ ['\n'] := by
    simp [Event.text, Event.pieces, Json.render]
  simp only [text, String.toList_join, List.flatMap_map, one]

private theorem splitLines_text (events : List Event) :
    splitLines (text .json events).toList = events.map (·.json.chars) := by
  have plain : ∀ line ∈ events.map (·.json.chars), '\n' ∉ line := by
    intro line member
    obtain ⟨event, _, rfl⟩ := List.mem_map.mp member
    exact Json.lineFeed_notMem_chars event.json
  have lines := splitLines_flatMap plain []
  rw [List.append_nil] at lines
  rw [toList_text_json, lines, splitLines, List.append_nil]

private theorem count_text (events : List Event) :
    (text .json events).toList.count '\n' = events.length := by
  rw [toList_text_json]
  induction events with
  | nil => rfl
  | cons event events ih =>
    have none := List.count_eq_zero.mpr (Json.lineFeed_notMem_chars event.json)
    rw [List.map_cons, List.flatMap_cons, List.count_append, List.count_append, none, ih,
      List.length_cons, List.count_singleton_self]
    omega

/-- A transcript in JSON is text of as many lines as there were events. Each line is the object of
its event, and the event is read from it. So two transcripts are the same only if the events are. -/
theorem emitAll_recoverable :
    (∀ events, ∃ text, Bytes.text? (emitAll .json events {}).accepted = some text ∧
      text.toList.count '\n' = events.length ∧
      (splitLines text.toList).map Json.read? = events.map (fun event => some event.json) ∧
      (splitLines text.toList).map Event.ofLine? = events.map some) ∧
    ∀ first second, (emitAll .json first {}).accepted = (emitAll .json second {}).accepted ↔
      first = second := by
  have read (events : List Event) :
      (splitLines (text .json events).toList).map Event.ofLine? = events.map some := by
    rw [splitLines_text, List.map_map]
    exact List.map_congr_left fun event _ => Event.ofLine?_chars event
  refine ⟨fun events => ⟨text .json events, ?_, count_text events, ?_, read events⟩, ?_⟩
  · rw [accepted_emitAll, Bytes.text?_ofText]
  · rw [splitLines_text, List.map_map]
    exact List.map_congr_left fun event _ => Json.read?_chars event.json
  · refine fun first second => ⟨fun same => ?_, fun same => same ▸ rfl⟩
    rw [accepted_emitAll, accepted_emitAll] at same
    have lines := read first
    rw [Bytes.ofText_injective same, read second] at lines
    exact (List.map_injective_iff.mpr (Option.some_injective Event) lines).symm

end Transcript

end Provisioning
