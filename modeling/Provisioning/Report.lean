import Provisioning.Capture
import Provisioning.Link.Port
import Provisioning.Table
import Provisioning.Tally
import Provisioning.Transcript

/-! # What the commands print

Counters, ports and surveys are printed as JSON on one line, as a table, or in plain lines.
-/

namespace Provisioning

namespace Tally

def table (tally : Tally) : Table where
  heading := ["LINES", "SERVED", "KEYS", "FAILURES", "BAD SUMS", "PROVISIONED"]
  rows := [[toString tally.lines, toString tally.served, toString tally.keyRecords,
    toString tally.deviceFailures, toString tally.checksumMismatches, toString tally.provisioned]]

def sentence (tally : Tally) : String :=
  s!"lines={tally.lines} served={tally.served} keys={tally.keyRecords} " ++
    s!"failures={tally.deviceFailures} bad_checksums={tally.checksumMismatches} " ++
      s!"abandoned={tally.abandoned} provisioned={tally.provisioned}\n"

def report (format : OutputFormat) (tally : Tally) : String :=
  match format with
  | .json => (Json.object (("event", .text "summary") :: tally.fields)).render ++ "\n"
  | .table => tally.table.text
  | .pretty => tally.sentence

end Tally

namespace PortEntry

def json (port : PortEntry) : Json :=
  .object [("name", .text port.name), ("kind", .text port.kind),
    ("product", .ofOption .text port.product)]

def row (port : PortEntry) : List String := [port.name, port.kind, port.product.getD ""]

def line (port : PortEntry) : String :=
  match port.product with
  | some product => port.name ++ " (" ++ port.kind ++ ", " ++ product ++ ")\n"
  | none => port.name ++ " (" ++ port.kind ++ ")\n"

def report (format : OutputFormat) (ports : List PortEntry) : String :=
  match format with
  | .json => (Json.list (ports.map json)).render ++ "\n"
  | .table => Table.text ⟨["PORT", "KIND", "PRODUCT"], ports.map row⟩
  | .pretty =>
    if ports.isEmpty then "no serial ports found\n" else String.join (ports.map line)

end PortEntry

namespace SurveyedFrame

def json (found : SurveyedFrame) : Json :=
  .object [("index", .number found.index), ("offset", .number found.offset),
    ("length", .number found.frame.payload.length),
    ("declared_checksum", .number found.frame.declared.toNat),
    ("computed_checksum", .number found.frame.computed.toNat),
    ("verified", .bool found.frame.verified)]

def row (found : SurveyedFrame) : List String :=
  [toString found.index, toString found.offset, toString found.frame.payload.length,
    Text.hexWord found.frame.declared, Text.hexWord found.frame.computed,
    toString found.frame.verified]

def line (found : SurveyedFrame) : String :=
  s!"frame {found.index} offset={found.offset} length={found.frame.payload.length} " ++
    "declared=" ++ Text.hexWord found.frame.declared ++
    " computed=" ++ Text.hexWord found.frame.computed ++
    s!" verified={found.frame.verified}\n"

end SurveyedFrame

namespace Survey

def json (survey : Survey) : Json :=
  .object [("frames", .list (survey.frames.map SurveyedFrame.json)),
    ("trailing_bytes", .number survey.trailing), ("error", .ofOption .text survey.faultMessage?)]

/-- What is said below the frames. -/
def remarks (survey : Survey) : String :=
  (if survey.trailing = 0 then "" else s!"trailing bytes: {survey.trailing}\n") ++
    match survey.faultMessage? with
    | none => ""
    | some message => "error: " ++ message ++ "\n"

def report (format : OutputFormat) (survey : Survey) : String :=
  match format with
  | .json => survey.json.render ++ "\n"
  | .table =>
    Table.text ⟨["#", "OFFSET", "LENGTH", "DECLARED", "COMPUTED", "VERIFIED"],
      survey.frames.map SurveyedFrame.row⟩ ++ survey.remarks
  | .pretty => String.join (survey.frames.map SurveyedFrame.line) ++ survey.remarks

end Survey

end Provisioning
