import PacketPriority.Classify.Json
import PacketPriority.CommandLine.Invocation
import PacketPriority.Settings.Printer
import PacketPriority.Store.Json

/-!
What the program writes.

A report is written as lines of text for a reader, or as a JSON value for a program.
-/

namespace PacketPriority.CommandLine

/-- A request of a rule file that the table has refused. -/
structure Rejection where
  key : RuleKey
  error : UpdateError
deriving DecidableEq, Repr

/-- What is wrong with a rule file: why it cannot be loaded, or which of its entries are refused. -/
structure Validation where
  path : String
  entries : Nat
  /-- The number of rules in the table filled from the file. -/
  live : UInt32
  rejected : List Rejection
  errors : List String
deriving DecidableEq, Repr

def Validation.isValid (v : Validation) : Bool := v.rejected.isEmpty && v.errors.isEmpty

/-- The decision of one way to classify. -/
inductive Decision where
  | pcp (n : UInt8)
  | sawf (d : SawfDecision)
  | priority (d : PriorityDecision)
  | latency (l : Latency)
deriving DecidableEq, Repr

inductive Report where
  | validation (v : Validation)
  | rules (path : String) (rules : List Rule)
  | rule (r : Rule)
  | stats (path : String) (ruleMax : UInt32) (applied rejected : Nat) (stats : Stats)
  | classification (flavor : Flavor) (live : UInt32) (packet : Packet) (decision : Decision)
  | settings (source : String) (settings : Settings)
  | settingsSection (source name : String) (settings : Section)
  /-- Whether a file gives settings that make sense. -/
  | verdict (source : String) (problem : Option String)

/-! ### Text -/

/-- Lines, each with its line break. -/
def lines (ls : List String) : String := String.join (ls.map (· ++ "\n"))

def Rejection.toString (r : Rejection) : String :=
  "  Rejected " ++ r.key.toString ++ ": " ++ r.error.message

/-- Columns of given widths; the last one is not filled up. -/
def columns : List (Nat × String) → String
  | [] => ""
  | [(_, text)] => text
  | (width, text) :: rest => Text.blankPadded width text ++ " " ++ columns rest

/-- A line of the table of rules. -/
def ruleRow (id kind precedence output flags : String) : String :=
  columns [(12, id), (10, kind), (10, precedence), (8, output), (0, flags)]

/-- The flag word that decides which packets a rule matches. -/
def flagsOf (r : Rule) : Flags := if r.kind = .mesh then r.meshFlags else r.flowFlags

/-- A flag word with all its digits. -/
def flagsText (w : Flags) : String := Text.hexTextPadded 8 w.toNat

def rowOf (r : Rule) : String :=
  ruleRow (toString r.id) r.kind.toString (toString r.precedence) (toString r.treatment.output)
    (flagsText (flagsOf r))

/-- The lines for one rule. -/
def ruleLines (r : Rule) : List String :=
  let t := r.treatment
  ["Rule " ++ r.key.toString,
    "  " ++ r.summary,
    "  mesh_flags:       " ++ flagsText r.meshFlags,
    "  sawf_flags:       " ++ flagsText r.flowFlags,
    s!"  dscp_remark:      {t.dscpRemark}",
    s!"  vlan_pcp_remark:  {t.vlanPcpRemark}",
    s!"  service_class_id: {t.serviceClassId}",
    "  mscs_tid_bitmap:  " ++ Text.hexTextPadded 2 t.mscsTidBitmap.toNat,
    s!"  latency:          dl {t.serviceIntervalDl}ms/{t.burstSizeDl}B, "
      ++ s!"ul {t.serviceIntervalUl}ms/{t.burstSizeUl}B"]

/-- The line for a classification without an answer. -/
def noMatch : List String := ["  NO MATCH"]

def Decision.lines : Decision → List String
  | pcp n => [s!"  PCP: {n}"]
  | sawf d =>
    if d.isMatch then
      [s!"  Rule: {d.ruleId}", s!"  Priority: {d.priority}", s!"  DSCP remark: {d.dscpRemark}",
        s!"  VLAN PCP remark: {d.vlanPcpRemark}", s!"  Service class: {d.serviceClassId}"]
    else noMatch
  | priority d =>
    if d.isMatch then [s!"  Rule: {d.ruleId}", s!"  Priority: {d.priority}"] else noMatch
  | latency l =>
    if l.isZero then noMatch
    else
      [s!"  Downlink: interval {l.serviceIntervalDl} ms, burst {l.burstSizeDl} bytes",
        s!"  Uplink:   interval {l.serviceIntervalUl} ms, burst {l.burstSizeUl} bytes"]

namespace Report

/-- The text of a report. -/
def text : Report → String
  | validation v =>
    lines <|
      ["Rule Validation: " ++ v.path,
        "  Result: " ++ (if v.isValid then "VALID" else "INVALID"),
        s!"  Entries: {v.entries}, live rules: {v.live}, rejected: {v.rejected.length}"]
        ++ v.rejected.map Rejection.toString ++ v.errors.map ("  Error: " ++ ·)
  | rules path rs =>
    lines <|
      [s!"Rules in {path} ({rs.length} total)", "",
        ruleRow "ID" "Type" "Precedence" "Output" "Flags", "".pushn '-' 60] ++ rs.map rowOf
  | rule r => lines (ruleLines r)
  | stats path ruleMax _ rejected s =>
    lines <|
      ["Rule Table: " ++ path,
        s!"  Rules: {s.rules}/{ruleMax} ({s.occupiedBuckets} buckets occupied)"]
        ++ s.perKind.map (fun e => "    " ++ columns [(10, e.1.toString), (0, toString e.2)])
        ++ (if rejected = 0 then [] else [s!"  Rejected while loading: {rejected}"])
  | classification flavor live packet decision =>
    lines <|
      [s!"Classify ({flavor.toString}) against {live} rules", "  Packet: " ++ packet.toString]
        ++ decision.lines
  | settings source s => lines ["# effective configuration from " ++ source] ++ s.toToml
  | settingsSection source name s =>
    lines ["# effective configuration from " ++ source, "[" ++ name ++ "]"] ++ s.toToml
  | verdict source none => lines ["ok " ++ source]
  | verdict source (some problem) => lines ["invalid " ++ source, "  " ++ problem]

end Report

/-! ### JSON -/

def Rejection.toJson (r : Rejection) : Json :=
  .object [("rule", .string r.key.toString), ("error", .string r.error.message)]

def Decision.toJson : Decision → Json
  | pcp n => .object [("pcp", .word n)]
  | sawf d => d.toJson
  | priority d => d.toJson
  | latency l => l.toJson

namespace Report

def toJson : Report → Json
  | validation v =>
    .object [
      ("path", .string v.path), ("valid", .bool v.isValid), ("entries", .nat v.entries),
      ("rules", .word v.live), ("rejected", .array (v.rejected.map Rejection.toJson)),
      ("errors", .strings v.errors)]
  | rules path rs =>
    .object [
      ("path", .string path), ("total", .nat rs.length), ("rules", .array (rs.map Rule.toJson))]
  | rule r => .object [("rule", r.toJson)]
  | stats path ruleMax applied rejected s =>
    .object [
      ("path", .string path), ("rule_max", .word ruleMax), ("applied", .nat applied),
      ("rejected", .nat rejected), ("stats", s.toJson)]
  | classification flavor live packet decision =>
    .object [
      ("flavor", .string flavor.toString), ("rules", .word live), ("packet", packet.toJson),
      ("decision", decision.toJson)]
  | settings source s => .object [("source", .string source), ("settings", s.toJson)]
  | settingsSection source name s =>
    .object [("source", .string source), ("section", .string name), ("settings", s.toJson)]
  | verdict source none => .object [("source", .string source), ("valid", .bool true)]
  | verdict source (some problem) =>
    .object [("source", .string source), ("valid", .bool false), ("problem", .string problem)]

/-- A report in a format. -/
def write (r : Report) : Format → String
  | .text => r.text
  | .json => r.toJson.render ++ "\n"

end Report

end PacketPriority.CommandLine
