import PacketPriority.Rule.Request
import PacketPriority.Toml.Decode

/-!
Entries of a rule file.

An entry holds the values that a file gives for one rule, as they are given; a value that is not
given is absent. `Entry.decode` reads an entry from a TOML value and refuses keys that name no
field. Whether the values make sense together is decided when the entry is turned into a request.
-/

namespace PacketPriority

/-! ### Names of mesh fields -/

namespace MeshField

/-- The name of a field in rule files. -/
def name : MeshField → String
  | userPriority => "user_priority"
  | srcMac => "src_mac"
  | dstMac => "dst_mac"
  | vlanId => "vlan_id"
  | srcIpv4 => "src_ipv4"
  | dstIpv4 => "dst_ipv4"
  | srcPort => "src_port"
  | dstPort => "dst_port"
  | protocol => "protocol"
  | dscp => "dscp"

/-- Whether a text names a field. -/
def isName (s : String) : Bool := all.any fun f => f.name == s

end MeshField

namespace RuleFile

/-- The two commands an entry can give. -/
inductive EntryCommand where
  | add
  | delete
deriving DecidableEq, Repr, Inhabited

def EntryCommand.ofName? : String → Option EntryCommand
  | "add" => some add
  | "delete" => some delete
  | _ => none

/-- One entry of a rule file. -/
structure Entry where
  id : UInt32
  kind : RuleKind := .sawf
  command : EntryCommand := .add
  precedence : UInt8 := 0
  output : UInt8 := 0
  ipVersion : Option UInt8 := none
  srcMac : Option Mac := none
  dstMac : Option Mac := none
  srcIpv4 : Option Ipv4 := none
  srcIpv4Mask : Option Ipv4 := none
  dstIpv4 : Option Ipv4 := none
  dstIpv4Mask : Option Ipv4 := none
  srcIpv6 : Option Ipv6 := none
  srcIpv6Mask : Option Ipv6 := none
  dstIpv6 : Option Ipv6 := none
  dstIpv6Mask : Option Ipv6 := none
  srcPort : Option UInt16 := none
  dstPort : Option UInt16 := none
  srcPortRange : Option (List UInt16) := none
  dstPortRange : Option (List UInt16) := none
  protocol : Option UInt8 := none
  dscp : Option UInt8 := none
  vlanId : Option UInt16 := none
  vlanPcp : Option UInt8 := none
  spi : Option UInt32 := none
  spiMask : Option UInt32 := none
  ifindex : Option UInt32 := none
  userPriority : Option UInt8 := none
  alwaysTrue : Bool := false
  /-- The names of the mesh fields whose comparison is inverted. -/
  sense : List String := []
  dscpRemark : Option UInt8 := none
  vlanPcpRemark : Option UInt8 := none
  serviceClassId : Option UInt8 := none
  mscsTidBitmap : Option UInt8 := none
  priorityLimit : Option UInt8 := none
  latency : Option (UInt8 × UInt32 × UInt8 × UInt32) := none
deriving DecidableEq, Repr

namespace Entry

def key (e : Entry) : RuleKey := ⟨e.id, e.kind⟩

/-! ### Decoding -/

/-- The fields of an entry, under the names they have in a file. -/
def shape : Toml.Shape where
  names := ["id", "type", "command", "precedence", "output", "ip_version_type", "src_mac",
    "dst_mac", "src_ipv4", "src_ipv4_mask", "dst_ipv4", "dst_ipv4_mask", "src_ipv6",
    "src_ipv6_mask", "dst_ipv6", "dst_ipv6_mask", "src_port", "dst_port", "src_port_range",
    "dst_port_range", "protocol", "dscp", "vlan_id", "vlan_pcp", "spi", "spi_mask", "ifindex",
    "user_priority", "always_true", "sense", "dscp_remark", "vlan_pcp_remark",
    "service_class_id", "mscs_tid_bitmap", "priority_limit", "latency"]
  open_ := false
  short := false

def latencyShape : Toml.Shape where
  names := ["service_interval_dl", "burst_size_dl", "service_interval_ul", "burst_size_ul"]
  open_ := false
  short := false

def decodeLatency : Toml.Decoder (UInt8 × UInt32 × UInt8 × UInt32) := fun v => do
  let fields ← latencyShape.fields v
  let intervalDl ← fields.need "service_interval_dl" Toml.Value.asWord
  let burstDl ← fields.need "burst_size_dl" Toml.Value.asWord
  let intervalUl ← fields.need "service_interval_ul" Toml.Value.asWord
  let burstUl ← fields.need "burst_size_ul" Toml.Value.asWord
  return (intervalDl, burstDl, intervalUl, burstUl)

/-- The entry that a value of a rule file's array is. -/
def decode : Toml.Decoder Entry := fun v => do
  let fields ← shape.fields v
  let id ← fields.need "id" Toml.Value.asWord
  let kind ← fields.getD "type" (Toml.Value.asMember RuleKind.ofName?) .sawf
  let command ← fields.getD "command" (Toml.Value.asMember EntryCommand.ofName?) .add
  let precedence ← fields.getD "precedence" Toml.Value.asWord 0
  let output ← fields.getD "output" Toml.Value.asWord 0
  let ipVersion ← fields.get? "ip_version_type" Toml.Value.asWord
  let srcMac ← fields.get? "src_mac" (Toml.Value.asText Mac.ofString?)
  let dstMac ← fields.get? "dst_mac" (Toml.Value.asText Mac.ofString?)
  let srcIpv4 ← fields.get? "src_ipv4" (Toml.Value.asText Ipv4.ofString?)
  let srcIpv4Mask ← fields.get? "src_ipv4_mask" (Toml.Value.asText Ipv4.ofString?)
  let dstIpv4 ← fields.get? "dst_ipv4" (Toml.Value.asText Ipv4.ofString?)
  let dstIpv4Mask ← fields.get? "dst_ipv4_mask" (Toml.Value.asText Ipv4.ofString?)
  let srcIpv6 ← fields.get? "src_ipv6" (Toml.Value.asText Ipv6.ofString?)
  let srcIpv6Mask ← fields.get? "src_ipv6_mask" (Toml.Value.asText Ipv6.ofString?)
  let dstIpv6 ← fields.get? "dst_ipv6" (Toml.Value.asText Ipv6.ofString?)
  let dstIpv6Mask ← fields.get? "dst_ipv6_mask" (Toml.Value.asText Ipv6.ofString?)
  let srcPort ← fields.get? "src_port" Toml.Value.asWord
  let dstPort ← fields.get? "dst_port" Toml.Value.asWord
  let srcPortRange ← fields.get? "src_port_range" (Toml.Value.asList Toml.Value.asWord)
  let dstPortRange ← fields.get? "dst_port_range" (Toml.Value.asList Toml.Value.asWord)
  let protocol ← fields.get? "protocol" Toml.Value.asWord
  let dscp ← fields.get? "dscp" Toml.Value.asWord
  let vlanId ← fields.get? "vlan_id" Toml.Value.asWord
  let vlanPcp ← fields.get? "vlan_pcp" Toml.Value.asWord
  let spi ← fields.get? "spi" Toml.Value.asWord
  let spiMask ← fields.get? "spi_mask" Toml.Value.asWord
  let ifindex ← fields.get? "ifindex" Toml.Value.asWord
  let userPriority ← fields.get? "user_priority" Toml.Value.asWord
  let alwaysTrue ← fields.getD "always_true" Toml.Value.asBoolean false
  let sense ← fields.getD "sense" (Toml.Value.asList Toml.Value.asString) []
  let dscpRemark ← fields.get? "dscp_remark" Toml.Value.asWord
  let vlanPcpRemark ← fields.get? "vlan_pcp_remark" Toml.Value.asWord
  let serviceClassId ← fields.get? "service_class_id" Toml.Value.asWord
  let mscsTidBitmap ← fields.get? "mscs_tid_bitmap" Toml.Value.asWord
  let priorityLimit ← fields.get? "priority_limit" Toml.Value.asWord
  let latency ← fields.get? "latency" decodeLatency
  return ⟨id, kind, command, precedence, output, ipVersion, srcMac, dstMac, srcIpv4, srcIpv4Mask,
    dstIpv4, dstIpv4Mask, srcIpv6, srcIpv6Mask, dstIpv6, dstIpv6Mask, srcPort, dstPort,
    srcPortRange, dstPortRange, protocol, dscp, vlanId, vlanPcp, spi, spiMask, ifindex,
    userPriority, alwaysTrue, sense, dscpRemark, vlanPcpRemark, serviceClassId, mscsTidBitmap,
    priorityLimit, latency⟩

end Entry

end RuleFile

end PacketPriority
