import PacketPriority.Packet.Json
import PacketPriority.Rule

/-!
Rules as JSON objects, with every field.
-/

namespace PacketPriority

/-- A word as a JSON number. -/
def Json.word {α : Type} [Word α] (w : α) : Json := .nat (Word.toNat w)

def Criteria.toJson (c : Criteria) : Json :=
  .object [
    ("src_mac", c.srcMac.toJson), ("dst_mac", c.dstMac.toJson),
    ("src_ipv4", c.srcIpv4.toJson), ("src_ipv4_mask", c.srcIpv4Mask.toJson),
    ("dst_ipv4", c.dstIpv4.toJson), ("dst_ipv4_mask", c.dstIpv4Mask.toJson),
    ("src_ipv6", c.srcIpv6.toJson), ("src_ipv6_mask", c.srcIpv6Mask.toJson),
    ("dst_ipv6", c.dstIpv6.toJson), ("dst_ipv6_mask", c.dstIpv6Mask.toJson),
    ("src_port", .word c.srcPort), ("dst_port", .word c.dstPort),
    ("src_port_range_start", .word c.srcPortFirst), ("src_port_range_end", .word c.srcPortLast),
    ("dst_port_range_start", .word c.dstPortFirst), ("dst_port_range_end", .word c.dstPortLast),
    ("vlan_id", .word c.vlanId), ("vlan_pcp", .word c.vlanPcp), ("dscp", .word c.dscp),
    ("protocol", .word c.protocol), ("user_priority", .word c.userPriority),
    ("spi_value", .word c.spiValue), ("spi_mask", .word c.spiMask), ("ifindex", .word c.ifindex),
    ("ip_version_type", .word c.ipVersion)]

def Treatment.toJson (t : Treatment) : Json :=
  .object [
    ("rule_output", .word t.output), ("dscp_remark", .word t.dscpRemark),
    ("vlan_pcp_remark", .word t.vlanPcpRemark), ("service_class_id", .word t.serviceClassId),
    ("mscs_tid_bitmap", .word t.mscsTidBitmap), ("priority_limit", .word t.priorityLimit),
    ("service_interval_dl", .word t.serviceIntervalDl), ("burst_size_dl", .word t.burstSizeDl),
    ("service_interval_ul", .word t.serviceIntervalUl), ("burst_size_ul", .word t.burstSizeUl)]

def Rule.toJson (r : Rule) : Json :=
  .object [
    ("id", .word r.id), ("rule_type", .string r.kind.toString), ("precedence", .word r.precedence),
    ("mesh_flags", .word r.meshFlags), ("sawf_flags", .word r.flowFlags),
    ("fields", r.criteria.toJson), ("output", r.treatment.toJson)]

end PacketPriority
