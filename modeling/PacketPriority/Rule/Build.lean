import PacketPriority.Rule

/-!
Building rules from edits.

A rule is described by a list of edits that are applied one after another to a blank rule. An edit
of a compared field stores the value and switches its comparison on; a flow edit does so in the
flow word, a mesh edit in the mesh word. At the end every address whose mask is set is reduced to
the bits that its mask selects, so that matching only has to mask the packet's side.
-/

namespace PacketPriority

/-- One step of building a rule. Edits named after a mesh field alone belong to flow matching. -/
inductive Edit where
  | kind (k : RuleKind)
  | precedence (n : UInt8)
  | output (code : UInt8)
  | ipVersion (version : UInt8)
  | srcMac (mac : Mac)
  | dstMac (mac : Mac)
  | srcIpv4 (addr : Ipv4)
  | srcIpv4Mask (mask : Ipv4)
  | dstIpv4 (addr : Ipv4)
  | dstIpv4Mask (mask : Ipv4)
  | srcIpv6 (addr : Ipv6)
  | srcIpv6Mask (mask : Ipv6)
  | dstIpv6 (addr : Ipv6)
  | dstIpv6Mask (mask : Ipv6)
  | srcPort (port : UInt16)
  | dstPort (port : UInt16)
  | srcPortRange (first last : UInt16)
  | dstPortRange (first last : UInt16)
  | protocol (number : UInt8)
  | dscp (value : UInt8)
  | vlanId (id : UInt16)
  | vlanPcp (pcp : UInt8)
  | spi (value mask : UInt32)
  | ifindex (index : UInt32)
  | alwaysTrue
  | meshUserPriority (priority : UInt8) (inverted : Bool)
  | meshSrcMac (mac : Mac) (inverted : Bool)
  | meshDstMac (mac : Mac) (inverted : Bool)
  | meshVlanId (id : UInt16) (inverted : Bool)
  | meshSrcIpv4 (addr : Ipv4) (inverted : Bool)
  | meshDstIpv4 (addr : Ipv4) (inverted : Bool)
  | meshSrcPort (port : UInt16) (inverted : Bool)
  | meshDstPort (port : UInt16) (inverted : Bool)
  | meshProtocol (number : UInt8) (inverted : Bool)
  | meshDscp (value : UInt8) (inverted : Bool)
  | dscpRemark (value : UInt8)
  | vlanPcpRemark (value : UInt8)
  | serviceClassId (id : UInt8)
  | mscsTidBitmap (bitmap : UInt8)
  | priorityLimit (limit : UInt8)
  | latency (intervalDl : UInt8) (burstDl : UInt32) (intervalUl : UInt8) (burstUl : UInt32)
deriving DecidableEq, Repr

namespace Rule

/-- The rule with new criteria and one more flow flag. -/
def withFlow (r : Rule) (flag : FlowFlag) (criteria : Criteria) : Rule :=
  { r with criteria := criteria, flowFlags := r.flowFlags.setFlow flag }

/-- The rule with new criteria and the comparison of a mesh field switched on. -/
def withMesh (r : Rule) (f : MeshField) (inverted : Bool) (criteria : Criteria) : Rule :=
  { r with criteria := criteria, meshFlags := r.meshFlags.setCompare f inverted }

end Rule

/-- The rule after one edit. -/
def Edit.apply (r : Rule) : Edit → Rule
  | kind k => { r with kind := k }
  | precedence n => { r with precedence := n }
  | output code => { r with treatment := { r.treatment with output := code } }
  | ipVersion version => r.withFlow .ipVersion { r.criteria with ipVersion := version }
  | srcMac mac => r.withFlow .srcMac { r.criteria with srcMac := mac }
  | dstMac mac => r.withFlow .dstMac { r.criteria with dstMac := mac }
  | srcIpv4 addr => r.withFlow .srcIpv4 { r.criteria with srcIpv4 := addr }
  | srcIpv4Mask mask => r.withFlow .srcIpv4Mask { r.criteria with srcIpv4Mask := mask }
  | dstIpv4 addr => r.withFlow .dstIpv4 { r.criteria with dstIpv4 := addr }
  | dstIpv4Mask mask => r.withFlow .dstIpv4Mask { r.criteria with dstIpv4Mask := mask }
  | srcIpv6 addr => r.withFlow .srcIpv6 { r.criteria with srcIpv6 := addr }
  | srcIpv6Mask mask => r.withFlow .srcIpv6Mask { r.criteria with srcIpv6Mask := mask }
  | dstIpv6 addr => r.withFlow .dstIpv6 { r.criteria with dstIpv6 := addr }
  | dstIpv6Mask mask => r.withFlow .dstIpv6Mask { r.criteria with dstIpv6Mask := mask }
  | srcPort port => r.withFlow .srcPort { r.criteria with srcPort := port }
  | dstPort port => r.withFlow .dstPort { r.criteria with dstPort := port }
  | srcPortRange first last =>
    (r.withFlow .srcPortFirst { r.criteria with srcPortFirst := first, srcPortLast := last }
      |> fun r => r.withFlow .srcPortLast r.criteria)
  | dstPortRange first last =>
    (r.withFlow .dstPortFirst { r.criteria with dstPortFirst := first, dstPortLast := last }
      |> fun r => r.withFlow .dstPortLast r.criteria)
  | protocol number => r.withFlow .protocol { r.criteria with protocol := number }
  | dscp value => r.withFlow .dscp { r.criteria with dscp := value }
  | vlanId id => r.withFlow .vlanId { r.criteria with vlanId := id }
  | vlanPcp pcp => r.withFlow .vlanPcp { r.criteria with vlanPcp := pcp }
  | spi value mask => r.withFlow .spi { r.criteria with spiValue := value, spiMask := mask }
  | ifindex index => { r with criteria := { r.criteria with ifindex := index } }
  | alwaysTrue => { r with meshFlags := r.meshFlags.set MeshField.alwaysTrueBit }
  | meshUserPriority priority inverted =>
    r.withMesh .userPriority inverted { r.criteria with userPriority := priority }
  | meshSrcMac mac inverted => r.withMesh .srcMac inverted { r.criteria with srcMac := mac }
  | meshDstMac mac inverted => r.withMesh .dstMac inverted { r.criteria with dstMac := mac }
  | meshVlanId id inverted => r.withMesh .vlanId inverted { r.criteria with vlanId := id }
  | meshSrcIpv4 addr inverted => r.withMesh .srcIpv4 inverted { r.criteria with srcIpv4 := addr }
  | meshDstIpv4 addr inverted => r.withMesh .dstIpv4 inverted { r.criteria with dstIpv4 := addr }
  | meshSrcPort port inverted => r.withMesh .srcPort inverted { r.criteria with srcPort := port }
  | meshDstPort port inverted => r.withMesh .dstPort inverted { r.criteria with dstPort := port }
  | meshProtocol number inverted =>
    r.withMesh .protocol inverted { r.criteria with protocol := number }
  | meshDscp value inverted => r.withMesh .dscp inverted { r.criteria with dscp := value }
  | dscpRemark value => { r with treatment := { r.treatment with dscpRemark := value } }
  | vlanPcpRemark value => { r with treatment := { r.treatment with vlanPcpRemark := value } }
  | serviceClassId id => { r with treatment := { r.treatment with serviceClassId := id } }
  | mscsTidBitmap bitmap => { r with treatment := { r.treatment with mscsTidBitmap := bitmap } }
  | priorityLimit limit => { r with treatment := { r.treatment with priorityLimit := limit } }
  | latency intervalDl burstDl intervalUl burstUl =>
    { r with treatment := { r.treatment with
        serviceIntervalDl := intervalDl
        burstSizeDl := burstDl
        serviceIntervalUl := intervalUl
        burstSizeUl := burstUl } }

namespace Rule

/-- The rule whose masked addresses are reduced to the bits that their masks select. -/
def canonical (r : Rule) : Rule :=
  let c := r.criteria
  let w := r.flowFlags
  { r with criteria := { c with
      srcIpv4 := if w.hasFlow .srcIpv4Mask then c.srcIpv4.mask c.srcIpv4Mask else c.srcIpv4
      dstIpv4 := if w.hasFlow .dstIpv4Mask then c.dstIpv4.mask c.dstIpv4Mask else c.dstIpv4
      srcIpv6 := if w.hasFlow .srcIpv6Mask then c.srcIpv6.mask c.srcIpv6Mask else c.srcIpv6
      dstIpv6 := if w.hasFlow .dstIpv6Mask then c.dstIpv6.mask c.dstIpv6Mask else c.dstIpv6 } }

/-- The rule that no edit has touched: it matches every packet as a flow rule and none of its
fields is compared. -/
def blank (id : UInt32) : Rule := ⟨id, .sawf, 0, 0, 0, {}, {}⟩

/-- A rule after edits, before its addresses are reduced. -/
def edited (r : Rule) (edits : List Edit) : Rule := edits.foldl Edit.apply r

/-- The rule that a list of edits describes. -/
def build (id : UInt32) (edits : List Edit) : Rule := ((blank id).edited edits).canonical

theorem edited_append (r : Rule) (es fs : List Edit) :
    r.edited (es ++ fs) = (r.edited es).edited fs := by
  simp [edited]

/-- Reducing the addresses again changes nothing. -/
theorem canonical_canonical (r : Rule) : r.canonical.canonical = r.canonical := by
  simp only [canonical]
  congr 2 <;> split <;> simp [Ipv4.mask_mask, Ipv6.mask_mask]

end Rule

end PacketPriority
