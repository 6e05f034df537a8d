import PacketPriority.Proofs.Ledger

/-!
Well-formed rules.

A rule carries more than its matching reads: two flag words of which one counts, bits that mean
nothing, values that no flag switches on. `Rule.WellFormed` says of a rule that there is nothing of
that kind in it: the other word is zero, no bit is set without what it belongs to, masked addresses
are reduced, and a value that no flag names stands as in a blank rule. `Criterion` lists the values,
with the flag of each word that names them. Nothing of it depends on the precedence
(`Rule.WellFormed.lowered`).
-/

namespace PacketPriority

/-! ### Criteria and their flags -/

/-- The values that a rule may compare with. -/
inductive Criterion where
  | srcMac | dstMac | srcIpv4 | srcIpv4Mask | dstIpv4 | dstIpv4Mask | srcIpv6 | srcIpv6Mask
  | dstIpv6 | dstIpv6Mask | srcPort | dstPort | srcPortFirst | srcPortLast | dstPortFirst
  | dstPortLast | vlanId | vlanPcp | dscp | protocol | userPriority | spiValue | spiMask | ifindex
  | ipVersion

namespace Criterion

/-- The mesh field that is compared with a value. -/
def meshField? : Criterion → Option MeshField
  | userPriority => some .userPriority
  | srcMac => some .srcMac
  | dstMac => some .dstMac
  | srcIpv4 => some .srcIpv4
  | dstIpv4 => some .dstIpv4
  | srcPort => some .srcPort
  | dstPort => some .dstPort
  | protocol => some .protocol
  | vlanId => some .vlanId
  | dscp => some .dscp
  | _ => none

/-- The flow flag under which a value counts; the index of a device has none. -/
def flowFlag? : Criterion → Option FlowFlag
  | srcMac => some .srcMac
  | dstMac => some .dstMac
  | srcIpv4 => some .srcIpv4
  | srcIpv4Mask => some .srcIpv4Mask
  | dstIpv4 => some .dstIpv4
  | dstIpv4Mask => some .dstIpv4Mask
  | srcIpv6 => some .srcIpv6
  | srcIpv6Mask => some .srcIpv6Mask
  | dstIpv6 => some .dstIpv6
  | dstIpv6Mask => some .dstIpv6Mask
  | srcPort => some .srcPort
  | dstPort => some .dstPort
  | srcPortFirst => some .srcPortFirst
  | srcPortLast => some .srcPortLast
  | dstPortFirst => some .dstPortFirst
  | dstPortLast => some .dstPortLast
  | vlanId => some .vlanId
  | vlanPcp => some .vlanPcp
  | dscp => some .dscp
  | protocol => some .protocol
  | spiValue | spiMask => some .spi
  | ipVersion => some .ipVersion
  | userPriority | ifindex => none

end Criterion

/-- Two sets of criteria have the same value. -/
def Criteria.AgreesAt (c c' : Criteria) : Criterion → Prop
  | .srcMac => c.srcMac = c'.srcMac
  | .dstMac => c.dstMac = c'.dstMac
  | .srcIpv4 => c.srcIpv4 = c'.srcIpv4
  | .srcIpv4Mask => c.srcIpv4Mask = c'.srcIpv4Mask
  | .dstIpv4 => c.dstIpv4 = c'.dstIpv4
  | .dstIpv4Mask => c.dstIpv4Mask = c'.dstIpv4Mask
  | .srcIpv6 => c.srcIpv6 = c'.srcIpv6
  | .srcIpv6Mask => c.srcIpv6Mask = c'.srcIpv6Mask
  | .dstIpv6 => c.dstIpv6 = c'.dstIpv6
  | .dstIpv6Mask => c.dstIpv6Mask = c'.dstIpv6Mask
  | .srcPort => c.srcPort = c'.srcPort
  | .dstPort => c.dstPort = c'.dstPort
  | .srcPortFirst => c.srcPortFirst = c'.srcPortFirst
  | .srcPortLast => c.srcPortLast = c'.srcPortLast
  | .dstPortFirst => c.dstPortFirst = c'.dstPortFirst
  | .dstPortLast => c.dstPortLast = c'.dstPortLast
  | .vlanId => c.vlanId = c'.vlanId
  | .vlanPcp => c.vlanPcp = c'.vlanPcp
  | .dscp => c.dscp = c'.dscp
  | .protocol => c.protocol = c'.protocol
  | .userPriority => c.userPriority = c'.userPriority
  | .spiValue => c.spiValue = c'.spiValue
  | .spiMask => c.spiMask = c'.spiMask
  | .ifindex => c.ifindex = c'.ifindex
  | .ipVersion => c.ipVersion = c'.ipVersion

/-- The address that a mask flag is about. -/
def FlowFlag.masks? : FlowFlag → Option FlowFlag
  | srcIpv4Mask => some srcIpv4
  | dstIpv4Mask => some dstIpv4
  | srcIpv6Mask => some srcIpv6
  | dstIpv6Mask => some dstIpv6
  | _ => none

namespace Rule

/-- Whether a flag of one of the two words names a value. -/
def names (r : Rule) (c : Criterion) : Bool :=
  c.meshField?.any r.meshFlags.compares || c.flowFlag?.any r.flowFlags.hasFlow

/-! ### Well-formed rules -/

/-- The flags of a mesh rule: no other word, no bit without a meaning, and no comparison inverted
that is not switched on. -/
structure MeshFormed (r : Rule) : Prop where
  flowFlags_eq : r.flowFlags = 0
  defined : ∀ bit, r.meshFlags.has bit = true →
    bit = MeshField.alwaysTrueBit ∨ ∃ f : MeshField, bit = f.bit ∨ bit = f.senseBit
  sense : ∀ f, r.meshFlags.inverts f = true → r.meshFlags.compares f = true

/-- The flags of a flow rule and the values under them: no other word, no mask without its address,
ranges with two bounds in order, and addresses reduced to what their masks select. -/
structure FlowFormed (r : Rule) : Prop where
  meshFlags_eq : r.meshFlags = 0
  mask : ∀ f g, f.masks? = some g → r.flowFlags.hasFlow f = true → r.flowFlags.hasFlow g = true
  srcRange : r.flowFlags.hasFlow .srcPortFirst = r.flowFlags.hasFlow .srcPortLast
  dstRange : r.flowFlags.hasFlow .dstPortFirst = r.flowFlags.hasFlow .dstPortLast
  srcRange_le : r.flowFlags.hasFlow .srcPortFirst = true →
    r.criteria.srcPortFirst ≤ r.criteria.srcPortLast
  dstRange_le : r.flowFlags.hasFlow .dstPortFirst = true →
    r.criteria.dstPortFirst ≤ r.criteria.dstPortLast
  srcIpv4 : r.flowFlags.hasFlow .srcIpv4Mask = true →
    r.criteria.srcIpv4 = r.criteria.srcIpv4.mask r.criteria.srcIpv4Mask
  dstIpv4 : r.flowFlags.hasFlow .dstIpv4Mask = true →
    r.criteria.dstIpv4 = r.criteria.dstIpv4.mask r.criteria.dstIpv4Mask
  srcIpv6 : r.flowFlags.hasFlow .srcIpv6Mask = true →
    r.criteria.srcIpv6 = r.criteria.srcIpv6.mask r.criteria.srcIpv6Mask
  dstIpv6 : r.flowFlags.hasFlow .dstIpv6Mask = true →
    r.criteria.dstIpv6 = r.criteria.dstIpv6.mask r.criteria.dstIpv6Mask

/-- There is nothing in the rule that its matching could not read. -/
structure WellFormed (r : Rule) : Prop where
  output_le : r.treatment.output ≤ 9
  mesh : r.kind = .mesh → r.MeshFormed
  flow : r.kind ≠ .mesh → r.FlowFormed
  /-- A value that no flag names is that of a blank rule, the index of a device in a mesh rule
  too; in a flow rule it has no flag. -/
  blank : ∀ c, (c = .ifindex → r.kind = .mesh) → r.names c = false → r.criteria.AgreesAt {} c

variable {r : Rule}

/-- The precedence has no part in it. -/
theorem WellFormed.lowered (h : r.WellFormed) : (Ledger.lowered r).WellFormed := by
  unfold Ledger.lowered
  split
  · exact ⟨h.output_le, fun mesh => { h.mesh mesh with }, fun flow => { h.flow flow with }, h.blank⟩
  · exact h

end Rule

end PacketPriority
