import PacketPriority.Packet
import PacketPriority.Rule

/-!
Flow matching.

A rule of one of the flow kinds matches a packet that meets every condition whose flags are set. A
condition on an address asks for a packet of that family, and compares it under the mask if the
mask has its own flag set; a port range counts when both its bounds are set; a condition on the
VLAN tag asks for a tag. The destination of a `sawf_scs` rule may also be the device itself, known
by its address and its interface index.
-/

namespace PacketPriority

/-- The conditions a rule can put on a flow. -/
inductive FlowCondition where
  | ipVersion | dstMac | dstPort | dstPortRange | dstIpv4 | srcMac | srcIpv6 | dstIpv6 | srcPort
  | srcPortRange | srcIpv4 | protocol | dscp | vlanPcp | vlanId | spi
deriving DecidableEq, Repr, Inhabited

namespace FlowCondition

def all : List FlowCondition :=
  [ipVersion, dstMac, dstPort, dstPortRange, dstIpv4, srcMac, srcIpv6, dstIpv6, srcPort,
    srcPortRange, srcIpv4, protocol, dscp, vlanPcp, vlanId, spi]

theorem mem_all (c : FlowCondition) : c ∈ all := by cases c <;> decide

/-- The flags that have to be set for the condition to count. -/
def flags : FlowCondition → List FlowFlag
  | ipVersion => [.ipVersion]
  | dstMac => [.dstMac]
  | dstPort => [.dstPort]
  | dstPortRange => [.dstPortFirst, .dstPortLast]
  | dstIpv4 => [.dstIpv4]
  | srcMac => [.srcMac]
  | srcIpv6 => [.srcIpv6]
  | dstIpv6 => [.dstIpv6]
  | srcPort => [.srcPort]
  | srcPortRange => [.srcPortFirst, .srcPortLast]
  | srcIpv4 => [.srcIpv4]
  | protocol => [.protocol]
  | dscp => [.dscp]
  | vlanPcp => [.vlanPcp]
  | vlanId => [.vlanId]
  | spi => [.spi]

/-- Whether the condition counts under a flag word. -/
def counts (w : Flags) (c : FlowCondition) : Bool := c.flags.all w.hasFlow

end FlowCondition

namespace Packet

/-- Whether a packet goes to the device it passes, as a `sawf_scs` rule with this destination and
interface knows it. -/
def entersDevice (p : Packet) (c : Criteria) : Bool :=
  p.devAddr == c.dstMac && p.ifindex == c.ifindex

end Packet

/-- Whether a packet's address agrees with a rule's, of which `mask` is the mask that counts. -/
def Ipv4.agrees (wanted : Ipv4) (mask : Option Ipv4) (x : Ipv4) : Bool :=
  (match mask with
    | some m => x.mask m
    | none => x) == wanted

/-- Whether a packet's address agrees with a rule's, of which `mask` is the mask that counts. -/
def Ipv6.agrees (wanted : Ipv6) (mask : Option Ipv6) (x : Ipv6) : Bool :=
  (match mask with
    | some m => x.mask m
    | none => x) == wanted

namespace Rule

/-- The value that stands behind a flag, if the flag is set. -/
def flagged {α : Type} (r : Rule) (f : FlowFlag) (a : α) : Option α :=
  if r.flowFlags.hasFlow f then some a else none

/-- Whether a packet meets one condition of a rule. -/
def flowMeets (r : Rule) (p : Packet) : FlowCondition → Bool
  | .ipVersion => p.version == r.criteria.ipVersion
  | .dstMac =>
    p.dstMac == r.criteria.dstMac || (r.kind == .sawfScs && p.entersDevice r.criteria)
  | .dstPort => p.dstPort == r.criteria.dstPort
  | .dstPortRange =>
    decide (r.criteria.dstPortFirst ≤ p.dstPort ∧ p.dstPort ≤ r.criteria.dstPortLast)
  | .dstIpv4 =>
    match p.network with
    | .ipv4 _ dst => r.criteria.dstIpv4.agrees (r.flagged .dstIpv4Mask r.criteria.dstIpv4Mask) dst
    | _ => false
  | .srcMac => p.srcMac == r.criteria.srcMac
  | .srcIpv6 =>
    match p.network with
    | .ipv6 src _ => r.criteria.srcIpv6.agrees (r.flagged .srcIpv6Mask r.criteria.srcIpv6Mask) src
    | _ => false
  | .dstIpv6 =>
    match p.network with
    | .ipv6 _ dst => r.criteria.dstIpv6.agrees (r.flagged .dstIpv6Mask r.criteria.dstIpv6Mask) dst
    | _ => false
  | .srcPort => p.srcPort == r.criteria.srcPort
  | .srcPortRange =>
    decide (r.criteria.srcPortFirst ≤ p.srcPort ∧ p.srcPort ≤ r.criteria.srcPortLast)
  | .srcIpv4 =>
    match p.network with
    | .ipv4 src _ => r.criteria.srcIpv4.agrees (r.flagged .srcIpv4Mask r.criteria.srcIpv4Mask) src
    | _ => false
  | .protocol => p.protocol == r.criteria.protocol
  | .dscp => p.dscp == r.criteria.dscp
  | .vlanPcp => p.vlanPcp == some r.criteria.vlanPcp
  | .vlanId => p.vlanId == some r.criteria.vlanId
  | .spi => p.spi &&& r.criteria.spiMask == r.criteria.spiValue

/-- Whether a packet matches a rule by its flow flags. -/
def matchesFlow (r : Rule) (p : Packet) : Bool :=
  FlowCondition.all.all fun c => !c.counts r.flowFlags || r.flowMeets p c

theorem matchesFlow_iff {r : Rule} {p : Packet} :
    r.matchesFlow p = true ↔
      ∀ c : FlowCondition, c.counts r.flowFlags = true → r.flowMeets p c = true := by
  simp only [matchesFlow, List.all_eq_true, Bool.or_eq_true, Bool.not_eq_true']
  constructor
  · intro h c hc
    rcases h c c.mem_all with hn | hm
    · simp [hc] at hn
    · exact hm
  · intro h c _
    cases hc : c.counts r.flowFlags
    · exact .inl rfl
    · exact .inr (h c hc)

end Rule

end PacketPriority
