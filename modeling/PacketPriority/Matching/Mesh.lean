import PacketPriority.Packet
import PacketPriority.Rule

/-!
Mesh matching.

A mesh rule compares the fields that its mesh flags switch on. A field can be compared only in a
packet that has it: a VLAN id in a tagged packet, an address, a protocol or a DSCP value in an IPv4
packet, a port in an IPv4 packet of TCP or UDP. Where the packet has the field, the comparison must
hold, or must fail if its sense is inverted; where it has not, the rule does not match, whatever
the sense.
-/

namespace PacketPriority

namespace MeshField

/-- Whether a packet has the field, so that it can be compared. -/
def present (p : Packet) : MeshField → Bool
  | userPriority | srcMac | dstMac => true
  | vlanId => p.vlanTci.isSome
  | srcIpv4 | dstIpv4 | protocol | dscp => p.network.isIpv4
  | srcPort | dstPort => p.network.isIpv4 && p.hasPorts

/-- Whether the packet's value of the field is the one the rule compares with. -/
def agrees (c : Criteria) (p : Packet) : MeshField → Bool
  | userPriority => p.priority == c.userPriority
  | srcMac => p.srcMac == c.srcMac
  | dstMac => p.dstMac == c.dstMac
  | vlanId => p.vlanId == some c.vlanId
  | srcIpv4 =>
    match p.network with
    | .ipv4 src _ => src == c.srcIpv4
    | _ => false
  | dstIpv4 =>
    match p.network with
    | .ipv4 _ dst => dst == c.dstIpv4
    | _ => false
  | srcPort => p.srcPort == c.srcPort
  | dstPort => p.dstPort == c.dstPort
  | protocol => p.protocol == c.protocol
  | dscp => p.dscp == c.dscp

end MeshField

namespace Rule

/-- Whether one field admits the packet: it is not compared, or it is present and its comparison
comes out as its sense asks. -/
def meshAdmits (r : Rule) (p : Packet) (f : MeshField) : Bool :=
  !r.meshFlags.compares f || (f.present p && (f.agrees r.criteria p != r.meshFlags.inverts f))

/-- Whether a packet matches a rule by its mesh flags. -/
def matchesMesh (r : Rule) (p : Packet) : Bool :=
  r.meshFlags.alwaysTrue || MeshField.all.all (r.meshAdmits p)

theorem matchesMesh_iff {r : Rule} {p : Packet} :
    r.matchesMesh p = true ↔
      r.meshFlags.alwaysTrue = true ∨ ∀ f : MeshField, r.meshAdmits p f = true := by
  simp only [matchesMesh, Bool.or_eq_true, List.all_eq_true]
  constructor
  · rintro (h | h)
    · exact .inl h
    · exact .inr fun f => h f f.mem_all
  · rintro (h | h)
    · exact .inl h
    · exact .inr fun f _ => h f

/-- A rule without mesh flags matches every packet. -/
theorem matchesMesh_of_meshFlags_eq_zero {r : Rule} (h : r.meshFlags = 0) (p : Packet) :
    r.matchesMesh p = true := by
  refine matchesMesh_iff.2 (.inr fun f => ?_)
  simp [meshAdmits, h, Flags.compares]

end Rule

end PacketPriority
