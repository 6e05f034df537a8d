import PacketPriority.Address.Mac
import PacketPriority.Address.Ipv6

/-!
Packets as the classifier sees them.

A packet is the set of header fields that rules are compared with. The network layer is one of
three shapes; protocol and ports carry meaning only in an IP packet, and the VLAN tag is absent in
an untagged one. The derived values (IP version, port presence, VLAN id and priority) are total
functions of these fields.
-/

namespace PacketPriority

/-- The network layer of a packet. -/
inductive Network where
  | ipv4 (src dst : Ipv4)
  | ipv6 (src dst : Ipv6)
  | nonIp
deriving DecidableEq, Repr, Inhabited

namespace Network

/-- 4 or 6 in an IP packet, 0 in any other. -/
def version : Network → UInt8
  | ipv4 .. => 4
  | ipv6 .. => 6
  | nonIp => 0

def isIp : Network → Bool
  | nonIp => false
  | _ => true

def isIpv4 : Network → Bool
  | ipv4 .. => true
  | _ => false

end Network

/-- The header fields of one packet. -/
structure Packet where
  srcMac : Mac := {}
  dstMac : Mac := {}
  /-- The address of the device the packet passes. -/
  devAddr : Mac := {}
  /-- The interface index of that device. -/
  ifindex : UInt32 := 0
  network : Network := .nonIp
  protocol : UInt8 := 0
  srcPort : UInt16 := 0
  dstPort : UInt16 := 0
  dscp : UInt8 := 0
  /-- The tag control word of a VLAN-tagged packet. -/
  vlanTci : Option UInt16 := none
  spi : UInt32 := 0
  /-- The priority that the link layer already gives the packet. -/
  priority : UInt8 := 0
deriving DecidableEq, Repr, Inhabited

namespace Packet

def version (p : Packet) : UInt8 := p.network.version

/-- TCP or UDP, the two protocols whose ports are compared. -/
def isPortProtocol (protocol : UInt8) : Bool := protocol == 6 || protocol == 17

/-- Whether the packet carries TCP or UDP over IP. -/
def hasPorts (p : Packet) : Bool := p.network.isIp && isPortProtocol p.protocol

/-- The priority bits of the VLAN tag. -/
def vlanPcp (p : Packet) : Option UInt8 := p.vlanTci.map fun (tci : UInt16) => (tci >>> 13).toUInt8

/-- The identifier bits of the VLAN tag. -/
def vlanId (p : Packet) : Option UInt16 := p.vlanTci.map fun (tci : UInt16) => tci &&& 0x0FFF

/-- The identifier is the lower twelve bits of the tag. -/
theorem vlanId_eq_some_iff (p : Packet) (id : UInt16) :
    p.vlanId = some id ↔ ∃ tci ∈ p.vlanTci, tci.toNat % 4096 = id.toNat := by
  have low (tci : UInt16) : tci &&& 0x0FFF = id ↔ tci.toNat % 4096 = id.toNat := by
    rw [← UInt16.toNat_inj, UInt16.toNat_and]
    show tci.toNat &&& (2 ^ 12 - 1) = _ ↔ _
    rw [Nat.and_two_pow_sub_one_eq_mod]
  simp [vlanId, low]

/-- The priority is the upper three bits of the tag. -/
theorem vlanPcp_eq_some_iff (p : Packet) (pcp : UInt8) :
    p.vlanPcp = some pcp ↔ ∃ tci ∈ p.vlanTci, tci.toNat / 8192 = pcp.toNat := by
  have high (tci : UInt16) : (tci >>> 13).toUInt8 = pcp ↔ tci.toNat / 8192 = pcp.toNat := by
    have bound := tci.toNat_lt
    rw [← UInt8.toNat_inj, UInt16.toNat_toUInt8, UInt16.toNat_shiftRight]
    show tci.toNat >>> 13 % 256 = _ ↔ _
    rw [Nat.shiftRight_eq_div_pow, Nat.mod_eq_of_lt (by omega)]
  simp [vlanPcp, high]

/-! ### Text -/

/-- One line for a reader: end points, protocol and DSCP of an IP packet, hardware addresses and
link priority of any other. -/
def toString (p : Packet) : String :=
  let rest := s!" proto={p.protocol} dscp={p.dscp}"
  match p.network with
  | .ipv4 src dst =>
    s!"{src.toString}:{p.srcPort} -> {dst.toString}:{p.dstPort}" ++ rest
  | .ipv6 src dst =>
    s!"[{src.toString}]:{p.srcPort} -> [{dst.toString}]:{p.dstPort}" ++ rest
  | .nonIp => s!"{p.srcMac.toString} -> {p.dstMac.toString} up={p.priority}"

end Packet

end PacketPriority
