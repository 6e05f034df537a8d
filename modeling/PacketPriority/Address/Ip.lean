import PacketPriority.Packet

/-!
IP addresses of either version.
-/

namespace PacketPriority

inductive Ip where
  | v4 (x : Ipv4)
  | v6 (x : Ipv6)
deriving DecidableEq, Repr

namespace Ip

/-- The address that a text stands for. No text stands for addresses of both versions. -/
def ofString? (s : String) : Option Ip :=
  ((Ipv4.ofString? s).map v4).or ((Ipv6.ofString? s).map v6)

end Ip

/-- The network layer between two addresses, if they are of one version. -/
def Network.between? : Ip → Ip → Option Network
  | .v4 src, .v4 dst => some (.ipv4 src dst)
  | .v6 src, .v6 dst => some (.ipv6 src dst)
  | _, _ => none

end PacketPriority
