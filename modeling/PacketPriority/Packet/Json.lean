import PacketPriority.Packet
import PacketPriority.Text.Json

/-!
Packets as JSON.

A packet is written as an object with all its keys. Reading is wider: a key may be missing and
then has its default value, keys that name no field are ignored, and the fields may also stand in
an array, in the order of the keys, where the last ones may be left out. A value of the wrong type,
a number out of its word's range and a key given twice are refused.
-/

namespace PacketPriority

namespace Json

/-! ### Reading values -/

def string? : Json → Option String
  | string s => some s
  | _ => none

/-- An integer within a word's range. -/
def word? {α : Type} [Word α] : Json → Option α
  | number n => Word.ofInt? n
  | _ => none

/-- A string that a reader of texts accepts. -/
def textOf? {α : Type} (read : String → Option α) : Json → Option α
  | string s => read s
  | _ => none

/-- A value, or `null` for none. -/
def nullable? {α : Type} (read : Json → Option α) : Json → Option (Option α)
  | null => some none
  | v => (read v).map some

/-! ### Reading records -/

/-- The members of a record with the given field names, as a look-up from names to values. An
object must not give a field twice, an array must not be longer than the list of fields. -/
def record? (names : List String) : Json → Option (String → Option Json)
  | object members =>
    if names.all fun name => (members.filter (·.1 == name)).length ≤ 1 then
      some fun name => members.lookup name
    else none
  | array items =>
    if items.length ≤ names.length then some fun name => (names.zip items).lookup name
    else none
  | _ => none

/-- A field of a record, with the value it has when it is not given. -/
def fieldOr {α : Type} (members : String → Option Json) (name : String) (read : Json → Option α)
    (default : α) : Option α :=
  match members name with
  | none => some default
  | some v => read v

/-- A field of a record that has to be given. -/
def field? {α : Type} (members : String → Option Json) (name : String)
    (read : Json → Option α) : Option α :=
  (members name).bind read

end Json

/-! ### Addresses -/

def Mac.toJson (m : Mac) : Json := .string m.toString
def Ipv4.toJson (x : Ipv4) : Json := .string x.toString
def Ipv6.toJson (x : Ipv6) : Json := .string x.toString

/-! ### The network layer -/

namespace Network

def toJson : Network → Json
  | ipv4 src dst => .object [("kind", .string "ipv4"), ("src", src.toJson), ("dst", dst.toJson)]
  | ipv6 src dst => .object [("kind", .string "ipv6"), ("src", src.toJson), ("dst", dst.toJson)]
  | nonIp => .object [("kind", .string "nonip")]

/-- The layer of a given kind, with end points to be looked up by name. A packet that is not of IP
has none, and nothing is looked up for it. -/
def ofKind? (ends : Option (String → Option Json)) : String → Option Network
  | "ipv4" => do
    let members ← ends
    let src ← Json.field? members "src" (Json.textOf? Ipv4.ofString?)
    let dst ← Json.field? members "dst" (Json.textOf? Ipv4.ofString?)
    return ipv4 src dst
  | "ipv6" => do
    let members ← ends
    let src ← Json.field? members "src" (Json.textOf? Ipv6.ofString?)
    let dst ← Json.field? members "dst" (Json.textOf? Ipv6.ofString?)
    return ipv6 src dst
  | "nonip" => some nonIp
  | _ => none

/-- An object is tagged by its `kind`; in an array the tag stands first and the end points
follow. -/
def ofJson? : Json → Option Network
  | .object fields => do
    let tag ← Json.record? ["kind"] (.object fields)
    let kind ← Json.field? tag "kind" Json.string?
    ofKind? (Json.record? ["src", "dst"] (.object fields)) kind
  | .array (.string "nonip" :: ends) => if ends.isEmpty then some nonIp else none
  | .array (.string kind :: ends) => ofKind? (Json.record? ["src", "dst"] (.array ends)) kind
  | _ => none

end Network

/-! ### Packets -/

namespace Packet

/-- The keys of a packet, in the order of its fields. -/
def keys : List String :=
  ["src_mac", "dst_mac", "dev_addr", "ifindex", "network", "protocol", "src_port", "dst_port",
    "dscp", "vlan_tci", "spi", "priority"]

/-- All keys of a packet with their values. -/
def members (p : Packet) : List (String × Json) :=
  [("src_mac", p.srcMac.toJson), ("dst_mac", p.dstMac.toJson), ("dev_addr", p.devAddr.toJson),
    ("ifindex", .nat p.ifindex.toNat), ("network", p.network.toJson),
    ("protocol", .nat p.protocol.toNat), ("src_port", .nat p.srcPort.toNat),
    ("dst_port", .nat p.dstPort.toNat), ("dscp", .nat p.dscp.toNat),
    ("vlan_tci", Json.optional (fun (tci : UInt16) => .nat tci.toNat) p.vlanTci),
    ("spi", .nat p.spi.toNat), ("priority", .nat p.priority.toNat)]

def toJson (p : Packet) : Json := .object p.members

/-- The packet that a look-up from keys to values gives. -/
def ofMembers? (get : String → Option Json) : Option Packet := do
  let unset : Packet := {}
  let srcMac ← Json.fieldOr get "src_mac" (Json.textOf? Mac.ofString?) unset.srcMac
  let dstMac ← Json.fieldOr get "dst_mac" (Json.textOf? Mac.ofString?) unset.dstMac
  let devAddr ← Json.fieldOr get "dev_addr" (Json.textOf? Mac.ofString?) unset.devAddr
  let ifindex ← Json.fieldOr get "ifindex" Json.word? unset.ifindex
  let network ← Json.fieldOr get "network" Network.ofJson? unset.network
  let protocol ← Json.fieldOr get "protocol" Json.word? unset.protocol
  let srcPort ← Json.fieldOr get "src_port" Json.word? unset.srcPort
  let dstPort ← Json.fieldOr get "dst_port" Json.word? unset.dstPort
  let dscp ← Json.fieldOr get "dscp" Json.word? unset.dscp
  let vlanTci ← Json.fieldOr get "vlan_tci" (Json.nullable? Json.word?) unset.vlanTci
  let spi ← Json.fieldOr get "spi" Json.word? unset.spi
  let priority ← Json.fieldOr get "priority" Json.word? unset.priority
  return ⟨srcMac, dstMac, devAddr, ifindex, network, protocol, srcPort, dstPort, dscp, vlanTci,
    spi, priority⟩

/-- The packet that a JSON value stands for, if it stands for one. -/
def ofJson? (v : Json) : Option Packet := (Json.record? keys v).bind ofMembers?

end Packet

end PacketPriority
