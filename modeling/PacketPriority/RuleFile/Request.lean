import PacketPriority.RuleFile.Entry

/-!
From entries of a rule file to requests.

An entry that deletes needs nothing but its key. An entry that adds is checked: its output must
name a source of priority, and it must give only what its kind can compare. A mesh entry takes the
ten mesh fields and a list of those that are inverted, each of which it has to give; an entry of a
flow kind takes everything else, a mask only beside its address and a range only with both bounds
in order.
-/

namespace PacketPriority.RuleFile

/-- What is wrong with an entry. -/
inductive EntryError where
  | outputOutOfRange (output : UInt8)
  | notForMesh (field : String)
  | unknownSense (name : String)
  | senseUnset (f : MeshField)
  | meshOnly
  | orphanMask (field : String)
  | rangeReversed (field : String) (first last : UInt16)
  | rangeLength (field : String)
deriving DecidableEq, Repr

def EntryError.message : EntryError → String
  | outputOutOfRange output => s!"output {output} out of range (max {PrioritySource.maxCode})"
  | notForMesh field => field ++ " is not supported by mesh rules"
  | unknownSense name => "unknown sense field '" ++ name ++ "'"
  | senseUnset f => "sense lists '" ++ f.name ++ "' but the field is not set"
  | meshOnly => "always_true, sense and user_priority are mesh-only fields"
  | orphanMask field => field ++ " is set without its address"
  | rangeReversed field first last => s!"{field}: start {first} is greater than end {last}"
  | rangeLength field => field ++ " needs exactly [start, end]"

namespace Entry

/-! ### Mesh entries -/

/-- Whether the entry gives a mesh field. -/
def gives (e : Entry) : MeshField → Bool
  | .userPriority => e.userPriority.isSome
  | .srcMac => e.srcMac.isSome
  | .dstMac => e.dstMac.isSome
  | .vlanId => e.vlanId.isSome
  | .srcIpv4 => e.srcIpv4.isSome
  | .dstIpv4 => e.dstIpv4.isSome
  | .srcPort => e.srcPort.isSome
  | .dstPort => e.dstPort.isSome
  | .protocol => e.protocol.isSome
  | .dscp => e.dscp.isSome

/-- Whether the comparison of a mesh field is inverted. -/
def inverts (e : Entry) (f : MeshField) : Bool := e.sense.contains f.name

/-- The fields that no mesh rule can compare, with whether the entry gives them. -/
def flowOnly (e : Entry) : List (String × Bool) :=
  [("ip_version_type", e.ipVersion.isSome), ("src_ipv4_mask", e.srcIpv4Mask.isSome),
    ("dst_ipv4_mask", e.dstIpv4Mask.isSome), ("src_ipv6", e.srcIpv6.isSome),
    ("src_ipv6_mask", e.srcIpv6Mask.isSome), ("dst_ipv6", e.dstIpv6.isSome),
    ("dst_ipv6_mask", e.dstIpv6Mask.isSome), ("src_port_range", e.srcPortRange.isSome),
    ("dst_port_range", e.dstPortRange.isSome), ("vlan_pcp", e.vlanPcp.isSome),
    ("spi", e.spi.isSome), ("spi_mask", e.spiMask.isSome), ("ifindex", e.ifindex.isSome)]

/-- The first thing wrong with a mesh entry. -/
def meshFault (e : Entry) : Option EntryError :=
  match e.flowOnly.find? (·.2) with
  | some (field, _) => some (.notForMesh field)
  | none =>
    match e.sense.find? (!MeshField.isName ·) with
    | some name => some (.unknownSense name)
    | none =>
      (MeshField.all.find? fun f => !e.gives f && e.inverts f).map .senseUnset

/-- The edits of a mesh entry's fields. -/
def meshEdits (e : Entry) : List Edit :=
  (if e.alwaysTrue then [.alwaysTrue] else [])
    ++ (e.userPriority.map (Edit.meshUserPriority · (e.inverts .userPriority))).toList
    ++ (e.srcMac.map (Edit.meshSrcMac · (e.inverts .srcMac))).toList
    ++ (e.dstMac.map (Edit.meshDstMac · (e.inverts .dstMac))).toList
    ++ (e.vlanId.map (Edit.meshVlanId · (e.inverts .vlanId))).toList
    ++ (e.srcIpv4.map (Edit.meshSrcIpv4 · (e.inverts .srcIpv4))).toList
    ++ (e.dstIpv4.map (Edit.meshDstIpv4 · (e.inverts .dstIpv4))).toList
    ++ (e.srcPort.map (Edit.meshSrcPort · (e.inverts .srcPort))).toList
    ++ (e.dstPort.map (Edit.meshDstPort · (e.inverts .dstPort))).toList
    ++ (e.protocol.map (Edit.meshProtocol · (e.inverts .protocol))).toList
    ++ (e.dscp.map (Edit.meshDscp · (e.inverts .dscp))).toList

/-! ### Flow entries -/

/-- The masks, with whether the entry gives them without what they mask. -/
def orphanMasks (e : Entry) : List (String × Bool) :=
  [("src_ipv4_mask", e.srcIpv4Mask.isSome && e.srcIpv4.isNone),
    ("dst_ipv4_mask", e.dstIpv4Mask.isSome && e.dstIpv4.isNone),
    ("src_ipv6_mask", e.srcIpv6Mask.isSome && e.srcIpv6.isNone),
    ("dst_ipv6_mask", e.dstIpv6Mask.isSome && e.dstIpv6.isNone),
    ("spi_mask", e.spiMask.isSome && e.spi.isNone)]

/-- What is wrong with a range. -/
def rangeFault (field : String) : Option (List UInt16) → Option EntryError
  | none => none
  | some [first, last] => if first ≤ last then none else some (.rangeReversed field first last)
  | some _ => some (.rangeLength field)

/-- The first thing wrong with an entry of a flow kind. -/
def flowFault (e : Entry) : Option EntryError :=
  if e.alwaysTrue || !e.sense.isEmpty || e.userPriority.isSome then some .meshOnly
  else
    match e.orphanMasks.find? (·.2) with
    | some (field, _) => some (.orphanMask field)
    | none =>
      (rangeFault "src_port_range" e.srcPortRange).or (rangeFault "dst_port_range" e.dstPortRange)

/-- The edits that a range asks for. -/
def rangeEdits (edit : UInt16 → UInt16 → Edit) : Option (List UInt16) → List Edit
  | some [first, last] => [edit first last]
  | _ => []

/-- The edits of a flow entry's fields; an SPI without a mask is compared in full. -/
def flowEdits (e : Entry) : List Edit :=
  (e.ipVersion.map Edit.ipVersion).toList
    ++ (e.srcMac.map Edit.srcMac).toList
    ++ (e.dstMac.map Edit.dstMac).toList
    ++ (e.srcIpv4.map Edit.srcIpv4).toList
    ++ (e.srcIpv4Mask.map Edit.srcIpv4Mask).toList
    ++ (e.dstIpv4.map Edit.dstIpv4).toList
    ++ (e.dstIpv4Mask.map Edit.dstIpv4Mask).toList
    ++ (e.srcIpv6.map Edit.srcIpv6).toList
    ++ (e.srcIpv6Mask.map Edit.srcIpv6Mask).toList
    ++ (e.dstIpv6.map Edit.dstIpv6).toList
    ++ (e.dstIpv6Mask.map Edit.dstIpv6Mask).toList
    ++ (e.srcPort.map Edit.srcPort).toList
    ++ (e.dstPort.map Edit.dstPort).toList
    ++ rangeEdits Edit.srcPortRange e.srcPortRange
    ++ rangeEdits Edit.dstPortRange e.dstPortRange
    ++ (e.protocol.map Edit.protocol).toList
    ++ (e.dscp.map Edit.dscp).toList
    ++ (e.vlanId.map Edit.vlanId).toList
    ++ (e.vlanPcp.map Edit.vlanPcp).toList
    ++ (e.spi.map (Edit.spi · (e.spiMask.getD 4294967295))).toList
    ++ (e.ifindex.map Edit.ifindex).toList

/-! ### Requests -/

/-- The edits of the treatment that an entry gives. -/
def treatmentEdits (e : Entry) : List Edit :=
  (e.dscpRemark.map Edit.dscpRemark).toList
    ++ (e.vlanPcpRemark.map Edit.vlanPcpRemark).toList
    ++ (e.serviceClassId.map Edit.serviceClassId).toList
    ++ (e.mscsTidBitmap.map Edit.mscsTidBitmap).toList
    ++ (e.priorityLimit.map Edit.priorityLimit).toList
    ++ (e.latency.map fun (intervalDl, burstDl, intervalUl, burstUl) =>
      Edit.latency intervalDl burstDl intervalUl burstUl).toList

/-- The edits that describe the rule of an entry. -/
def edits (e : Entry) : List Edit :=
  [.kind e.kind, .precedence e.precedence, .output e.output]
    ++ (if e.kind = .mesh then e.meshEdits else e.flowEdits)
    ++ e.treatmentEdits

/-- The rule that an entry describes. -/
def rule (e : Entry) : Rule := Rule.build e.id e.edits

/-- The first thing wrong with an entry that adds. -/
def fault (e : Entry) : Option EntryError :=
  if PrioritySource.maxCode < e.output then some (.outputOutOfRange e.output)
  else if e.kind = .mesh then e.meshFault
  else e.flowFault

/-- The request that an entry stands for. -/
def toRequest (e : Entry) : Except EntryError Request :=
  match e.command with
  | .delete => .ok (.delete e.key)
  | .add =>
    match e.fault with
    | some error => .error error
    | none => .ok (.add e.rule)

end Entry

end PacketPriority.RuleFile
