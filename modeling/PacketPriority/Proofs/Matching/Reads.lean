import PacketPriority.Matching.Mesh
import PacketPriority.Proofs.Rule.Masking
import PacketPriority.Proofs.Rule.WellFormed

/-!
What matching reads.

A rule has room for every value that any rule can compare with, and a packet has fields for every
network and every tag. Of both, matching reads what the set flags are about and nothing else. What
that is is said by four relations, with one case for each reason to read: `Rule.FlowReads` and
`Rule.MeshReads` for the values of a rule, `Rule.FlowSees` and `Rule.MeshSees` for the fields of a
packet.

If two rules have the same flags and agree on what is read, and two packets agree on what is seen,
then each condition comes out the same (`Rule.flowMeets_congr`, `Rule.meshAdmits_congr`), and so
does the match (`Rule.only_flagged_fields_matter`). So it does not matter what a mesh edit has left
in a value that flow edits share with it, unless a flow flag is set for it, nor what stands in the
other flag word.
-/

namespace PacketPriority

/-! ### Fields of a packet -/

/-- The fields of a packet that matching may see. Of the network layer they are the IP version and
the addresses, which a packet has if it is of their family; of the VLAN tag, its two parts. -/
inductive PacketField where
  | srcMac | dstMac | devAddr | ifindex | version | address (f : AddressField) | protocol | srcPort
  | dstPort | dscp | vlanId | vlanPcp | spi | priority
deriving DecidableEq

/-- Two packets have the same in a field, or neither of them has the field. -/
def Packet.AgreesAt (p q : Packet) : PacketField → Prop
  | .srcMac => p.srcMac = q.srcMac
  | .dstMac => p.dstMac = q.dstMac
  | .devAddr => p.devAddr = q.devAddr
  | .ifindex => p.ifindex = q.ifindex
  | .version => p.version = q.version
  | .address f => f.inPacket? p = f.inPacket? q
  | .protocol => p.protocol = q.protocol
  | .srcPort => p.srcPort = q.srcPort
  | .dstPort => p.dstPort = q.dstPort
  | .dscp => p.dscp = q.dscp
  | .vlanId => p.vlanId = q.vlanId
  | .vlanPcp => p.vlanPcp = q.vlanPcp
  | .spi => p.spi = q.spi
  | .priority => p.priority = q.priority

/-- The field of a packet that a condition compares. -/
def FlowCondition.field : FlowCondition → PacketField
  | ipVersion => .version
  | dstMac => .dstMac
  | dstPort | dstPortRange => .dstPort
  | dstIpv4 => .address .dstIpv4
  | srcMac => .srcMac
  | srcIpv6 => .address .srcIpv6
  | dstIpv6 => .address .dstIpv6
  | srcPort | srcPortRange => .srcPort
  | srcIpv4 => .address .srcIpv4
  | protocol => .protocol
  | dscp => .dscp
  | vlanPcp => .vlanPcp
  | vlanId => .vlanId
  | spi => .spi

/-- The fields of a packet that the comparison of a mesh field looks at, with those that tell
whether the packet has the mesh field at all. -/
def MeshField.fields : MeshField → List PacketField
  | userPriority => [.priority]
  | srcMac => [.srcMac]
  | dstMac => [.dstMac]
  | vlanId => [.vlanId]
  | srcIpv4 => [.address .srcIpv4]
  | dstIpv4 => [.address .dstIpv4]
  | srcPort => [.version, .protocol, .srcPort]
  | dstPort => [.version, .protocol, .dstPort]
  | protocol => [.version, .protocol]
  | dscp => [.version, .dscp]

namespace Rule

/-! ### What a rule reads -/

/-- Flow matching reads a value of the rule. -/
inductive FlowReads (r : Rule) : Criterion → Prop
  /-- The value stands under a flag of a condition that counts. -/
  | value {c : FlowCondition} {f : FlowFlag} {x : Criterion} : c.counts r.flowFlags = true →
      f ∈ c.flags → x.flowFlag? = some f → r.FlowReads x
  /-- The value is a mask; it counts beside its address only. -/
  | mask {f : AddressField} {x : Criterion} : r.flowFlags.hasFlow f.flag = true →
      r.flowFlags.hasFlow f.maskFlag = true → x.flowFlag? = some f.maskFlag → r.FlowReads x
  /-- The destination may be the device. -/
  | device : r.kind = .sawfScs → r.flowFlags.hasFlow .dstMac = true → r.FlowReads .ifindex

/-- Flow matching sees a field of the packet. -/
inductive FlowSees (r : Rule) : PacketField → Prop
  | field {c : FlowCondition} : c.counts r.flowFlags = true → r.FlowSees c.field
  | devAddr : r.kind = .sawfScs → r.flowFlags.hasFlow .dstMac = true → r.FlowSees .devAddr
  | ifindex : r.kind = .sawfScs → r.flowFlags.hasFlow .dstMac = true → r.FlowSees .ifindex

/-- Mesh matching reads a value of the rule. -/
inductive MeshReads (r : Rule) : Criterion → Prop
  | value {f : MeshField} {x : Criterion} : r.meshFlags.alwaysTrue = false →
      r.meshFlags.compares f = true → x.meshField? = some f → r.MeshReads x

/-- Mesh matching sees a field of the packet. -/
inductive MeshSees (r : Rule) : PacketField → Prop
  | field {f : MeshField} {a : PacketField} : r.meshFlags.alwaysTrue = false →
      r.meshFlags.compares f = true → a ∈ f.fields → r.MeshSees a

/-- Flow matching cannot tell two rules apart. -/
structure FlowAlike (r s : Rule) : Prop where
  flags : ∀ f, r.flowFlags.hasFlow f = s.flowFlags.hasFlow f
  /-- Whether a rule knows the device matters where it compares destinations. -/
  kind : r.flowFlags.hasFlow .dstMac = true → (r.kind = .sawfScs ↔ s.kind = .sawfScs)
  values : ∀ x, r.FlowReads x → r.criteria.AgreesAt s.criteria x

/-- Mesh matching cannot tell two rules apart. -/
structure MeshAlike (r s : Rule) : Prop where
  always : r.meshFlags.alwaysTrue = s.meshFlags.alwaysTrue
  compares : r.meshFlags.alwaysTrue = false →
    ∀ f, r.meshFlags.compares f = s.meshFlags.compares f
  /-- A sense matters where its field is compared. -/
  inverts : r.meshFlags.alwaysTrue = false →
    ∀ f, r.meshFlags.compares f = true → r.meshFlags.inverts f = s.meshFlags.inverts f
  values : ∀ x, r.MeshReads x → r.criteria.AgreesAt s.criteria x

variable {r s : Rule} {p q : Packet}

/-! ### Flow conditions -/

theorem FlowAlike.counts_eq (alike : r.FlowAlike s) (c : FlowCondition) :
    c.counts r.flowFlags = c.counts s.flowFlags :=
  congrArg (List.all c.flags) (funext alike.flags)

/-- Where an address is compared, it is read, and its mask if that counts. -/
theorem FlowAlike.address (alike : r.FlowAlike s) (f : AddressField)
    (counts : f.condition.counts r.flowFlags = true) :
    r.criteria.address f = s.criteria.address f ∧ r.masks f = s.masks f := by
  have flag : f.flag ∈ f.condition.flags := by cases f <;> exact List.mem_cons_self
  have set : r.flowFlags.hasFlow f.flag = true := List.all_eq_true.1 counts _ flag
  constructor
  · have read (x : Criterion) (under : x.flowFlag? = some f.flag) :=
      alike.values x (.value counts flag under)
    cases f
    · exact read .srcIpv4 rfl
    · exact read .dstIpv4 rfl
    · exact read .srcIpv6 rfl
    · exact read .dstIpv6 rfl
  · unfold masks flagged
    rw [← alike.flags]
    cases masked : r.flowFlags.hasFlow f.maskFlag with
    | false => rfl
    | true =>
      have read (x : Criterion) (under : x.flowFlag? = some f.maskFlag) :=
        alike.values x (.mask set masked under)
      cases f
      · exact congrArg some (read .srcIpv4Mask rfl)
      · exact congrArg some (read .dstIpv4Mask rfl)
      · exact congrArg some (read .srcIpv6Mask rfl)
      · exact congrArg some (read .dstIpv6Mask rfl)

theorem flowMeets_condition_congr (alike : r.FlowAlike s) (f : AddressField)
    (counts : f.condition.counts r.flowFlags = true) (seen : f.inPacket? p = f.inPacket? q) :
    r.flowMeets p f.condition = s.flowMeets q f.condition := by
  obtain ⟨address, masks⟩ := alike.address f counts
  rw [Bool.eq_iff_iff, flowMeets_condition_iff, flowMeets_condition_iff, seen, address, masks]

/-- Whether a packet enters the device is asked of a rule that knows the device. -/
theorem entersDevice_congr (alike : r.FlowAlike s) (same : ∀ a, r.FlowSees a → p.AgreesAt q a)
    (set : r.flowFlags.hasFlow .dstMac = true) (wanted : r.criteria.dstMac = s.criteria.dstMac) :
    (r.kind == .sawfScs && p.entersDevice r.criteria) =
      (s.kind == .sawfScs && q.entersDevice s.criteria) := by
  by_cases knows : r.kind = .sawfScs
  · have device : p.devAddr = q.devAddr := same _ (.devAddr knows set)
    have index : p.ifindex = q.ifindex := same _ (.ifindex knows set)
    have own : r.criteria.ifindex = s.criteria.ifindex := alike.values _ (.device knows set)
    rw [knows, (alike.kind set).1 knows, Packet.entersDevice, Packet.entersDevice, device, index,
      wanted, own]
  · have knows' : s.kind ≠ .sawfScs := mt (alike.kind set).2 knows
    rw [beq_false_of_ne knows, beq_false_of_ne knows', Bool.false_and, Bool.false_and]

/-- **A condition that counts comes out the same** where all that is read and seen is the same. -/
theorem flowMeets_congr (alike : r.FlowAlike s) (same : ∀ a, r.FlowSees a → p.AgreesAt q a)
    {c : FlowCondition} (counts : c.counts r.flowFlags = true) :
    r.flowMeets p c = s.flowMeets q c := by
  have value (x : Criterion) {f : FlowFlag} (mem : f ∈ c.flags) (under : x.flowFlag? = some f) :=
    alike.values x (.value counts mem under)
  have seen : p.AgreesAt q c.field := same _ (.field counts)
  -- addresses are compared under a mask, which may be read too; most others field against value
  cases c with
  | srcIpv4 => exact flowMeets_condition_congr alike .srcIpv4 counts seen
  | dstIpv4 => exact flowMeets_condition_congr alike .dstIpv4 counts seen
  | srcIpv6 => exact flowMeets_condition_congr alike .srcIpv6 counts seen
  | dstIpv6 => exact flowMeets_condition_congr alike .dstIpv6 counts seen
  | ipVersion => exact congrArg₂ BEq.beq seen (value .ipVersion (.head _) rfl)
  | srcMac => exact congrArg₂ BEq.beq seen (value .srcMac (.head _) rfl)
  | srcPort => exact congrArg₂ BEq.beq seen (value .srcPort (.head _) rfl)
  | dstPort => exact congrArg₂ BEq.beq seen (value .dstPort (.head _) rfl)
  | protocol => exact congrArg₂ BEq.beq seen (value .protocol (.head _) rfl)
  | dscp => exact congrArg₂ BEq.beq seen (value .dscp (.head _) rfl)
  | vlanPcp =>
    exact congrArg₂ BEq.beq seen (congrArg some (value .vlanPcp (.head _) rfl))
  | vlanId => exact congrArg₂ BEq.beq seen (congrArg some (value .vlanId (.head _) rfl))
  | dstMac =>
    have wanted : r.criteria.dstMac = s.criteria.dstMac := value .dstMac (.head _) rfl
    have set : r.flowFlags.hasFlow .dstMac = true := List.all_eq_true.1 counts _ (.head _)
    exact congrArg₂ or (congrArg₂ BEq.beq seen wanted) (entersDevice_congr alike same set wanted)
  | srcPortRange =>
    have port : p.srcPort = q.srcPort := seen
    have first : r.criteria.srcPortFirst = s.criteria.srcPortFirst :=
      value .srcPortFirst (.head _) rfl
    have last : r.criteria.srcPortLast = s.criteria.srcPortLast :=
      value .srcPortLast (.tail _ (.head _)) rfl
    rw [flowMeets, flowMeets, port, first, last]
  | dstPortRange =>
    have port : p.dstPort = q.dstPort := seen
    have first : r.criteria.dstPortFirst = s.criteria.dstPortFirst :=
      value .dstPortFirst (.head _) rfl
    have last : r.criteria.dstPortLast = s.criteria.dstPortLast :=
      value .dstPortLast (.tail _ (.head _)) rfl
    rw [flowMeets, flowMeets, port, first, last]
  | spi =>
    have spi : p.spi = q.spi := seen
    have pattern : r.criteria.spiValue = s.criteria.spiValue := value .spiValue (.head _) rfl
    have mask : r.criteria.spiMask = s.criteria.spiMask := value .spiMask (.head _) rfl
    rw [flowMeets, flowMeets, spi, pattern, mask]

end Rule

/-! ### Mesh comparisons -/

namespace MeshField

variable {p q : Packet} {f : MeshField}

theorem isIpv4_congr (version : p.version = q.version) : p.network.isIpv4 = q.network.isIpv4 := by
  have told (n : Network) : n.isIpv4 = (n.version == 4) := by cases n <;> rfl
  rw [told, told]
  exact congrArg (· == 4) version

theorem hasPorts_congr (version : p.version = q.version) (protocol : p.protocol = q.protocol) :
    p.hasPorts = q.hasPorts := by
  have told (n : Network) : n.isIp = (n.version != 0) := by cases n <;> rfl
  rw [Packet.hasPorts, Packet.hasPorts, told, told, protocol]
  exact congrArg (fun v => (v != 0) && Packet.isPortProtocol q.protocol) version

/-- Whether a packet is of IPv4 shows in whether it has an address of that family. -/
theorem isIpv4_of_address {a : AddressField} (family : a = .srcIpv4 ∨ a = .dstIpv4)
    (address : a.inPacket? p = a.inPacket? q) : p.network.isIpv4 = q.network.isIpv4 := by
  have told (p : Packet) : p.network.isIpv4 = (a.inPacket? p).isSome := by
    rcases family with rfl | rfl
    · unfold AddressField.inPacket?
      cases p.network <;> rfl
    · unfold AddressField.inPacket?
      cases p.network <;> rfl
  rw [told, told, address]

theorem present_congr (same : ∀ a ∈ f.fields, p.AgreesAt q a) : f.present p = f.present q := by
  cases f with
  | userPriority | srcMac | dstMac => rfl
  | vlanId =>
    have id : p.vlanId = q.vlanId := same _ (.head _)
    have tag (p : Packet) : p.vlanTci.isSome = p.vlanId.isSome := Option.isSome_map.symm
    rw [present, present, tag, tag, id]
  | srcIpv4 => exact isIpv4_of_address (.inl rfl) (same _ (.head _))
  | dstIpv4 => exact isIpv4_of_address (.inr rfl) (same _ (.head _))
  | protocol | dscp => exact isIpv4_congr (same _ (.head _))
  | srcPort | dstPort =>
    have version : p.version = q.version := same _ (.head _)
    have protocol : p.protocol = q.protocol := same _ (.tail _ (.head _))
    exact congrArg₂ and (isIpv4_congr version) (hasPorts_congr version protocol)

theorem agrees_srcIpv4 (c : Criteria) (p : Packet) :
    srcIpv4.agrees c p = (AddressField.srcIpv4.inPacket? p).any fun a : Ipv4 => a == c.srcIpv4 := by
  simp only [agrees, AddressField.inPacket?]
  cases p.network <;> rfl

theorem agrees_dstIpv4 (c : Criteria) (p : Packet) :
    dstIpv4.agrees c p = (AddressField.dstIpv4.inPacket? p).any fun a : Ipv4 => a == c.dstIpv4 := by
  simp only [agrees, AddressField.inPacket?]
  cases p.network <;> rfl

theorem agrees_congr {c c' : Criteria} (same : ∀ a ∈ f.fields, p.AgreesAt q a)
    (wanted : ∀ x : Criterion, x.meshField? = some f → c.AgreesAt c' x) :
    f.agrees c p = f.agrees c' q := by
  cases f with
  | userPriority => exact congrArg₂ BEq.beq (same _ (.head _)) (wanted .userPriority rfl)
  | srcMac => exact congrArg₂ BEq.beq (same _ (.head _)) (wanted .srcMac rfl)
  | dstMac => exact congrArg₂ BEq.beq (same _ (.head _)) (wanted .dstMac rfl)
  | vlanId =>
    exact congrArg₂ BEq.beq (same _ (.head _)) (congrArg some (wanted .vlanId rfl))
  | srcIpv4 =>
    have address : AddressField.srcIpv4.inPacket? p = AddressField.srcIpv4.inPacket? q :=
      same _ (.head _)
    have value : c.srcIpv4 = c'.srcIpv4 := wanted .srcIpv4 rfl
    rw [agrees_srcIpv4, agrees_srcIpv4, address, value]
  | dstIpv4 =>
    have address : AddressField.dstIpv4.inPacket? p = AddressField.dstIpv4.inPacket? q :=
      same _ (.head _)
    have value : c.dstIpv4 = c'.dstIpv4 := wanted .dstIpv4 rfl
    rw [agrees_dstIpv4, agrees_dstIpv4, address, value]
  | srcPort => exact congrArg₂ BEq.beq (same _ (.tail _ (.tail _ (.head _)))) (wanted .srcPort rfl)
  | dstPort => exact congrArg₂ BEq.beq (same _ (.tail _ (.tail _ (.head _)))) (wanted .dstPort rfl)
  | protocol => exact congrArg₂ BEq.beq (same _ (.tail _ (.head _))) (wanted .protocol rfl)
  | dscp => exact congrArg₂ BEq.beq (same _ (.tail _ (.head _))) (wanted .dscp rfl)

end MeshField

namespace Rule

variable {r s : Rule} {p q : Packet}

/-- **A comparison comes out the same** where all that is read and seen is the same. -/
theorem meshAdmits_congr (alike : r.MeshAlike s) (same : ∀ a, r.MeshSees a → p.AgreesAt q a)
    (always : r.meshFlags.alwaysTrue = false) (f : MeshField) :
    r.meshAdmits p f = s.meshAdmits q f := by
  rw [meshAdmits, meshAdmits, ← alike.compares always f]
  cases compared : r.meshFlags.compares f with
  | false => rfl
  | true =>
    have seen : ∀ a ∈ f.fields, p.AgreesAt q a := fun a ha => same a (.field always compared ha)
    have value (x : Criterion) (under : x.meshField? = some f) :=
      alike.values x (.value always compared under)
    rw [MeshField.present_congr seen, MeshField.agrees_congr seen value,
      alike.inverts always f compared]

/-! ### The main result -/

/-- **Only flagged fields matter.** Two rules match the same of two packets, if their flags are the
same and they agree on every value that is read, and the packets on every field that is seen. Flow
matching reads the flow word alone, and mesh matching the mesh word; neither reads the identifier,
the precedence or the treatment. -/
theorem only_flagged_fields_matter (r s : Rule) (p q : Packet) :
    (r.FlowAlike s → (∀ a, r.FlowSees a → p.AgreesAt q a) → r.matchesFlow p = s.matchesFlow q) ∧
      (r.MeshAlike s → (∀ a, r.MeshSees a → p.AgreesAt q a) →
        r.matchesMesh p = s.matchesMesh q) := by
  constructor
  · intro alike same
    rw [Bool.eq_iff_iff, matchesFlow_iff, matchesFlow_iff]
    refine forall_congr' fun c => ?_
    rw [← alike.counts_eq c]
    -- a condition that does not count is not asked, whatever stands under its flags
    refine imp_congr_right fun counts => ?_
    rw [flowMeets_congr alike same counts]
  · intro alike same
    rw [Bool.eq_iff_iff, matchesMesh_iff, matchesMesh_iff, ← alike.always]
    cases always : r.meshFlags.alwaysTrue with
    | true => simp
    | false =>
      refine or_congr_right (forall_congr' fun f => ?_)
      rw [meshAdmits_congr alike same always f]

/-- One rule carries leftovers that the other does not: half a port range, a mask whose address is
not compared, and a hardware address under no flag. Their kinds differ too, and a sense is set for a
field that the mesh word does not compare. -/
theorem only_flagged_fields_matter_of_leftovers :
    let r : Rule := { id := 1, meshFlags := 0x80, flowFlags := 0x22048, criteria :=
      { srcIpv4 := ⟨10, 0, 0, 1⟩, protocol := 6 } }
    let s : Rule := { r with
      id := 2
      kind := .sawfScs
      meshFlags := 0x1080
      criteria := { r.criteria with
        srcMac := ⟨2, 0, 0, 0, 0, 1⟩
        dstIpv4Mask := ⟨255, 0, 0, 0⟩
        srcPortFirst := 1024 } }
    let p : Packet := { network := .ipv4 ⟨10, 0, 0, 1⟩ {}, protocol := 6 }
    let q : Packet :=
      { network := .ipv4 ⟨10, 0, 0, 1⟩ ⟨10, 0, 0, 2⟩, protocol := 6, srcPort := 53, ifindex := 3 }
    (r.FlowAlike s ∧ (∀ a, r.FlowSees a → p.AgreesAt q a) ∧ r.matchesFlow p = s.matchesFlow q) ∧
      r.MeshAlike s ∧ (∀ a, r.MeshSees a → p.AgreesAt q a) ∧
        r.matchesMesh p = s.matchesMesh q := by
  intro r s p q
  have counted (c : FlowCondition) :
      c.counts r.flowFlags = true → c = .srcIpv4 ∨ c = .protocol := by
    cases c <;> decide
  have compared (f : MeshField) : r.meshFlags.compares f = true → f = .srcIpv4 := by
    cases f <;> decide
  have flow : r.FlowAlike s :=
    { flags := fun _ => rfl
      kind := fun set => absurd set (by decide)
      values := by
        rintro x (⟨counts, mem, under⟩ | @⟨f, _, set, mask, -⟩ | ⟨knows, -⟩)
        · rcases counted _ counts with rfl | rfl
          · obtain rfl := List.mem_singleton.1 mem
            cases x <;> first | rfl | cases under
          · obtain rfl := List.mem_singleton.1 mem
            cases x <;> first | rfl | cases under
        · cases f <;> exact absurd (And.intro set mask) (by decide)
        · cases knows }
  have seen : ∀ a, r.FlowSees a → p.AgreesAt q a := by
    rintro a (counts | ⟨knows, -⟩ | ⟨knows, -⟩)
    · rcases counted _ counts with rfl | rfl
      · rfl
      · rfl
    · cases knows
    · cases knows
  have mesh : r.MeshAlike s :=
    { always := by decide
      compares := fun _ f => by cases f <;> decide
      inverts := fun _ f on => by
        obtain rfl := compared f on
        decide
      values := by
        rintro x ⟨-, on, under⟩
        obtain rfl := compared _ on
        cases x <;> first | rfl | cases under }
  have met : ∀ a, r.MeshSees a → p.AgreesAt q a := by
    rintro a ⟨-, on, mem⟩
    obtain rfl := compared _ on
    obtain rfl := List.mem_singleton.1 mem
    rfl
  have matters := only_flagged_fields_matter r s p q
  exact ⟨⟨flow, seen, matters.1 flow seen⟩, mesh, met, matters.2 mesh met⟩

end Rule

end PacketPriority
