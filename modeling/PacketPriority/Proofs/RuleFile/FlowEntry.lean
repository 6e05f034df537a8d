import PacketPriority.Matching.Flow
import PacketPriority.Proofs.Rule.Edits
import PacketPriority.Proofs.RuleFile.EntryRule

/-!
What an entry of a flow kind asks of a packet.

`Entry.asks` says it condition by condition from the values of the entry, as they stand in the file:
no flags, no addresses reduced beforehand, and nothing of what the entry does not give. The rule of
the entry comes to the same by another way. Its flags are those of the edits that the entry gives
(`Entry.counts_flowRule`), its criteria are the values with a default for each that is absent
(`Entry.criteria_flowEdits`), and of a masked address only the bits are kept that the mask selects.
Condition by condition, flag and value together say what the entry asks (`Entry.condition_iff`). The
main result is `Entry.matchesFlow_iff_asks`.
-/

namespace PacketPriority.RuleFile.Entry

variable {e : Entry} {p : Packet}

/-! ### What an entry asks -/

/-- Whether a port lies between the two bounds of a range, or is one of them. -/
def InRange (port : UInt16) (range : List UInt16) : Prop :=
  ∃ first last, range = [first, last] ∧ first.toNat ≤ port.toNat ∧ port.toNat ≤ last.toNat

/-- What an entry asks of a packet under a condition. An address counts under its mask, of which
all bits are set if the entry gives none, and so does an SPI. -/
def asks (e : Entry) (p : Packet) : FlowCondition → Prop
  | .ipVersion => ∀ version ∈ e.ipVersion, p.network.version = version
  | .protocol => ∀ number ∈ e.protocol, p.protocol = number
  | .dscp => ∀ value ∈ e.dscp, p.dscp = value
  | .srcPort => ∀ port ∈ e.srcPort, p.srcPort = port
  | .dstPort => ∀ port ∈ e.dstPort, p.dstPort = port
  | .srcPortRange => ∀ range ∈ e.srcPortRange, InRange p.srcPort range
  | .dstPortRange => ∀ range ∈ e.dstPortRange, InRange p.dstPort range
  | .srcMac => ∀ mac ∈ e.srcMac, p.srcMac = mac
  | .dstMac => ∀ mac ∈ e.dstMac, p.dstMac = mac ∨
      (e.kind = .sawfScs ∧ p.devAddr = mac ∧ p.ifindex = e.ifindex.getD 0)
  | .srcIpv4 => ∀ addr ∈ e.srcIpv4, ∃ src dst, p.network = .ipv4 src dst ∧
      src.mask (e.srcIpv4Mask.getD .allOnes) = addr.mask (e.srcIpv4Mask.getD .allOnes)
  | .dstIpv4 => ∀ addr ∈ e.dstIpv4, ∃ src dst, p.network = .ipv4 src dst ∧
      dst.mask (e.dstIpv4Mask.getD .allOnes) = addr.mask (e.dstIpv4Mask.getD .allOnes)
  | .srcIpv6 => ∀ addr ∈ e.srcIpv6, ∃ src dst, p.network = .ipv6 src dst ∧
      src.mask (e.srcIpv6Mask.getD .allOnes) = addr.mask (e.srcIpv6Mask.getD .allOnes)
  | .dstIpv6 => ∀ addr ∈ e.dstIpv6, ∃ src dst, p.network = .ipv6 src dst ∧
      dst.mask (e.dstIpv6Mask.getD .allOnes) = addr.mask (e.dstIpv6Mask.getD .allOnes)
  | .vlanId => ∀ id ∈ e.vlanId, ∃ tci ∈ p.vlanTci, tci.toNat % 4096 = id.toNat
  | .vlanPcp => ∀ pcp ∈ e.vlanPcp, ∃ tci ∈ p.vlanTci, tci.toNat / 8192 = pcp.toNat
  | .spi => ∀ value ∈ e.spi, p.spi &&& e.spiMask.getD 4294967295 = value

/-! ### The flags of the rule -/

/-- The two bounds of a range. -/
def bounds : Option (List UInt16) → Option (UInt16 × UInt16)
  | some [first, last] => some (first, last)
  | _ => none

theorem rangeEdits_eq (edit : UInt16 → UInt16 → Edit) (range : Option (List UInt16)) :
    rangeEdits edit range = ((bounds range).map fun b => edit b.1 b.2).toList := by
  rcases range with - | - | ⟨first, - | ⟨last, - | ⟨third, rest⟩⟩⟩ <;> rfl

/-- The SPI that an entry gives, with the mask that it counts under. -/
def maskedSpi (e : Entry) : Option (UInt32 × UInt32) :=
  e.spi.map fun value => (value, e.spiMask.getD 4294967295)

theorem spiEdits_eq (e : Entry) :
    e.spi.map (Edit.spi · (e.spiMask.getD 4294967295)) =
      e.maskedSpi.map fun s => Edit.spi s.1 s.2 := by
  rw [maskedSpi, Option.map_map]
  rfl

/-- Whether an entry gives what a flow flag switches on. -/
def givesFlow (e : Entry) : FlowFlag → Bool
  | .ipVersion => e.ipVersion.isSome
  | .srcMac => e.srcMac.isSome
  | .dstMac => e.dstMac.isSome
  | .srcIpv4 => e.srcIpv4.isSome
  | .srcIpv4Mask => e.srcIpv4Mask.isSome
  | .dstIpv4 => e.dstIpv4.isSome
  | .dstIpv4Mask => e.dstIpv4Mask.isSome
  | .srcIpv6 => e.srcIpv6.isSome
  | .srcIpv6Mask => e.srcIpv6Mask.isSome
  | .dstIpv6 => e.dstIpv6.isSome
  | .dstIpv6Mask => e.dstIpv6Mask.isSome
  | .srcPort => e.srcPort.isSome
  | .dstPort => e.dstPort.isSome
  | .srcPortFirst | .srcPortLast => (bounds e.srcPortRange).isSome
  | .dstPortFirst | .dstPortLast => (bounds e.dstPortRange).isSome
  | .protocol => e.protocol.isSome
  | .vlanId => e.vlanId.isSome
  | .vlanPcp => e.vlanPcp.isSome
  | .dscp => e.dscp.isSome
  | .spi => e.maskedSpi.isSome

theorem any_flowEdits (e : Entry) (f : FlowFlag) :
    (e.flowEdits.any fun ed => ed.flowFlags.contains f) = e.givesFlow f := by
  unfold flowEdits
  rw [rangeEdits_eq, rangeEdits_eq, spiEdits_eq]
  simp only [List.any_append, any_option, Edit.flowFlags]
  cases f <;> simp [givesFlow]

theorem any_flowEdits_meshBits (e : Entry) (bit : Nat) :
    (e.flowEdits.any fun ed => ed.meshBits.contains bit) = false := by
  unfold flowEdits
  rw [rangeEdits_eq, rangeEdits_eq, spiEdits_eq]
  simp only [List.any_append, any_option, Edit.meshBits]
  simp

/-! ### The criteria of the rule -/

/-- The values that the flow fields of an entry give, with what stands in a blank rule for those
that are absent. -/
def flowCriteria (e : Entry) : Criteria where
  srcMac := e.srcMac.getD {}
  dstMac := e.dstMac.getD {}
  srcIpv4 := e.srcIpv4.getD {}
  srcIpv4Mask := e.srcIpv4Mask.getD {}
  dstIpv4 := e.dstIpv4.getD {}
  dstIpv4Mask := e.dstIpv4Mask.getD {}
  srcIpv6 := e.srcIpv6.getD {}
  srcIpv6Mask := e.srcIpv6Mask.getD {}
  dstIpv6 := e.dstIpv6.getD {}
  dstIpv6Mask := e.dstIpv6Mask.getD {}
  srcPort := e.srcPort.getD 0
  dstPort := e.dstPort.getD 0
  srcPortFirst := ((bounds e.srcPortRange).getD (0, 0)).1
  srcPortLast := ((bounds e.srcPortRange).getD (0, 0)).2
  dstPortFirst := ((bounds e.dstPortRange).getD (0, 0)).1
  dstPortLast := ((bounds e.dstPortRange).getD (0, 0)).2
  vlanId := e.vlanId.getD 0
  vlanPcp := e.vlanPcp.getD 0
  dscp := e.dscp.getD 0
  protocol := e.protocol.getD 0
  spiValue := (e.maskedSpi.getD (0, 0)).1
  spiMask := (e.maskedSpi.getD (0, 0)).2
  ifindex := e.ifindex.getD 0
  ipVersion := e.ipVersion.getD 0

theorem criteria_flowEdits (e : Entry) : e.flowEdits.foldl Edit.onCriteria {} = e.flowCriteria := by
  unfold flowEdits
  rw [rangeEdits_eq, rangeEdits_eq, spiEdits_eq]
  simp only [List.foldl_append, Edit.onCriteria, Edit.apply, Rule.withFlow,
    foldl_option .ipVersion (·.ipVersion) fun _ => rfl,
    foldl_option .srcMac (·.srcMac) fun _ => rfl,
    foldl_option .dstMac (·.dstMac) fun _ => rfl,
    foldl_option .srcIpv4 (·.srcIpv4) fun _ => rfl,
    foldl_option .srcIpv4Mask (·.srcIpv4Mask) fun _ => rfl,
    foldl_option .dstIpv4 (·.dstIpv4) fun _ => rfl,
    foldl_option .dstIpv4Mask (·.dstIpv4Mask) fun _ => rfl,
    foldl_option .srcIpv6 (·.srcIpv6) fun _ => rfl,
    foldl_option .srcIpv6Mask (·.srcIpv6Mask) fun _ => rfl,
    foldl_option .dstIpv6 (·.dstIpv6) fun _ => rfl,
    foldl_option .dstIpv6Mask (·.dstIpv6Mask) fun _ => rfl,
    foldl_option .srcPort (·.srcPort) fun _ => rfl,
    foldl_option .dstPort (·.dstPort) fun _ => rfl,
    foldl_option (fun b => .srcPortRange b.1 b.2) (fun c => (c.srcPortFirst, c.srcPortLast))
      fun _ => rfl,
    foldl_option (fun b => .dstPortRange b.1 b.2) (fun c => (c.dstPortFirst, c.dstPortLast))
      fun _ => rfl,
    foldl_option .protocol (·.protocol) fun _ => rfl,
    foldl_option .dscp (·.dscp) fun _ => rfl,
    foldl_option .vlanId (·.vlanId) fun _ => rfl,
    foldl_option .vlanPcp (·.vlanPcp) fun _ => rfl,
    foldl_option (fun s => .spi s.1 s.2) (fun c => (c.spiValue, c.spiMask)) fun _ => rfl,
    foldl_option .ifindex (·.ifindex) fun _ => rfl]
  rfl

/-! ### The rule -/

theorem hasFlow_flowRule (flow : e.kind ≠ .mesh) (f : FlowFlag) :
    e.rule.flowFlags.hasFlow f = e.givesFlow f := by
  rw [hasFlow_rule, criteriaEdits, if_neg flow, any_flowEdits]

theorem meshFlags_flowRule (flow : e.kind ≠ .mesh) : e.rule.meshFlags = 0 := by
  refine Flags.ext fun bit => ?_
  rw [has_rule, criteriaEdits, if_neg flow, any_flowEdits_meshBits, Flags.has_zero]

theorem counts_flowRule (flow : e.kind ≠ .mesh) (c : FlowCondition) :
    c.counts e.rule.flowFlags = c.flags.all e.givesFlow :=
  congrArg c.flags.all (funext (hasFlow_flowRule flow))

/-- An address as the rule keeps it: reduced, if the entry gives a mask. -/
def reduced {α : Type} (mask : α → α → α) (blank addr : α) (m : Option α) : α :=
  if m.isSome then mask addr (m.getD blank) else addr

theorem criteria_flowRule (flow : e.kind ≠ .mesh) :
    e.rule.criteria = { e.flowCriteria with
      srcIpv4 := reduced .mask {} (e.srcIpv4.getD {}) e.srcIpv4Mask
      dstIpv4 := reduced .mask {} (e.dstIpv4.getD {}) e.dstIpv4Mask
      srcIpv6 := reduced .mask {} (e.srcIpv6.getD {}) e.srcIpv6Mask
      dstIpv6 := reduced .mask {} (e.dstIpv6.getD {}) e.dstIpv6Mask } := by
  rw [criteria_rule, criteriaEdits, if_neg flow, criteria_flowEdits]
  simp only [Rule.canonical, hasFlow_flowRule flow]
  rfl

/-- The mask of an address, as the rule reads it. -/
theorem flagged_flowRule {α : Type} (flow : e.kind ≠ .mesh) {f : FlowFlag} {m : Option α} {d : α}
    (given : e.givesFlow f = m.isSome) : e.rule.flagged f (m.getD d) = m := by
  rw [Rule.flagged, hasFlow_flowRule flow, given]
  cases m <;> rfl

/-! ### Conditions -/

/-- A condition that counts if a value is given, and compares with it, asks for that value. -/
theorem given_iff {α : Type} {P Q : α → Prop} {o : Option α} {d : α} (same : ∀ a, P a ↔ Q a) :
    (o.isSome = true → P (o.getD d)) ↔ ∀ a ∈ o, Q a := by
  cases o with
  | none => simp
  | some a => simp [same]

theorem equal_iff {α : Type} [BEq α] [LawfulBEq α] {x : α} {o : Option α} {d : α} :
    (o.isSome = true → (x == o.getD d) = true) ↔ ∀ a ∈ o, x = a :=
  given_iff (P := fun a => (x == a) = true) fun _ => beq_iff_eq

/-- A reduced address is compared under the mask by which it has been reduced. -/
theorem ipv4_iff (network : Network) (side : Ipv4 → Ipv4 → Ipv4) (o m : Option Ipv4) :
    (o.isSome = true → (match network with
      | .ipv4 src dst => (reduced .mask {} (o.getD {}) m).agrees m (side src dst)
      | _ => false) = true) ↔
    ∀ addr ∈ o, ∃ src dst, network = .ipv4 src dst ∧
      (side src dst).mask (m.getD .allOnes) = addr.mask (m.getD .allOnes) := by
  cases o with
  | none => simp
  | some addr =>
    rcases network with ⟨src, dst⟩ | ⟨src, dst⟩ | -
    case ipv4 => cases m <;> simp [reduced, Ipv4.agrees, Ipv4.mask_allOnes]
    all_goals simp

theorem ipv6_iff (network : Network) (side : Ipv6 → Ipv6 → Ipv6) (o m : Option Ipv6) :
    (o.isSome = true → (match network with
      | .ipv6 src dst => (reduced .mask {} (o.getD {}) m).agrees m (side src dst)
      | _ => false) = true) ↔
    ∀ addr ∈ o, ∃ src dst, network = .ipv6 src dst ∧
      (side src dst).mask (m.getD .allOnes) = addr.mask (m.getD .allOnes) := by
  cases o with
  | none => simp
  | some addr =>
    rcases network with ⟨src, dst⟩ | ⟨src, dst⟩ | -
    case ipv6 => cases m <;> simp [reduced, Ipv6.agrees, Ipv6.mask_allOnes]
    all_goals simp

theorem inRange_iff {port first last : UInt16} :
    InRange port [first, last] ↔ first ≤ port ∧ port ≤ last := by
  simp only [InRange, UInt16.le_iff_toNat_le]
  constructor
  · rintro ⟨first, last, same, low, high⟩
    cases same
    exact ⟨low, high⟩
  · rintro ⟨low, high⟩
    exact ⟨_, _, rfl, low, high⟩

/-- A range that is accepted has two bounds, between which the port has to lie. -/
theorem range_iff {field : String} {range : Option (List UInt16)} {port : UInt16}
    (accepted : rangeFault field range = none) :
    ((bounds range).isSome = true → decide (((bounds range).getD (0, 0)).1 ≤ port ∧
      port ≤ ((bounds range).getD (0, 0)).2) = true) ↔ ∀ r ∈ range, InRange port r := by
  rw [decide_eq_true_iff]
  rcases range with - | - | ⟨first, - | ⟨last, - | ⟨third, rest⟩⟩⟩
  case none => simp [bounds]
  case some.cons.cons.nil => simp [bounds, inRange_iff]
  -- a list of another length is refused
  all_goals cases accepted

/-- **Condition by condition** the rule of an entry compares what the entry asks for. -/
theorem condition_iff (flow : e.kind ≠ .mesh)
    (srcRange : rangeFault "src_port_range" e.srcPortRange = none)
    (dstRange : rangeFault "dst_port_range" e.dstPortRange = none)
    (c : FlowCondition) :
    (c.counts e.rule.flowFlags = true → e.rule.flowMeets p c = true) ↔ e.asks p c := by
  rw [counts_flowRule flow]
  cases c <;>
    simp only [FlowCondition.flags, List.all_cons, List.all_nil, Bool.and_true, Bool.and_self,
      givesFlow, Rule.flowMeets, criteria_flowRule flow, flowCriteria, asks]
  case ipVersion | protocol | dscp | srcPort | dstPort | srcMac => exact equal_iff
  case vlanId => exact given_iff fun id => beq_iff_eq.trans (p.vlanId_eq_some_iff id)
  case vlanPcp => exact given_iff fun pcp => beq_iff_eq.trans (p.vlanPcp_eq_some_iff pcp)
  case dstMac =>
    -- the packet may also go to the device itself, which only a rule of one kind asks about
    refine given_iff (P := fun mac => (p.dstMac == mac || e.rule.kind == .sawfScs &&
      (p.devAddr == mac && p.ifindex == e.ifindex.getD 0)) = true) fun mac => ?_
    simp [e.rule_head.2.1]
  case srcPortRange => exact range_iff srcRange
  case dstPortRange => exact range_iff dstRange
  -- an address has a flag and a value, and a second flag and value for its mask
  case srcIpv4 =>
    rw [flagged_flowRule flow rfl]
    exact ipv4_iff p.network (fun src _ => src) e.srcIpv4 e.srcIpv4Mask
  case dstIpv4 =>
    rw [flagged_flowRule flow rfl]
    exact ipv4_iff p.network (fun _ dst => dst) e.dstIpv4 e.dstIpv4Mask
  case srcIpv6 =>
    rw [flagged_flowRule flow rfl]
    exact ipv6_iff p.network (fun src _ => src) e.srcIpv6 e.srcIpv6Mask
  case dstIpv6 =>
    rw [flagged_flowRule flow rfl]
    exact ipv6_iff p.network (fun _ dst => dst) e.dstIpv6 e.dstIpv6Mask
  case spi =>
    rw [maskedSpi]
    cases e.spi <;> simp

/-! ### The main result -/

/-- Nothing is wrong with a flow entry if it gives nothing of a mesh rule, each mask has its
address, and its ranges have two bounds in order. -/
theorem flowFault_eq_none_iff (e : Entry) : e.flowFault = none ↔
    (e.alwaysTrue || !e.sense.isEmpty || e.userPriority.isSome) = false ∧
      e.orphanMasks.find? (·.2) = none ∧
      rangeFault "src_port_range" e.srcPortRange = none ∧
      rangeFault "dst_port_range" e.dstPortRange = none := by
  unfold flowFault
  split
  · rename_i meshOnly
    simp only [meshOnly, reduceCtorEq, false_and]
  · rename_i flowOnly
    split
    · rename_i found
      simp only [found, reduceCtorEq, false_and, and_false]
    · rename_i masks
      simp only [Bool.eq_false_iff.2 flowOnly, masks, Option.or_eq_none_iff, true_and]

theorem flowFault_of_fault (flow : e.kind ≠ .mesh) (sound : e.fault = none) :
    e.flowFault = none := by
  rw [fault, if_neg flow] at sound
  split at sound
  · cases sound
  · exact sound

/-- **What the rule of a flow entry matches**: an entry of a flow kind that is accepted adds a rule,
and this matches exactly the packets that meet all that the entry asks. -/
theorem matchesFlow_iff_asks {q : Request} (adds : e.command = .add) (flow : e.kind ≠ .mesh)
    (accepted : e.toRequest = .ok q) :
    q.command = .add ∧ ∀ p, q.rule.matchesFlow p = true ↔ ∀ c, e.asks p c := by
  obtain ⟨sound, rfl⟩ := (toRequest_eq_ok_iff adds).1 accepted
  obtain ⟨-, -, srcRange, dstRange⟩ := (flowFault_eq_none_iff e).1 (flowFault_of_fault flow sound)
  refine ⟨rfl, fun p => ?_⟩
  show e.rule.matchesFlow p = true ↔ _
  rw [Rule.matchesFlow_iff]
  exact forall_congr' (condition_iff flow srcRange dstRange)

/-- The packet goes to another address than the entry gives, but over the device that has it; its
source agrees with the entry's in the bits of the mask. -/
theorem matchesFlow_iff_asks_of_device :
    let e : Entry :=
      { id := 7, kind := .sawfScs, dstMac := some ⟨2, 0, 0, 0, 0, 1⟩, ifindex := some 3,
        srcIpv4 := some ⟨10, 1, 2, 3⟩, srcIpv4Mask := some ⟨255, 255, 0, 0⟩,
        srcPortRange := some [1000, 2000], vlanId := some 5, spi := some 16, spiMask := some 240 }
    let p : Packet :=
      { dstMac := ⟨6, 5, 4, 3, 2, 1⟩, devAddr := ⟨2, 0, 0, 0, 0, 1⟩, ifindex := 3,
        network := .ipv4 ⟨10, 1, 9, 9⟩ {}, srcPort := 2000, vlanTci := some 40965, spi := 31 }
    ∃ q, e.toRequest = .ok q ∧ q.rule.matchesFlow p = true ∧ (∀ c, e.asks p c) ∧
      ¬ ∀ c, e.asks { p with ifindex := 4 } c := by
  intro e p
  have accepted : e.toRequest = .ok (.add e.rule) := by decide +kernel
  have matching := (matchesFlow_iff_asks (by decide) (by decide) accepted).2
  refine ⟨.add e.rule, accepted, by decide +kernel, (matching p).1 (by decide +kernel), ?_⟩
  rw [← matching]
  decide +kernel

end PacketPriority.RuleFile.Entry
