import PacketPriority.Proofs.Matching.Sense
import PacketPriority.Proofs.Rule.Edits
import PacketPriority.Proofs.RuleFile.EntryRule

/-!
What a mesh entry asks of a packet.

`Entry.MeshAsks` says it from the values of the entry as they stand in the file: each field that is
given compares as its sense wants, and the packet has what the comparison needs, whatever the sense.
The rule of the entry keeps the first half in two bits for each field (`Entry.compares_rule`,
`Entry.inverts_rule`) and a value for each, the second half is in the matching. The main result is
`Entry.matchesMesh_iff_asks`; there also the names of the inverted fields count as a set.
-/

namespace PacketPriority

/-! ### All fields -/

namespace MeshField

/-- Of all fields one counts. -/
theorem any_all_eq (P : MeshField → Bool) (f : MeshField) :
    (all.any fun g => P g && decide (g = f)) = P f := by
  rw [Bool.eq_iff_iff, List.any_eq_true]
  constructor
  · rintro ⟨g, -, h⟩
    obtain ⟨hg, rfl⟩ : P g = true ∧ g = f := by simpa using h
    exact hg
  · intro h
    exact ⟨f, f.mem_all, by simpa using h⟩

end MeshField

namespace RuleFile.Entry

variable {e : Entry} {p : Packet}

/-! ### What an entry asks -/

/-- The packet's value of a mesh field is the one that the entry gives. -/
def Equals (e : Entry) (p : Packet) : MeshField → Prop
  | .userPriority => e.userPriority = some p.priority
  | .srcMac => e.srcMac = some p.srcMac
  | .dstMac => e.dstMac = some p.dstMac
  | .vlanId => ∃ tci ∈ p.vlanTci, ∃ id ∈ e.vlanId, tci.toNat % 4096 = id.toNat
  | .srcIpv4 => ∃ src dst, p.network = .ipv4 src dst ∧ e.srcIpv4 = some src
  | .dstIpv4 => ∃ src dst, p.network = .ipv4 src dst ∧ e.dstIpv4 = some dst
  | .srcPort => e.srcPort = some p.srcPort
  | .dstPort => e.dstPort = some p.dstPort
  | .protocol => e.protocol = some p.protocol
  | .dscp => e.dscp = some p.dscp

/-- What a mesh entry asks of a packet: of each field that it gives a value that is equal, or that
is not if the entry lists the field's name, and that the packet has the fields. -/
structure MeshAsks (e : Entry) (p : Packet) : Prop where
  values : ∀ f : MeshField, e.gives f = true →
    if f.name ∈ e.sense then ¬ e.Equals p f else e.Equals p f
  tagged : e.vlanId.isSome = true → ∃ tci, p.vlanTci = some tci
  ipv4 : (e.srcIpv4.isSome = true ∨ e.dstIpv4.isSome = true ∨ e.srcPort.isSome = true ∨
    e.dstPort.isSome = true ∨ e.protocol.isSome = true ∨ e.dscp.isSome = true) →
      ∃ src dst, p.network = .ipv4 src dst
  ports : (e.srcPort.isSome = true ∨ e.dstPort.isSome = true) → p.protocol = 6 ∨ p.protocol = 17

/-! ### The flags of the rule -/

theorem any_meshEdits_meshBits (e : Entry) (bit : Nat) :
    (e.meshEdits.any fun ed => ed.meshBits.contains bit) =
      (e.alwaysTrue && decide (bit = MeshField.alwaysTrueBit) ||
        MeshField.all.any fun f => e.gives f && (f.bits (e.inverts f)).contains bit) := by
  have const {α : Type} (o : Option α) (b : Bool) : (o.any fun _ => b) = (o.isSome && b) := by
    cases o <;> rfl
  have always : ((if e.alwaysTrue then [Edit.alwaysTrue] else []).any
      fun ed => ed.meshBits.contains bit) =
        (e.alwaysTrue && decide (bit = MeshField.alwaysTrueBit)) := by
    cases e.alwaysTrue <;> simp [Edit.meshBits]
  unfold meshEdits
  simp only [List.any_append, always]
  simp only [any_option, Edit.meshBits, const, MeshField.all, List.any_cons, List.any_nil, gives,
    Bool.or_false, Bool.or_assoc]

theorem any_meshEdits_flowFlags (e : Entry) (f : FlowFlag) :
    (e.meshEdits.any fun ed => ed.flowFlags.contains f) = false := by
  unfold meshEdits
  simp only [List.any_append, any_option, Edit.flowFlags]
  simp

section

variable (mesh : e.kind = .mesh)

include mesh

theorem flowFlags_meshRule : e.rule.flowFlags = 0 := by
  have none : ∀ ed ∈ e.criteriaEdits, ed.flowFlags = [] := by
    intro ed hed
    rw [criteriaEdits, if_pos mesh] at hed
    refine List.eq_nil_iff_forall_not_mem.2 fun f hf => ?_
    have absent := List.any_eq_false.1 (e.any_meshEdits_flowFlags f) ed hed
    exact absent (List.contains_iff_mem.2 hf)
  rw [rule_eq]
  exact Rule.flowFlags_edited none e.bareRule

theorem hasFlow_meshRule (f : FlowFlag) : e.rule.flowFlags.hasFlow f = false := by
  rw [flowFlags_meshRule mesh, Flags.hasFlow, Flags.has_zero]

theorem has_meshRule (bit : Nat) :
    e.rule.meshFlags.has bit = (e.alwaysTrue && decide (bit = MeshField.alwaysTrueBit) ||
      MeshField.all.any fun f => e.gives f && (f.bits (e.inverts f)).contains bit) := by
  rw [has_rule, criteriaEdits, if_pos mesh, any_meshEdits_meshBits]

theorem compares_rule (f : MeshField) : e.rule.meshFlags.compares f = e.gives f := by
  have other := f.bit_ne_alwaysTrueBit
  simp only [Flags.compares, has_meshRule mesh, MeshField.contains_bits_bit, MeshField.any_all_eq]
  simp [other]

theorem inverts_rule (f : MeshField) :
    e.rule.meshFlags.inverts f = (e.gives f && e.inverts f) := by
  have other := f.senseBit_ne_alwaysTrueBit
  simp only [Flags.inverts, has_meshRule mesh, MeshField.contains_bits_senseBit, ← Bool.and_assoc,
    MeshField.any_all_eq]
  simp [other]

theorem alwaysTrue_rule : e.rule.meshFlags.alwaysTrue = e.alwaysTrue := by
  simp only [Flags.alwaysTrue, has_meshRule mesh, MeshField.contains_bits_alwaysTrueBit]
  simp

end

/-! ### The criteria of the rule -/

/-- The values that the mesh fields of an entry give, with what stands in a blank rule for those
that are absent. -/
def meshCriteria (e : Entry) : Criteria where
  userPriority := e.userPriority.getD 0
  srcMac := e.srcMac.getD {}
  dstMac := e.dstMac.getD {}
  vlanId := e.vlanId.getD 0
  srcIpv4 := e.srcIpv4.getD {}
  dstIpv4 := e.dstIpv4.getD {}
  srcPort := e.srcPort.getD 0
  dstPort := e.dstPort.getD 0
  protocol := e.protocol.getD 0
  dscp := e.dscp.getD 0

theorem criteria_meshEdits (e : Entry) : e.meshEdits.foldl Edit.onCriteria {} = e.meshCriteria := by
  have always : (if e.alwaysTrue then [Edit.alwaysTrue] else []).foldl Edit.onCriteria {} = {} := by
    cases e.alwaysTrue <;> rfl
  unfold meshEdits
  simp only [List.foldl_append, always]
  simp only [Edit.onCriteria, Edit.apply, Rule.withMesh,
    foldl_option (.meshUserPriority · _) (·.userPriority) fun _ => rfl,
    foldl_option (.meshSrcMac · _) (·.srcMac) fun _ => rfl,
    foldl_option (.meshDstMac · _) (·.dstMac) fun _ => rfl,
    foldl_option (.meshVlanId · _) (·.vlanId) fun _ => rfl,
    foldl_option (.meshSrcIpv4 · _) (·.srcIpv4) fun _ => rfl,
    foldl_option (.meshDstIpv4 · _) (·.dstIpv4) fun _ => rfl,
    foldl_option (.meshSrcPort · _) (·.srcPort) fun _ => rfl,
    foldl_option (.meshDstPort · _) (·.dstPort) fun _ => rfl,
    foldl_option (.meshProtocol · _) (·.protocol) fun _ => rfl,
    foldl_option (.meshDscp · _) (·.dscp) fun _ => rfl]
  rfl

/-- No address of a mesh rule is reduced, as it has no mask. -/
theorem criteria_meshRule (mesh : e.kind = .mesh) : e.rule.criteria = e.meshCriteria := by
  rw [criteria_rule, criteriaEdits, if_pos mesh, criteria_meshEdits]
  simp only [Rule.canonical, hasFlow_meshRule mesh]
  rfl

/-! ### Comparisons -/

theorem beq_getD_iff {α : Type} [BEq α] [LawfulBEq α] {x d : α} {o : Option α}
    (given : o.isSome = true) : (x == o.getD d) = true ↔ o = some x := by
  obtain ⟨a, rfl⟩ := Option.isSome_iff_exists.1 given
  rw [Option.getD_some, beq_iff_eq, Option.some_inj]
  exact eq_comm

/-- The rule compares with what the entry gives. -/
theorem agrees_rule_iff (mesh : e.kind = .mesh) {f : MeshField} (given : e.gives f = true) :
    f.agrees e.rule.criteria p = true ↔ e.Equals p f := by
  rw [criteria_meshRule mesh]
  cases f
  case vlanId =>
    obtain ⟨id, hid⟩ := Option.isSome_iff_exists.1 given
    simp [MeshField.agrees, meshCriteria, Equals, hid, p.vlanId_eq_some_iff]
  case srcIpv4 =>
    have same (src : Ipv4) := beq_getD_iff (x := src) (d := {}) (o := e.srcIpv4) given
    cases hn : p.network <;> simp only [MeshField.agrees, meshCriteria, Equals, hn, same] <;> simp
  case dstIpv4 =>
    have same (dst : Ipv4) := beq_getD_iff (x := dst) (d := {}) (o := e.dstIpv4) given
    cases hn : p.network <;> simp only [MeshField.agrees, meshCriteria, Equals, hn, same] <;> simp
  all_goals exact beq_getD_iff given

theorem meshAdmits_rule_iff (mesh : e.kind = .mesh) (f : MeshField) :
    e.rule.meshAdmits p f = true ↔ (e.gives f = true → f.present p = true ∧
      if f.name ∈ e.sense then ¬ e.Equals p f else e.Equals p f) := by
  rw [Rule.meshAdmits, compares_rule mesh, inverts_rule mesh]
  cases given : e.gives f with
  | false => simp
  | true =>
    rw [← agrees_rule_iff mesh given]
    by_cases listed : f.name ∈ e.sense
    · simp [inverts, listed]
    · simp [inverts, listed]

/-! ### Fields that a packet has -/

/-- A packet has the fields that an entry gives if it is tagged, of IPv4 and with ports, as far as
one of them needs it. -/
theorem forall_present_iff :
    (∀ f, e.gives f = true → f.present p = true) ↔
      (e.vlanId.isSome = true → ∃ tci, p.vlanTci = some tci) ∧
      ((e.srcIpv4.isSome = true ∨ e.dstIpv4.isSome = true ∨ e.srcPort.isSome = true ∨
        e.dstPort.isSome = true ∨ e.protocol.isSome = true ∨ e.dscp.isSome = true) →
          ∃ src dst, p.network = .ipv4 src dst) ∧
      ((e.srcPort.isSome = true ∨ e.dstPort.isSome = true) → p.protocol = 6 ∨ p.protocol = 17) := by
  simp only [MeshField.present_iff]
  constructor
  · intro comparable
    refine ⟨comparable .vlanId, ?_, ?_⟩
    · rintro (given | given | given | given | given | given)
      · exact comparable .srcIpv4 given
      · exact comparable .dstIpv4 given
      · exact (comparable .srcPort given).1
      · exact (comparable .dstPort given).1
      · exact comparable .protocol given
      · exact comparable .dscp given
    · rintro (given | given)
      · exact (comparable .srcPort given).2
      · exact (comparable .dstPort given).2
  · rintro ⟨tagged, ipv4, ports⟩ f given
    cases f with
    | userPriority | srcMac | dstMac => trivial
    | vlanId => exact tagged given
    | srcIpv4 => exact ipv4 (.inl given)
    | dstIpv4 => exact ipv4 (.inr (.inl given))
    | srcPort => exact ⟨ipv4 (.inr (.inr (.inl given))), ports (.inl given)⟩
    | dstPort => exact ⟨ipv4 (.inr (.inr (.inr (.inl given)))), ports (.inr given)⟩
    | protocol => exact ipv4 (.inr (.inr (.inr (.inr (.inl given)))))
    | dscp => exact ipv4 (.inr (.inr (.inr (.inr (.inr given)))))

/-- **Field by field** the rule of a mesh entry compares what the entry asks for. -/
theorem matchesMesh_rule_iff (mesh : e.kind = .mesh) :
    e.rule.matchesMesh p = true ↔ e.alwaysTrue = true ∨ e.MeshAsks p := by
  rw [Rule.matchesMesh_iff, alwaysTrue_rule mesh]
  refine or_congr_right ?_
  simp only [meshAdmits_rule_iff mesh]
  constructor
  · intro admits
    obtain ⟨tagged, ipv4, ports⟩ := forall_present_iff.1 fun f given => (admits f given).1
    exact ⟨fun f given => (admits f given).2, tagged, ipv4, ports⟩
  · intro asks f given
    have present := forall_present_iff.2 ⟨asks.tagged, asks.ipv4, asks.ports⟩
    exact ⟨present f given, asks.values f given⟩

/-! ### The list of inverted fields -/

/-- Nothing is wrong with a mesh entry if it gives no field of a flow, lists only names of mesh
fields, and gives what it lists. -/
theorem meshFault_eq_none_iff (e : Entry) : e.meshFault = none ↔
    e.flowOnly.find? (·.2) = none ∧ e.sense.find? (!MeshField.isName ·) = none ∧
      MeshField.all.find? (fun f => !e.gives f && e.inverts f) = none := by
  unfold meshFault
  split
  · rename_i found
    simp only [found, reduceCtorEq, false_and]
  · rename_i flowOnly
    split
    · rename_i found
      simp only [found, reduceCtorEq, false_and, and_false]
    · rename_i names
      simp only [flowOnly, names, Option.map_eq_none_iff, true_and]

section

variable {sense : List String} (same : ∀ name, name ∈ sense ↔ name ∈ e.sense)

include same

theorem inverts_of_sense : ({ e with sense := sense } : Entry).inverts = e.inverts := by
  funext f
  exact Bool.eq_iff_iff.2 (by simpa [inverts] using same f.name)

theorem rule_of_sense : ({ e with sense := sense } : Entry).rule = e.rule := by
  have meshEdits : ({ e with sense := sense } : Entry).meshEdits = e.meshEdits := by
    unfold meshEdits
    rw [inverts_of_sense same]
  rw [rule, rule, edits, edits, meshEdits]
  rfl

theorem fault_of_sense (mesh : e.kind = .mesh) (sound : e.fault = none) :
    ({ e with sense := sense } : Entry).fault = none := by
  rw [fault, if_pos mesh] at sound
  split at sound
  · cases sound
  · rename_i inRange
    obtain ⟨flowOnly, names, given⟩ := (meshFault_eq_none_iff e).1 sound
    have known := List.find?_eq_none.1 names
    rw [fault, if_neg inRange, if_pos mesh, meshFault_eq_none_iff, inverts_of_sense same]
    refine ⟨flowOnly, List.find?_eq_none.2 fun name hname => ?_, given⟩
    exact known name ((same name).1 hname)

end

/-! ### The main result -/

/-- **What the rule of a mesh entry matches**: a mesh entry that is accepted adds a rule, and this
matches the packets that meet all that the entry asks, or every packet if the entry says so. Of the
list of inverted fields only the members count, not their order or how often one stands there. -/
theorem matchesMesh_iff_asks {q : Request} (adds : e.command = .add) (mesh : e.kind = .mesh)
    (accepted : e.toRequest = .ok q) :
    q.command = .add ∧
      (∀ p, q.rule.matchesMesh p = true ↔ e.alwaysTrue = true ∨ e.MeshAsks p) ∧
      ∀ sense : List String, (∀ name, name ∈ sense ↔ name ∈ e.sense) →
        ({ e with sense := sense } : Entry).toRequest = .ok q := by
  obtain ⟨sound, rfl⟩ := (toRequest_eq_ok_iff adds).1 accepted
  refine ⟨rfl, fun p => matchesMesh_rule_iff mesh, fun sense same => ?_⟩
  refine (toRequest_eq_ok_iff (e := { e with sense := sense }) adds).2
    ⟨fault_of_sense same mesh sound, ?_⟩
  rw [rule_of_sense same]

/-- An inverted port still asks for a packet that has ports, and an inverted tag for a tag. -/
theorem matchesMesh_iff_asks_of_inverted :
    let e : Entry :=
      { id := 3, kind := .mesh, srcPort := some 80, vlanId := some 9,
        sense := ["vlan_id", "src_port"] }
    let p : Packet :=
      { network := .ipv4 {} {}, protocol := 17, srcPort := 443, vlanTci := some 10 }
    ∃ q, e.toRequest = .ok q ∧ q.rule.matchesMesh p = true ∧ e.MeshAsks p ∧
      ¬ e.MeshAsks { p with protocol := 1 } ∧ ¬ e.MeshAsks { p with vlanTci := none } ∧
      ({ e with sense := ["src_port", "vlan_id", "src_port"] } : Entry).toRequest = .ok q := by
  intro e p
  have accepted : e.toRequest = .ok (.add e.rule) := by decide +kernel
  obtain ⟨-, matching, sense⟩ := matchesMesh_iff_asks (by decide) (by decide) accepted
  have asks (p : Packet) : e.MeshAsks p ↔ e.rule.matchesMesh p = true := by
    simpa [Request.add] using (matching p).symm
  refine ⟨.add e.rule, accepted, by decide +kernel, (asks p).2 (by decide +kernel), ?_, ?_, ?_⟩
  · rw [asks]
    decide +kernel
  · rw [asks]
    decide +kernel
  · exact sense _ (by simp [e, or_comm])

end RuleFile.Entry

end PacketPriority
