import PacketPriority.Rule.Build

/-!
What edits leave behind in a rule.

An edit stores values and sets flags, and it takes no flag away. So a flag of an edited rule is set
exactly if it was set before or one of the edits sets it, in whatever order they come
(`hasFlow_edited` for the flow word, `has_edited` for the mesh word). Values are stored over one
another, so that of each the last one given is left (`stored_edited`): what an edited rule compares
with is a fold of the edits over what the rule compared with before (`criteria_edited`), and nothing
else of the rule has a part in it.
-/

namespace PacketPriority

/-! ### The bits of a mesh field -/

/-- The bits that the comparison of a mesh field sets. -/
def MeshField.bits (f : MeshField) (inverted : Bool) : List Nat :=
  if inverted then [f.bit, f.senseBit] else [f.bit]

namespace MeshField

/-- Only its own comparison switches a field on. -/
theorem contains_bits_bit (f g : MeshField) (inverted : Bool) :
    (g.bits inverted).contains f.bit = decide (g = f) := by
  have same : f.bit = g.bit ↔ g = f := ⟨fun h => bit_injective h.symm, fun h => h ▸ rfl⟩
  cases inverted with
  | false => simp [bits, same]
  | true => simp [bits, same, bit_ne_senseBit]

/-- Only its own comparison inverts a field, and only if it is inverted. -/
theorem contains_bits_senseBit (f g : MeshField) (inverted : Bool) :
    (g.bits inverted).contains f.senseBit = (inverted && decide (g = f)) := by
  have same : f.senseBit = g.senseBit ↔ g = f :=
    ⟨fun h => bit_injective (Nat.succ.inj h).symm, fun h => h ▸ rfl⟩
  have other : f.senseBit ≠ g.bit := (bit_ne_senseBit g f).symm
  cases inverted with
  | false => simp [bits, other]
  | true => simp [bits, same, other]

theorem contains_bits_alwaysTrueBit (g : MeshField) (inverted : Bool) :
    (g.bits inverted).contains alwaysTrueBit = false := by
  cases g <;> cases inverted <;> rfl

end MeshField

theorem Flags.has_setCompare (w : Flags) (f : MeshField) (inverted : Bool) (bit : Nat) :
    (w.setCompare f inverted).has bit = (w.has bit || (f.bits inverted).contains bit) := by
  cases inverted with
  | false => simp [setCompare, MeshField.bits, has_set f.bit_lt, eq_comm]
  | true =>
    simp [setCompare, MeshField.bits, has_set f.bit_lt, has_set f.senseBit_lt, Bool.or_assoc,
      eq_comm]

/-! ### One edit -/

namespace Edit

/-- The flow flags that an edit sets. -/
def flowFlags : Edit → List FlowFlag
  | ipVersion _ => [.ipVersion]
  | srcMac _ => [.srcMac]
  | dstMac _ => [.dstMac]
  | srcIpv4 _ => [.srcIpv4]
  | srcIpv4Mask _ => [.srcIpv4Mask]
  | dstIpv4 _ => [.dstIpv4]
  | dstIpv4Mask _ => [.dstIpv4Mask]
  | srcIpv6 _ => [.srcIpv6]
  | srcIpv6Mask _ => [.srcIpv6Mask]
  | dstIpv6 _ => [.dstIpv6]
  | dstIpv6Mask _ => [.dstIpv6Mask]
  | srcPort _ => [.srcPort]
  | dstPort _ => [.dstPort]
  | srcPortRange .. => [.srcPortFirst, .srcPortLast]
  | dstPortRange .. => [.dstPortFirst, .dstPortLast]
  | protocol _ => [.protocol]
  | dscp _ => [.dscp]
  | vlanId _ => [.vlanId]
  | vlanPcp _ => [.vlanPcp]
  | spi .. => [.spi]
  | _ => []

/-- The bits of the mesh word that an edit sets. -/
def meshBits : Edit → List Nat
  | alwaysTrue => [MeshField.alwaysTrueBit]
  | meshUserPriority _ inverted => MeshField.userPriority.bits inverted
  | meshSrcMac _ inverted => MeshField.srcMac.bits inverted
  | meshDstMac _ inverted => MeshField.dstMac.bits inverted
  | meshVlanId _ inverted => MeshField.vlanId.bits inverted
  | meshSrcIpv4 _ inverted => MeshField.srcIpv4.bits inverted
  | meshDstIpv4 _ inverted => MeshField.dstIpv4.bits inverted
  | meshSrcPort _ inverted => MeshField.srcPort.bits inverted
  | meshDstPort _ inverted => MeshField.dstPort.bits inverted
  | meshProtocol _ inverted => MeshField.protocol.bits inverted
  | meshDscp _ inverted => MeshField.dscp.bits inverted
  | _ => []

/-- What a rule compares with after an edit, from what it compared with before. -/
def onCriteria (c : Criteria) (ed : Edit) : Criteria :=
  (ed.apply { Rule.blank 0 with criteria := c }).criteria

/-- The bits of the flow word that an edit sets. -/
def flowBits (ed : Edit) : List Nat := ed.flowFlags.map FlowFlag.bit

theorem contains_flowBits (ed : Edit) (f : FlowFlag) :
    ed.flowBits.contains f.bit = ed.flowFlags.contains f := by
  rw [Bool.eq_iff_iff, List.contains_iff_mem, List.contains_iff_mem, flowBits, List.mem_map]
  constructor
  · rintro ⟨g, mem, same⟩
    exact FlowFlag.bit_injective same ▸ mem
  · exact fun mem => ⟨f, mem, rfl⟩

theorem has_flowFlags_apply (ed : Edit) (r : Rule) (bit : Nat) :
    (ed.apply r).flowFlags.has bit = (r.flowFlags.has bit || ed.flowBits.contains bit) := by
  cases ed <;>
    simp [apply, Rule.withFlow, Rule.withMesh, flowBits, flowFlags, Flags.setFlow,
      Flags.has_set (FlowFlag.bit_lt _), Bool.or_assoc, eq_comm]

theorem hasFlow_apply (ed : Edit) (r : Rule) (f : FlowFlag) :
    (ed.apply r).flowFlags.hasFlow f =
      (r.flowFlags.hasFlow f || ed.flowFlags.contains f) := by
  rw [← contains_flowBits]
  exact ed.has_flowFlags_apply r f.bit

theorem flowFlags_apply {r : Rule} (ed : Edit) (none : ed.flowFlags = []) :
    (ed.apply r).flowFlags = r.flowFlags := by
  cases ed <;> first | rfl | cases none

theorem has_apply (ed : Edit) (r : Rule) (bit : Nat) :
    (ed.apply r).meshFlags.has bit = (r.meshFlags.has bit || ed.meshBits.contains bit) := by
  cases ed
  case alwaysTrue => simp [apply, meshBits, Flags.has_set, MeshField.alwaysTrueBit, eq_comm]
  -- the other edits switch one comparison on or leave the mesh word alone
  all_goals
    simp only [apply, Rule.withFlow, Rule.withMesh, meshBits, Flags.has_setCompare,
      List.contains_nil, Bool.or_false]

/-- What a rule compares with depends on nothing else of it. -/
theorem criteria_apply (ed : Edit) (r : Rule) :
    (ed.apply r).criteria = onCriteria r.criteria ed := by
  cases ed <;> rfl

end Edit

/-! ### Lists of edits -/

/-- What the last one gives of those edits that give something. -/
def Edit.last? {α : Type} (give : Edit → Option α) (eds : List Edit) : Option α :=
  (eds.filterMap give).getLast?

namespace Rule

/-- What each edit may set, and none takes away, is set after a list of edits if it was set before
or one of them sets it. -/
theorem any_edited (has : Rule → Bool) {sets : Edit → Bool}
    (step : ∀ ed r, has (ed.apply r) = (has r || sets ed)) (r : Rule) (eds : List Edit) :
    has (r.edited eds) = (has r || eds.any sets) := by
  -- on the edits, for every rule that they may start from
  induction eds generalizing r with
  | nil => simp [edited]
  | cons ed eds ih =>
    show has ((ed.apply r).edited eds) = _
    rw [ih, step, List.any_cons, Bool.or_assoc]

/-- What edits store over one another is in the end what has been given last, or else what stood
there before. -/
theorem stored_edited {α : Type} (stored : Rule → Option α) {give : Edit → Option α}
    (step : ∀ ed r, stored (ed.apply r) = (give ed).or (stored r)) (r : Rule) (eds : List Edit) :
    stored (r.edited eds) = (Edit.last? give eds).or (stored r) := by
  induction eds generalizing r with
  | nil => rfl
  | cons ed eds ih =>
    show stored ((ed.apply r).edited eds) = _
    rw [ih, step, Edit.last?, Edit.last?, List.filterMap_cons]
    cases give ed with
    | none => rfl
    | some a =>
      rw [List.getLast?_cons, Option.some_or, Option.some_or]
      cases (eds.filterMap give).getLast? <;> rfl

/-- The bits of the flow word of an edited rule are those of the rule and those of the edits. -/
theorem has_flowFlags_edited (r : Rule) (eds : List Edit) (bit : Nat) :
    (r.edited eds).flowFlags.has bit =
      (r.flowFlags.has bit || eds.any fun ed => ed.flowBits.contains bit) :=
  any_edited (·.flowFlags.has bit) (fun ed r => ed.has_flowFlags_apply r bit) r eds

/-- **The flow flags of an edited rule** are those of the rule and those of the edits. -/
theorem hasFlow_edited (r : Rule) (eds : List Edit) (f : FlowFlag) :
    (r.edited eds).flowFlags.hasFlow f =
      (r.flowFlags.hasFlow f || eds.any fun ed => ed.flowFlags.contains f) :=
  any_edited (·.flowFlags.hasFlow f) (fun ed r => ed.hasFlow_apply r f) r eds

/-- **The mesh bits of an edited rule** are those of the rule and those of the edits. -/
theorem has_edited (r : Rule) (eds : List Edit) (bit : Nat) :
    (r.edited eds).meshFlags.has bit =
      (r.meshFlags.has bit || eds.any fun ed => ed.meshBits.contains bit) :=
  any_edited (·.meshFlags.has bit) (fun ed r => ed.has_apply r bit) r eds

/-- Edits that set no flow flag leave the whole flow word as it is. -/
theorem flowFlags_edited {eds : List Edit} (none : ∀ ed ∈ eds, ed.flowFlags = []) (r : Rule) :
    (r.edited eds).flowFlags = r.flowFlags := by
  induction eds generalizing r with
  | nil => rfl
  | cons ed eds ih =>
    obtain ⟨first, rest⟩ := List.forall_mem_cons.1 none
    show ((ed.apply r).edited eds).flowFlags = _
    rw [ih rest, ed.flowFlags_apply first]

/-- What an edited rule compares with is made by the edits one after another. -/
theorem criteria_edited (r : Rule) (eds : List Edit) :
    (r.edited eds).criteria = eds.foldl Edit.onCriteria r.criteria :=
  (List.foldl_hom Rule.criteria fun r ed => (ed.criteria_apply r).symm).symm

end Rule

/-! ### Edits that may not be given -/

section Given

variable {α : Type}

/-- An edit that may not be given has a property if it is given and has it. -/
theorem any_option {f : α → Edit} {P : Edit → Bool} (o : Option α) :
    (o.map f).toList.any P = o.any fun a => P (f a) := by
  cases o <;> simp

/-- An edit that may not be given stores what it gives, or else what stands there already. -/
theorem foldl_option (f : α → Edit) (get : Criteria → α)
    (same : ∀ c, Edit.onCriteria c (f (get c)) = c) (c : Criteria) (o : Option α) :
    (o.map f).toList.foldl Edit.onCriteria c = Edit.onCriteria c (f (o.getD (get c))) := by
  cases o with
  | none => exact (same c).symm
  | some a => rfl

end Given

end PacketPriority
