import PacketPriority.Proofs.Matching.Sense
import PacketPriority.Proofs.Rule.Slots

/-!
Edits that are overtaken.

An edit is overtaken if one of the same form comes later: the later one stores its values in the
same slots and sets the same flags, so that nothing of the earlier one is left, whatever stands
between and around them. One thing is not overtaken. A mesh edit that inverts its comparison sets a
bit, and a later edit that asks for the plain comparison does not clear it. The main result
`Rule.build_of_overtaken` says what is left of an overtaken edit: its inversion, and nothing else.
So it could as well be left out exactly if it inverts nothing, or if another of the edits inverts
the same comparison.
-/

namespace PacketPriority

namespace Edit

/-! ### Forms -/

/-- The form of an edit: what is left of it without its values, the comparison of a mesh edit not
inverted. -/
def form : Edit → Edit
  | kind _ => kind .sawf
  | precedence _ => precedence 0
  | output _ => output 0
  | ipVersion _ => ipVersion 0
  | srcMac _ => srcMac {}
  | dstMac _ => dstMac {}
  | srcIpv4 _ => srcIpv4 {}
  | srcIpv4Mask _ => srcIpv4Mask {}
  | dstIpv4 _ => dstIpv4 {}
  | dstIpv4Mask _ => dstIpv4Mask {}
  | srcIpv6 _ => srcIpv6 {}
  | srcIpv6Mask _ => srcIpv6Mask {}
  | dstIpv6 _ => dstIpv6 {}
  | dstIpv6Mask _ => dstIpv6Mask {}
  | srcPort _ => srcPort 0
  | dstPort _ => dstPort 0
  | srcPortRange .. => srcPortRange 0 0
  | dstPortRange .. => dstPortRange 0 0
  | protocol _ => protocol 0
  | dscp _ => dscp 0
  | vlanId _ => vlanId 0
  | vlanPcp _ => vlanPcp 0
  | spi .. => spi 0 0
  | ifindex _ => ifindex 0
  | alwaysTrue => alwaysTrue
  | meshUserPriority .. => meshUserPriority 0 false
  | meshSrcMac .. => meshSrcMac {} false
  | meshDstMac .. => meshDstMac {} false
  | meshVlanId .. => meshVlanId 0 false
  | meshSrcIpv4 .. => meshSrcIpv4 {} false
  | meshDstIpv4 .. => meshDstIpv4 {} false
  | meshSrcPort .. => meshSrcPort 0 false
  | meshDstPort .. => meshDstPort 0 false
  | meshProtocol .. => meshProtocol 0 false
  | meshDscp .. => meshDscp 0 false
  | dscpRemark _ => dscpRemark 0
  | vlanPcpRemark _ => vlanPcpRemark 0
  | serviceClassId _ => serviceClassId 0
  | mscsTidBitmap _ => mscsTidBitmap 0
  | priorityLimit _ => priorityLimit 0
  | latency .. => latency 0 0 0 0

/-- The mesh field whose comparison an edit inverts. -/
def inverts? : Edit → Option MeshField
  | meshUserPriority _ true => some .userPriority
  | meshSrcMac _ true => some .srcMac
  | meshDstMac _ true => some .dstMac
  | meshVlanId _ true => some .vlanId
  | meshSrcIpv4 _ true => some .srcIpv4
  | meshDstIpv4 _ true => some .dstIpv4
  | meshSrcPort _ true => some .srcPort
  | meshDstPort _ true => some .dstPort
  | meshProtocol _ true => some .protocol
  | meshDscp _ true => some .dscp
  | _ => none

theorem slots_form (ed : Edit) : ed.form.slots = ed.slots := by cases ed <;> rfl

theorem flowBits_form (ed : Edit) : ed.form.flowBits = ed.flowBits := by cases ed <;> rfl

/-- The bits that an edit sets in the mesh word are those of its form and its inversion. -/
theorem contains_meshBits (ed : Edit) (bit : Nat) :
    ed.meshBits.contains bit =
      (ed.form.meshBits.contains bit || ed.inverts?.any fun f => decide (f.senseBit = bit)) := by
  cases ed
  case meshUserPriority _ inverted | meshSrcMac _ inverted | meshDstMac _ inverted
      | meshVlanId _ inverted | meshSrcIpv4 _ inverted | meshDstIpv4 _ inverted
      | meshSrcPort _ inverted | meshDstPort _ inverted | meshProtocol _ inverted
      | meshDscp _ inverted =>
    cases inverted <;> simp [meshBits, form, inverts?, MeshField.bits, eq_comm (a := bit)]
  all_goals exact (Bool.or_false _).symm

/-- A sense bit is set by the edits that invert the comparison, and by no others. -/
theorem contains_senseBit_iff (ed : Edit) (f : MeshField) :
    ed.meshBits.contains f.senseBit = true ↔ ed.inverts? = some f := by
  cases ed
  case meshUserPriority _ inverted | meshSrcMac _ inverted | meshDstMac _ inverted
      | meshVlanId _ inverted | meshSrcIpv4 _ inverted | meshDstIpv4 _ inverted
      | meshSrcPort _ inverted | meshDstPort _ inverted | meshProtocol _ inverted
      | meshDscp _ inverted =>
    cases inverted <;> simp only [meshBits, MeshField.contains_bits_senseBit, inverts?] <;> simp
  case alwaysTrue => simp [meshBits, inverts?, f.senseBit_ne_alwaysTrueBit]
  all_goals simp [meshBits, inverts?]

end Edit

/-! ### Lists with an overtaken edit -/

section

variable {ed later : Edit} {before after : List Edit}

/-- What the edits of a list have is, with an edit that is overtaken, what they have without it and
what this edit has beyond the one that overtakes it. -/
theorem any_of_overtaken {P : Edit → Bool} {left : Bool} (mem : later ∈ after)
    (beyond : (P ed || P later) = (P later || left)) :
    (before ++ ed :: after).any P = ((before ++ after).any P || left) := by
  have again : (P later || after.any P) = after.any P := by
    cases h : P later with
    | false => rfl
    | true => rw [List.any_eq_true.2 ⟨later, mem, h⟩, Bool.true_or]
  calc (before ++ ed :: after).any P
      = (before.any P || (P ed || P later || after.any P)) := by
        rw [List.any_append, List.any_cons, Bool.or_assoc, again]
    _ = (before.any P || (P later || after.any P) || left) := by
        rw [beyond, Bool.or_right_comm, ← Bool.or_assoc]
    _ = ((before ++ after).any P || left) := by rw [again, List.any_append]

namespace Rule

/-- A rule that inverts one more comparison, if one is named. -/
def inverting (r : Rule) : Option MeshField → Rule
  | none => r
  | some f => { r with meshFlags := r.meshFlags.set f.senseBit }

theorem has_inverting (r : Rule) (o : Option MeshField) (bit : Nat) :
    (r.inverting o).meshFlags.has bit =
      (r.meshFlags.has bit || o.any fun f => decide (f.senseBit = bit)) := by
  cases o with
  | none => exact (Bool.or_false _).symm
  | some f => exact Flags.has_set f.senseBit_lt bit

/-- To invert a comparison again changes nothing. -/
theorem inverting_eq_iff (r : Rule) (o : Option MeshField) :
    r.inverting o = r ↔ ∀ f ∈ o, r.meshFlags.inverts f = true := by
  cases o with
  | none => simp [inverting]
  | some f =>
    have has (bit : Nat) := has_inverting r (some f) bit
    simp only [Option.any_some] at has
    simp only [Option.mem_some_iff, forall_eq']
    constructor
    · intro same
      rw [Flags.inverts, ← same, has, decide_eq_true rfl, Bool.or_true]
    · intro inverted
      have meshFlags : (r.inverting (some f)).meshFlags = r.meshFlags := by
        refine Flags.ext fun bit => ?_
        rw [has]
        rcases eq_or_ne f.senseBit bit with rfl | other
        · rw [decide_eq_true rfl, Bool.or_true]
          exact inverted.symm
        · rw [decide_eq_false other, Bool.or_false]
      show { r with meshFlags := (r.inverting (some f)).meshFlags } = r
      rw [meshFlags]

theorem canonical_inverting (r : Rule) (o : Option MeshField) :
    (r.inverting o).canonical = r.canonical.inverting o := by
  cases o <;> rfl

/-- An overtaken edit leaves its inversion in a rule, and nothing else. -/
theorem edited_of_overtaken (r : Rule) (mem : later ∈ after) (same : later.form = ed.form) :
    r.edited (before ++ ed :: after) = (r.edited (before ++ after)).inverting ed.inverts? := by
  have slots : later.slots = ed.slots := by rw [← later.slots_form, same, ed.slots_form]
  have flowBits : later.flowBits = ed.flowBits := by
    rw [← later.flowBits_form, same, ed.flowBits_form]
  refine eq_of_agreesAt ?_ ?_ ?_ fun x => ?_
  · rw [edited_id]
    cases ed.inverts? <;> exact (edited_id _ _).symm
  · -- of the mesh bits the later edit sets those of the form, and not the inversion
    refine Flags.ext fun bit => ?_
    rw [has_inverting, has_edited, has_edited, Bool.or_assoc, any_of_overtaken mem]
    rw [ed.contains_meshBits, later.contains_meshBits, same]
    ac_rfl
  · refine Flags.ext fun bit => ?_
    have flags : ((r.edited (before ++ after)).inverting ed.inverts?).flowFlags =
        (r.edited (before ++ after)).flowFlags := by
      cases ed.inverts? <;> rfl
    have beyond : (ed.flowBits.contains bit || later.flowBits.contains bit) =
        (later.flowBits.contains bit || false) := by
      rw [flowBits, Bool.or_self, Bool.or_false]
    rw [flags, has_flowFlags_edited, has_flowFlags_edited, any_of_overtaken mem beyond,
      Bool.or_false]
  · -- the rules differ where the edit has stored, until the later one stores in the same slots
    have agrees : (r.edited (before ++ ed :: after)).AgreesAt (r.edited (before ++ after)) x := by
      rw [edited_append, edited_append]
      show ((ed.apply (r.edited before)).edited after).AgreesAt ((r.edited before).edited after) x
      refine edited_agreesAt ?_
      by_cases stored : x ∈ ed.slots
      · exact .inl ⟨later, mem, slots ▸ stored⟩
      · exact .inr (Edit.apply_agreesAt_of_notMem _ stored)
    cases ed.inverts? <;> exact agrees

/-! ### The main result -/

/-- **What is left of an overtaken edit** is its inversion: the rule is the one that the other edits
build, with that comparison inverted. So the edit can be left out exactly if it inverts nothing, or
if another of the edits inverts the same comparison. -/
theorem build_of_overtaken (id : UInt32) (before : List Edit) (mem : later ∈ after)
    (same : later.form = ed.form) :
    build id (before ++ ed :: after) = (build id (before ++ after)).inverting ed.inverts? ∧
      (build id (before ++ ed :: after) = build id (before ++ after) ↔
        ∀ f ∈ ed.inverts?, ∃ other ∈ before ++ after, other.inverts? = some f) := by
  have left : build id (before ++ ed :: after) =
      (build id (before ++ after)).inverting ed.inverts? := by
    rw [build, edited_of_overtaken _ mem same, canonical_inverting]
    rfl
  refine ⟨left, ?_⟩
  rw [left, inverting_eq_iff]
  refine forall₂_congr fun f _ => ?_
  show ((blank id).edited (before ++ after)).meshFlags.has f.senseBit = true ↔ _
  rw [has_edited]
  show (Flags.has 0 f.senseBit || _) = true ↔ _
  rw [Flags.has_zero, Bool.false_or, List.any_eq_true]
  exact exists_congr fun other => and_congr_right fun _ => other.contains_senseBit_iff f

/-- Of three edits of one form the first is overtaken with its inversion, as the second inverts too;
without the second its inversion stays, though the last asks for a plain comparison. -/
theorem build_of_overtaken_inversion :
    let first : Edit := .meshSrcMac { o5 := 1 } true
    let again : Edit := .meshSrcMac { o5 := 2 } true
    let plain : Edit := .meshSrcMac { o5 := 3 } false
    build 7 [first, again, plain] = build 7 [again, plain] ∧
      build 7 [first, plain] = (build 7 [plain]).inverting (some .srcMac) := by
  intro first again plain
  have same : plain.form = first.form := rfl
  have inTwo : plain ∈ [again, plain] := by decide
  have inOne : plain ∈ [plain] := by decide
  refine ⟨(build_of_overtaken 7 [] inTwo same).2.2 fun f inverts => ?_,
    (build_of_overtaken 7 [] inOne same).1⟩
  exact ⟨again, List.mem_cons_self, inverts⟩

/-- A plain comparison does not overtake an inverted one: a rule that is to match packets from an
address matches all others. -/
theorem inversion_outlasts_plain_comparison :
    let inverted : Edit := .meshSrcMac { o5 := 1 } true
    let plain : Edit := .meshSrcMac { o5 := 1 } false
    plain.form = inverted.form ∧ build 1 [inverted, plain] ≠ build 1 [plain] ∧
      (build 1 [plain]).matchesMesh { srcMac := { o5 := 1 } } = true ∧
      (build 1 [inverted, plain]).matchesMesh { srcMac := { o5 := 1 } } = false := by
  decide

end Rule

end

end PacketPriority
