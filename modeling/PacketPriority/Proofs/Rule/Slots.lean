import PacketPriority.Proofs.Rule.Edits
import PacketPriority.Proofs.Rule.WellFormed

/-!
Where edits store their values.

A rule is its identifier, its two flag words and its slots: kind, precedence, the values that it
compares with and the fields of its treatment. An edit stores values in the slots of `Edit.slots`
and leaves the others as they are (`Edit.apply_agreesAt_of_notMem`); what it stores does not depend
on the rule (`Edit.apply_agreesAt_of_mem`). From these two facts it follows what a list of edits
makes of two rules that differ: at a slot they agree in the end if they did before, or if an edit
stores there (`Rule.edited_agreesAt`). Together with the bits of the flag words, which only add up,
this is all there is to know of a rule that edits have made (`Rule.eq_of_agreesAt`).
-/

namespace PacketPriority

/-! ### Slots -/

/-- The fields of a treatment. -/
inductive TreatmentField where
  | output | dscpRemark | vlanPcpRemark | serviceClassId | mscsTidBitmap | priorityLimit
  | serviceIntervalDl | burstSizeDl | serviceIntervalUl | burstSizeUl
deriving DecidableEq

deriving instance DecidableEq for Criterion

/-- A place in which a rule keeps one value. -/
inductive Slot where
  | kind
  | precedence
  | criterion (c : Criterion)
  | treatment (f : TreatmentField)
deriving DecidableEq

/-- Two treatments are the same in one field. -/
def Treatment.AgreesAt (t t' : Treatment) : TreatmentField → Prop
  | .output => t.output = t'.output
  | .dscpRemark => t.dscpRemark = t'.dscpRemark
  | .vlanPcpRemark => t.vlanPcpRemark = t'.vlanPcpRemark
  | .serviceClassId => t.serviceClassId = t'.serviceClassId
  | .mscsTidBitmap => t.mscsTidBitmap = t'.mscsTidBitmap
  | .priorityLimit => t.priorityLimit = t'.priorityLimit
  | .serviceIntervalDl => t.serviceIntervalDl = t'.serviceIntervalDl
  | .burstSizeDl => t.burstSizeDl = t'.burstSizeDl
  | .serviceIntervalUl => t.serviceIntervalUl = t'.serviceIntervalUl
  | .burstSizeUl => t.burstSizeUl = t'.burstSizeUl

/-- Two rules have the same value in a slot. -/
def Rule.AgreesAt (r s : Rule) : Slot → Prop
  | .kind => r.kind = s.kind
  | .precedence => r.precedence = s.precedence
  | .criterion c => r.criteria.AgreesAt s.criteria c
  | .treatment f => r.treatment.AgreesAt s.treatment f

theorem Criteria.eq_of_agreesAt {c c' : Criteria} (h : ∀ x, c.AgreesAt c' x) : c = c' := by
  obtain ⟨⟩ := c
  obtain ⟨⟩ := c'
  rw [Criteria.mk.injEq]
  exact ⟨h .srcMac, h .dstMac, h .srcIpv4, h .srcIpv4Mask, h .dstIpv4, h .dstIpv4Mask, h .srcIpv6,
    h .srcIpv6Mask, h .dstIpv6, h .dstIpv6Mask, h .srcPort, h .dstPort, h .srcPortFirst,
    h .srcPortLast, h .dstPortFirst, h .dstPortLast, h .vlanId, h .vlanPcp, h .dscp, h .protocol,
    h .userPriority, h .spiValue, h .spiMask, h .ifindex, h .ipVersion⟩

theorem Treatment.eq_of_agreesAt {t t' : Treatment} (h : ∀ f, t.AgreesAt t' f) : t = t' := by
  obtain ⟨⟩ := t
  obtain ⟨⟩ := t'
  rw [Treatment.mk.injEq]
  exact ⟨h .output, h .dscpRemark, h .vlanPcpRemark, h .serviceClassId, h .mscsTidBitmap,
    h .priorityLimit, h .serviceIntervalDl, h .burstSizeDl, h .serviceIntervalUl, h .burstSizeUl⟩

namespace Rule

variable {r s u : Rule} {x : Slot}

/-- A rule is its identifier, its flag words and its slots. -/
theorem eq_of_agreesAt (id : r.id = s.id) (meshFlags : r.meshFlags = s.meshFlags)
    (flowFlags : r.flowFlags = s.flowFlags) (agrees : ∀ x, r.AgreesAt s x) : r = s := by
  have kind : r.kind = s.kind := agrees .kind
  have precedence : r.precedence = s.precedence := agrees .precedence
  have criteria := Criteria.eq_of_agreesAt fun c => agrees (.criterion c)
  have treatment := Treatment.eq_of_agreesAt fun f => agrees (.treatment f)
  cases r
  cases s
  simp_all

theorem AgreesAt.symm (h : r.AgreesAt s x) : s.AgreesAt r x := by
  rcases x with - | - | c | f
  · exact Eq.symm h
  · exact Eq.symm h
  · cases c <;> exact Eq.symm h
  · cases f <;> exact Eq.symm h

theorem AgreesAt.trans (h : r.AgreesAt s x) (h' : s.AgreesAt u x) : r.AgreesAt u x := by
  rcases x with - | - | c | f
  · exact Eq.trans h h'
  · exact Eq.trans h h'
  · cases c <;> exact Eq.trans h h'
  · cases f <;> exact Eq.trans h h'

end Rule

/-! ### One edit -/

namespace Edit

variable {r s : Rule} {x : Slot}

/-- The slots in which an edit stores values. -/
def slots : Edit → List Slot
  | kind _ => [.kind]
  | precedence _ => [.precedence]
  | output _ => [.treatment .output]
  | ipVersion _ => [.criterion .ipVersion]
  | srcMac _ | meshSrcMac .. => [.criterion .srcMac]
  | dstMac _ | meshDstMac .. => [.criterion .dstMac]
  | srcIpv4 _ | meshSrcIpv4 .. => [.criterion .srcIpv4]
  | srcIpv4Mask _ => [.criterion .srcIpv4Mask]
  | dstIpv4 _ | meshDstIpv4 .. => [.criterion .dstIpv4]
  | dstIpv4Mask _ => [.criterion .dstIpv4Mask]
  | srcIpv6 _ => [.criterion .srcIpv6]
  | srcIpv6Mask _ => [.criterion .srcIpv6Mask]
  | dstIpv6 _ => [.criterion .dstIpv6]
  | dstIpv6Mask _ => [.criterion .dstIpv6Mask]
  | srcPort _ | meshSrcPort .. => [.criterion .srcPort]
  | dstPort _ | meshDstPort .. => [.criterion .dstPort]
  | srcPortRange .. => [.criterion .srcPortFirst, .criterion .srcPortLast]
  | dstPortRange .. => [.criterion .dstPortFirst, .criterion .dstPortLast]
  | protocol _ | meshProtocol .. => [.criterion .protocol]
  | dscp _ | meshDscp .. => [.criterion .dscp]
  | vlanId _ | meshVlanId .. => [.criterion .vlanId]
  | vlanPcp _ => [.criterion .vlanPcp]
  | spi .. => [.criterion .spiValue, .criterion .spiMask]
  | ifindex _ => [.criterion .ifindex]
  | alwaysTrue => []
  | meshUserPriority .. => [.criterion .userPriority]
  | dscpRemark _ => [.treatment .dscpRemark]
  | vlanPcpRemark _ => [.treatment .vlanPcpRemark]
  | serviceClassId _ => [.treatment .serviceClassId]
  | mscsTidBitmap _ => [.treatment .mscsTidBitmap]
  | priorityLimit _ => [.treatment .priorityLimit]
  | latency .. => [.treatment .serviceIntervalDl, .treatment .burstSizeDl,
      .treatment .serviceIntervalUl, .treatment .burstSizeUl]

/-- An edit leaves the slots alone in which it stores nothing. -/
theorem apply_agreesAt_of_notMem {ed : Edit} (r : Rule) (h : x ∉ ed.slots) :
    (ed.apply r).AgreesAt r x := by
  -- either the value is the old one, or the slot is one of those of the edit
  rcases x with - | - | c | f
  · cases ed <;> first | rfl | exact absurd (by simp [slots]) h
  · cases ed <;> first | rfl | exact absurd (by simp [slots]) h
  · cases ed <;> cases c <;> first | rfl | exact absurd (by simp [slots]) h
  · cases ed <;> cases f <;> first | rfl | exact absurd (by simp [slots]) h

/-- An edit stores the same values in every rule. -/
theorem apply_agreesAt_of_mem {ed : Edit} (h : x ∈ ed.slots) (r s : Rule) :
    (ed.apply r).AgreesAt (ed.apply s) x := by
  revert x
  cases ed <;> simp only [slots, List.forall_mem_cons, List.not_mem_nil, false_imp_iff,
    implies_true, and_true] <;> repeat' apply And.intro
  all_goals rfl

/-- After an edit two rules agree where it stores values, and where they did before. -/
theorem apply_agreesAt (ed : Edit) (h : x ∈ ed.slots ∨ r.AgreesAt s x) :
    (ed.apply r).AgreesAt (ed.apply s) x := by
  by_cases stored : x ∈ ed.slots
  · exact apply_agreesAt_of_mem stored r s
  · have kept := apply_agreesAt_of_notMem r stored
    have kept' := apply_agreesAt_of_notMem s stored
    exact (kept.trans (h.resolve_left stored)).trans kept'.symm

theorem apply_id (ed : Edit) (r : Rule) : (ed.apply r).id = r.id := by
  cases ed <;> rfl

end Edit

/-! ### Lists of edits -/

namespace Rule

variable {r s : Rule} {x : Slot} {eds : List Edit}

theorem edited_id (r : Rule) (eds : List Edit) : (r.edited eds).id = r.id := by
  induction eds generalizing r with
  | nil => rfl
  | cons ed eds ih => exact (ih _).trans (ed.apply_id r)

/-- **What becomes of a difference**: after a list of edits two rules agree at a slot if they did
before, or if one of the edits stores a value there. -/
theorem edited_agreesAt (h : (∃ ed ∈ eds, x ∈ ed.slots) ∨ r.AgreesAt s x) :
    (r.edited eds).AgreesAt (s.edited eds) x := by
  induction eds generalizing r s with
  | nil => exact h.resolve_left (by simp)
  | cons ed eds ih =>
    rw [List.exists_mem_cons_iff, or_right_comm] at h
    exact ih (h.symm.imp_right ed.apply_agreesAt)

end Rule

end PacketPriority
