import PacketPriority.Proofs.Ledger
import PacketPriority.Proofs.Rule.Edits
import PacketPriority.RuleFile.Request

/-!
The rule that an entry of a rule file describes.

A rule is built by edits, one for each value that the entry gives. Most of them say what the rule
compares (`Edit.compares`) and touch nothing else. Hence key, precedence and treatment of the rule
can be read off the entry (`Entry.rule_head`, `Entry.rule_treatment`), whatever else it gives, and
an entry that is accepted stands for one request (`Entry.toRequest_eq_ok`).
-/

namespace PacketPriority

/-! ### Edits that say what a rule compares -/

/-- Whether an edit says what the rule compares. -/
def Edit.compares : Edit → Bool
  | kind _ | precedence _ | output _ | dscpRemark _ | vlanPcpRemark _ | serviceClassId _
  | mscsTidBitmap _ | priorityLimit _ | latency .. => false
  | _ => true

namespace Rule

variable {r s u : Rule} {eds : List Edit}

/-- Two rules that differ at most in what they compare. -/
structure SameHead (r s : Rule) : Prop where
  id : s.id = r.id
  kind : s.kind = r.kind
  precedence : s.precedence = r.precedence
  treatment : s.treatment = r.treatment

theorem SameHead.refl (r : Rule) : r.SameHead r := ⟨rfl, rfl, rfl, rfl⟩

theorem SameHead.trans (h : r.SameHead s) (h' : s.SameHead u) : r.SameHead u where
  id := h'.id.trans h.id
  kind := h'.kind.trans h.kind
  precedence := h'.precedence.trans h.precedence
  treatment := h'.treatment.trans h.treatment

theorem apply_sameHead {ed : Edit} (h : ed.compares = true) (r : Rule) :
    r.SameHead (ed.apply r) := by
  cases ed <;> first | exact ⟨rfl, rfl, rfl, rfl⟩ | cases h

theorem edited_sameHead (h : ∀ ed ∈ eds, ed.compares = true) (r : Rule) :
    r.SameHead (r.edited eds) := by
  induction eds generalizing r with
  | nil => exact .refl r
  | cons ed eds ih =>
    have first := apply_sameHead (h ed List.mem_cons_self) r
    exact first.trans (ih (fun ed hed => h ed (List.mem_cons_of_mem _ hed)) _)

/-- An edit that may not be given is the edit with the value that stands there already. -/
theorem edited_option {α : Type} {f : α → Edit} {r : Rule} {d : α} (same : (f d).apply r = r)
    (o : Option α) : r.edited (o.map f).toList = (f (o.getD d)).apply r := by
  cases o with
  | none => exact same.symm
  | some a => rfl

end Rule

namespace RuleFile.Entry

variable {e : Entry}

/-! ### What the edits of an entry are about -/

theorem compares_option {α : Type} {f : α → Edit} (h : ∀ a, (f a).compares = true) (o : Option α) :
    ∀ ed ∈ (o.map f).toList, ed.compares = true := by
  cases o with
  | none => simp
  | some a => simp [h]

theorem compares_rangeEdits {edit : UInt16 → UInt16 → Edit}
    (h : ∀ a b, (edit a b).compares = true) (range : Option (List UInt16)) :
    ∀ ed ∈ rangeEdits edit range, ed.compares = true := by
  unfold rangeEdits
  split
  · simp [h]
  · simp

theorem compares_flowEdits (e : Entry) : ∀ ed ∈ e.flowEdits, ed.compares = true := by
  unfold flowEdits
  simp only [List.forall_mem_append]
  repeat' apply And.intro
  all_goals first
    | exact compares_option (fun _ => rfl) _
    | exact compares_rangeEdits (fun _ _ => rfl) _

theorem compares_meshEdits (e : Entry) : ∀ ed ∈ e.meshEdits, ed.compares = true := by
  have always : ∀ ed ∈ if e.alwaysTrue then [Edit.alwaysTrue] else [], ed.compares = true := by
    split
    · simp [Edit.compares]
    · simp
  unfold meshEdits
  simp only [List.forall_mem_append]
  repeat' apply And.intro
  all_goals first
    | exact always
    | exact compares_option (fun _ => rfl) _

/-! ### The rule -/

/-- How an entry says that matching packets are treated; what it does not say is as in a blank rule.
-/
def treatment (e : Entry) : Treatment where
  output := e.output
  dscpRemark := e.dscpRemark.getD 255
  vlanPcpRemark := e.vlanPcpRemark.getD 255
  serviceClassId := e.serviceClassId.getD 255
  mscsTidBitmap := e.mscsTidBitmap.getD 0
  priorityLimit := e.priorityLimit.getD 0
  serviceIntervalDl := (e.latency.getD (0, 0, 0, 0)).1
  burstSizeDl := (e.latency.getD (0, 0, 0, 0)).2.1
  serviceIntervalUl := (e.latency.getD (0, 0, 0, 0)).2.2.1
  burstSizeUl := (e.latency.getD (0, 0, 0, 0)).2.2.2

/-- The edits of the treatment lay over a rule with no treatment but an output what the entry gives.
-/
theorem edited_treatmentEdits (e : Entry) {r : Rule} (h : r.treatment = { output := e.output }) :
    r.edited e.treatmentEdits = { r with treatment := e.treatment } := by
  obtain ⟨id, kind, precedence, meshFlags, flowFlags, criteria, treatment⟩ := r
  obtain rfl : treatment = { output := e.output } := h
  simp only [treatmentEdits, Rule.edited_append]
  rw [Rule.edited_option (f := Edit.dscpRemark) (d := 255) rfl,
    Rule.edited_option (f := Edit.vlanPcpRemark) (d := 255) rfl,
    Rule.edited_option (f := Edit.serviceClassId) (d := 255) rfl,
    Rule.edited_option (f := Edit.mscsTidBitmap) (d := 0) rfl,
    Rule.edited_option (f := Edit.priorityLimit) (d := 0) rfl,
    Rule.edited_option (d := (0, 0, 0, 0)) rfl]
  rfl

/-- The edits that say what the rule of an entry compares. -/
def criteriaEdits (e : Entry) : List Edit := if e.kind = .mesh then e.meshEdits else e.flowEdits

theorem compares_criteriaEdits (e : Entry) : ∀ ed ∈ e.criteriaEdits, ed.compares = true := by
  unfold criteriaEdits
  split
  · exact e.compares_meshEdits
  · exact e.compares_flowEdits

/-- The rule of an entry before anything is said about what it compares. -/
def bareRule (e : Entry) : Rule :=
  { Rule.blank e.id with kind := e.kind, precedence := e.precedence,
                         treatment := { output := e.output } }

/-- Between its head and its treatment a rule is made by what the entry compares. -/
theorem rule_eq (e : Entry) :
    e.rule =
      Rule.canonical { e.bareRule.edited e.criteriaEdits with treatment := e.treatment } := by
  have same := Rule.edited_sameHead e.compares_criteriaEdits e.bareRule
  have built : e.rule =
      ((e.bareRule.edited e.criteriaEdits).edited e.treatmentEdits).canonical := by
    rw [rule, Rule.build, edits, Rule.edited_append, Rule.edited_append]
    rfl
  rw [built, edited_treatmentEdits e (by rw [same.treatment]; rfl)]

/-- The rule of an entry has its key, its precedence and its treatment, whatever it compares. -/
theorem rule_head (e : Entry) :
    e.rule.id = e.id ∧ e.rule.kind = e.kind ∧ e.rule.precedence = e.precedence ∧
      e.rule.treatment = e.treatment := by
  have same := Rule.edited_sameHead e.compares_criteriaEdits e.bareRule
  rw [rule_eq]
  exact ⟨same.id, same.kind, same.precedence, rfl⟩

/-- The flow flags of the rule are those of the edits. -/
theorem hasFlow_rule (e : Entry) (f : FlowFlag) :
    e.rule.flowFlags.hasFlow f = e.criteriaEdits.any fun ed => ed.flowFlags.contains f := by
  rw [rule_eq]
  show (e.bareRule.edited e.criteriaEdits).flowFlags.hasFlow f = _
  rw [Rule.hasFlow_edited]
  show (Flags.has 0 f.bit || _) = _
  rw [Flags.has_zero, Bool.false_or]

/-- The mesh bits of the rule are those of the edits. -/
theorem has_rule (e : Entry) (bit : Nat) :
    e.rule.meshFlags.has bit = e.criteriaEdits.any fun ed => ed.meshBits.contains bit := by
  rw [rule_eq]
  show (e.bareRule.edited e.criteriaEdits).meshFlags.has bit = _
  rw [Rule.has_edited]
  show (Flags.has 0 bit || _) = _
  rw [Flags.has_zero, Bool.false_or]

/-- The rule compares with what the edits store, its addresses reduced. -/
theorem criteria_rule (e : Entry) :
    e.rule.criteria = (Rule.canonical { e.rule with
      criteria := e.criteriaEdits.foldl Edit.onCriteria {} }).criteria := by
  have edited : (e.bareRule.edited e.criteriaEdits).criteria =
      e.criteriaEdits.foldl Edit.onCriteria {} := Rule.criteria_edited _ _
  rw [rule_eq, ← edited]
  rfl

theorem key_rule (e : Entry) : e.rule.key = e.key := by
  obtain ⟨id, kind, -, -⟩ := e.rule_head
  rw [Rule.key, id, kind]
  rfl

/-! ### Requests -/

/-- The request that an entry stands for if nothing is wrong with it. -/
def request (e : Entry) : Request :=
  match e.command with
  | .add => .add e.rule
  | .delete => .delete e.key

theorem key_request (e : Entry) : e.request.key = e.key := by
  unfold request
  split
  · exact e.key_rule
  · exact Request.key_delete e.key

/-- An entry that adds is accepted if nothing is wrong with it, and then it adds its rule. -/
theorem toRequest_eq_ok_iff {q : Request} (adds : e.command = .add) :
    e.toRequest = .ok q ↔ e.fault = none ∧ q = .add e.rule := by
  simp only [toRequest, adds]
  rcases e.fault with - | error
  · simp [eq_comm]
  · simp

/-- An entry is accepted as the request that it stands for, and only with an output that names a
source. -/
theorem toRequest_eq_ok {q : Request} (h : e.toRequest = .ok q) :
    q = e.request ∧ (e.command = .add → e.output ≤ PrioritySource.maxCode) := by
  unfold request
  rcases hc : e.command with - | -
  · obtain ⟨hf, rfl⟩ := (toRequest_eq_ok_iff hc).1 h
    refine ⟨rfl, fun _ => ?_⟩
    by_contra high
    rw [fault, if_pos (UInt8.not_le.1 high)] at hf
    cases hf
  · simp only [toRequest, hc] at h
    cases h
    exact ⟨rfl, fun hadd => by cases hadd⟩

end RuleFile.Entry

end PacketPriority
