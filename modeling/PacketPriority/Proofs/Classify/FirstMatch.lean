import PacketPriority.Proofs.Table.Soundness

/-!
Classifying is looking for the first match in the dump.

`FirstMatch` says what each classifier answers, given nothing but the list of rules that a dump
shows: the first rule in that list that is of the right kind and that the packet matches, or the
values that stand for no rule. The classifiers themselves walk through the buckets and take the
counter's word for an empty store. On reachable tables both come to the same
(`Reachable.classify_first_match`): the walk reads the list of the dump, and the counter is zero
exactly when that list is empty.
-/

namespace PacketPriority

/-- A byte has no bit from the eighth on. -/
theorem testBit_of_eight_le (b : UInt8) {n : Nat} (h : 8 ≤ n) : b.toNat.testBit n = false := by
  have small : b.toNat < 2 ^ n :=
    calc b.toNat < 2 ^ 8 := b.toNat_lt
      _ ≤ 2 ^ n := Nat.pow_le_pow_right Nat.two_pos h
  exact Nat.testBit_lt_two_pow small

/-! ### First matches -/

namespace FirstMatch

/-- The first rule of a kind that passes a test. -/
def ofKind (kind : RuleKind) (test : Rule → Bool) (rules : List Rule) : Option Rule :=
  rules.find? fun r => r.kind = kind ∧ test r

def scs (rules : List Rule) (p : Packet) : PriorityDecision :=
  match ofKind .scs (·.matchesFlow p) rules with
  | some r => ⟨r.treatment.output, r.id⟩
  | none => ⟨255, 4294967295⟩

/-- A rule without the bit of the link priority is passed over, later ones are still tried. -/
def mscs (rules : List Rule) (p : Packet) : PriorityDecision :=
  let admits (r : Rule) := r.treatment.mscsTidBitmap.toNat.testBit p.priority.toNat
  match ofKind .mscs (fun r => r.matchesFlow p && admits r) rules with
  | some r => ⟨p.priority, r.id⟩
  | none => ⟨255, 4294967295⟩

/-- The rules of the second kind are tried only if no rule of the first kind matches at all. -/
def sawf (rules : List Rule) (p : Packet) : SawfDecision :=
  let test := (·.matchesFlow p)
  match (ofKind .sawf test rules).or (ofKind .sawfScs test rules) with
  | some r =>
    ⟨r.treatment.output, r.treatment.dscpRemark, r.treatment.vlanPcpRemark,
      r.treatment.serviceClassId, r.id⟩
  | none => ⟨9, 255, 255, 255, 4294967295⟩

/-- Rules of every kind are tried, by their mesh flags. -/
def latency (rules : List Rule) (p : Packet) : Latency :=
  match rules.find? (·.matchesMesh p) with
  | some r =>
    ⟨r.treatment.serviceIntervalDl, r.treatment.burstSizeDl, r.treatment.serviceIntervalUl,
      r.treatment.burstSizeUl⟩
  | none => ⟨0, 0, 0, 0⟩

/-- An output up to 7 is the priority itself, 8 is the link priority, and 9 the upper bits of the
DSCP value, which only an IP packet has. A list without any rule is an output of 9. -/
def mesh (defaultPcp : UInt8) (rules : List Rule) (p : Packet) : UInt8 :=
  let byDscp := if p.network.isIp then p.dscp >>> 3 else defaultPcp
  match ofKind .mesh (·.matchesMesh p) rules with
  | some r =>
    if r.treatment.output ≤ 7 then r.treatment.output
    else if r.treatment.output = 8 then p.priority
    else byDscp
  | none => if rules = [] then byDscp else defaultPcp

/-- A link priority above 7 has no bit, so that no rule admits it. -/
theorem mscs_of_priority_ge {p : Packet} (h : 8 ≤ p.priority) (rules : List Rule) :
    mscs rules p = ⟨255, 4294967295⟩ := by
  have none : ofKind .mscs (fun r => r.matchesFlow p &&
      r.treatment.mscsTidBitmap.toNat.testBit p.priority.toNat) rules = none := by
    refine List.find?_eq_none.2 fun r _ => ?_
    simp [testBit_of_eight_le r.treatment.mscsTidBitmap (UInt8.le_iff_toNat_le.1 h)]
  simp only [mscs, none]

end FirstMatch

/-! ### Sources and bits -/

/-- What an output code that the table takes gives a packet. -/
theorem PrioritySource.resolve_ofCode {c : UInt8} (h : c ≤ maxCode) (defaultPcp : UInt8)
    (p : Packet) :
    (ofCode c).resolve defaultPcp p =
      if c ≤ 7 then c
      else if c = 8 then p.priority
      else if p.network.isIp then p.dscp >>> 3 else defaultPcp := by
  unfold ofCode
  by_cases fixed : c ≤ 7
  · simp only [if_pos fixed]
    rfl
  · by_cases link : c = 8
    · simp only [if_neg fixed, if_pos link]
      rfl
    · -- between 7 and the largest code only 9 is left
      have code : c = 9 := by
        simp only [maxCode, UInt8.le_iff_toNat_le, ← UInt8.toNat_inj] at h fixed link ⊢
        simp at h fixed link ⊢
        omega
      simp only [if_neg fixed, if_neg link, if_pos code]
      rfl

/-- The bit of a link priority in the bitmap, where the bitmap is read as a number. -/
theorem Rule.admitsTid_eq (r : Rule) (p : Packet) :
    r.admitsTid p = r.treatment.mscsTidBitmap.toNat.testBit p.priority.toNat := by
  have bit : r.treatment.mscsTidBitmap.toBitVec.getLsbD p.priority.toNat =
      r.treatment.mscsTidBitmap.toNat.testBit p.priority.toNat := rfl
  rw [admitsTid, bit]
  by_cases h : p.priority < 8
  · simp [h]
  · have high : 8 ≤ p.priority.toNat := UInt8.le_iff_toNat_le.1 (UInt8.not_lt.1 h)
    simp [h, testBit_of_eight_le r.treatment.mscsTidBitmap high]

/-! ### Stores -/

namespace Store

variable {s : Store} {limits : Limits} {l : List Node}

/-- What a store looks for it finds in its dump. -/
theorem first?_eq_find? (s : Store) (test : Rule → Bool) : s.first? test = s.dump.find? test := by
  rw [first?_eq, dump_eq_rules]

theorem first?_ofKind (s : Store) (kind : RuleKind) (test : Rule → Bool) :
    s.first? (fun r => r.kind == kind && test r) = FirstMatch.ofKind kind test s.dump := by
  rw [first?_eq_find?, FirstMatch.ofKind]
  refine congrArg (List.find? · s.dump) (funext fun r => ?_)
  rw [Bool.decide_and, Bool.decide_eq_true, beq_eq_decide]

/-- The counter is zero exactly when there is nothing to dump. -/
theorem Lists.isEmpty_iff (h : s.Lists l) : s.isEmpty = true ↔ s.dump = [] := by
  rw [isEmpty, beq_iff_eq, h.count_eq_zero_iff, dump_eq_rules, rules, List.map_eq_nil_iff]
  exact ⟨fun e => List.perm_nil.1 (e ▸ h.nodes_perm), fun e => List.nil_perm.1 (e ▸ h.nodes_perm)⟩

theorem classifyScs_eq (s : Store) (p : Packet) : s.classifyScs p = FirstMatch.scs s.dump p := by
  have found := s.first?_ofKind .scs (·.matchesFlow p)
  unfold classifyScs FirstMatch.scs
  rw [← found]
  rfl

theorem classifyMscs_eq (s : Store) (p : Packet) : s.classifyMscs p = FirstMatch.mscs s.dump p := by
  have found := s.first?_ofKind .mscs fun r => r.matchesFlow p && r.admitsTid p
  simp only [Rule.admitsTid_eq] at found
  unfold classifyMscs FirstMatch.mscs
  simp only [← found, Rule.isMscsMatch, Rule.isFlowMatch, Rule.admitsTid_eq, Bool.and_assoc]
  rfl

theorem latency_eq (s : Store) (p : Packet) : s.latency p = FirstMatch.latency s.dump p := by
  have found := s.first?_eq_find? (·.matchesMesh p)
  unfold latency FirstMatch.latency
  rw [← found]
  rfl

theorem Lists.classifySawf_eq (h : s.Lists l) (p : Packet) :
    s.classifySawf p = FirstMatch.sawf s.dump p := by
  have first := s.first?_ofKind .sawf (·.matchesFlow p)
  have second := s.first?_ofKind .sawfScs (·.matchesFlow p)
  -- the counter is asked first, but an empty dump has no match anyway
  rcases hempty : s.isEmpty with - | -
  · simp only [classifySawf, hempty, FirstMatch.sawf, ← first, ← second]
    rcases e : s.first? (fun r => r.kind == .sawf && r.matchesFlow p) with - | r
    · simp only [Rule.isFlowMatch, e, Option.none_or]
      rfl
    · simp only [Rule.isFlowMatch, e, Option.some_or]
      rfl
  · have nothing : s.dump = [] := h.isEmpty_iff.1 hempty
    simp only [classifySawf, hempty, nothing, FirstMatch.sawf]
    rfl

theorem Keeps.classifyMesh_eq (h : s.Keeps limits l) (defaultPcp : UInt8) (p : Packet) :
    s.classifyMesh defaultPcp p = FirstMatch.mesh defaultPcp s.dump p := by
  have found : s.meshRule? p = FirstMatch.ofKind .mesh (·.matchesMesh p) s.dump :=
    s.first?_ofKind .mesh (·.matchesMesh p)
  unfold classifyMesh meshSource FirstMatch.mesh
  rw [found]
  rcases e : FirstMatch.ofKind .mesh (·.matchesMesh p) s.dump with - | r
  · -- no rule: the counter tells whether there are others
    by_cases hempty : s.dump = []
    · simp only [h.isEmpty_iff.2 hempty, hempty, if_true]
      rfl
    · have some : s.isEmpty = false := by
        rw [← Bool.not_eq_true, h.isEmpty_iff]
        exact hempty
      simp only [some, hempty, if_false]
      rfl
  · have code : r.treatment.output ≤ PrioritySource.maxCode :=
      h.sound.output_le r (List.mem_of_find?_eq_some e)
    exact PrioritySource.resolve_ofCode code defaultPcp p

end Store

/-! ### Tables -/

namespace Reachable

variable {limits : Limits} {t : Table}

/-- **Every classifier answers by the first match in the dump**, on all reachable tables and for
all packets. -/
theorem classify_first_match (h : Reachable limits t) (p : Packet) :
    (t.classifyScs p).2 = FirstMatch.scs t.dump p ∧
    (t.classifyMscs p).2 = FirstMatch.mscs t.dump p ∧
    (8 ≤ p.priority → (t.classifyMscs p).2 = ⟨255, 4294967295⟩) ∧
    (t.classifySawf p).2 = FirstMatch.sawf t.dump p ∧
    (t.latency p).2 = FirstMatch.latency t.dump p ∧
    (t.classifyMesh p).2 = FirstMatch.mesh limits.defaultPcp t.dump p := by
  obtain ⟨hlimits, nodes, hkeeps⟩ := h.keeps
  have mscs := t.store.classifyMscs_eq p
  refine ⟨t.store.classifyScs_eq p, mscs, fun high => ?_, hkeeps.classifySawf_eq p,
    t.store.latency_eq p, ?_⟩
  · exact mscs.trans (FirstMatch.mscs_of_priority_ge high t.store.dump)
  · rw [← hlimits]
    exact hkeeps.classifyMesh_eq t.limits.defaultPcp p

/-- The rule of higher precedence has no bit for the packet, and the next one is taken. -/
theorem classify_first_match_of_rejection :
    let t := (Table.new {}).run [
      .apply (.add
        { id := 1, kind := .mscs, precedence := 9, treatment := { mscsTidBitmap := 1 } }),
      .apply (.add { id := 2, kind := .mscs, treatment := { mscsTidBitmap := 32 } })]
    (t.classifyMscs { priority := 5 }).2 = FirstMatch.mscs t.dump { priority := 5 } ∧
      FirstMatch.mscs t.dump { priority := 5 } = ⟨5, 2⟩ :=
  ⟨((Reachable.new.run _).classify_first_match { priority := 5 }).2.1, by decide +kernel⟩

end Reachable

end PacketPriority
