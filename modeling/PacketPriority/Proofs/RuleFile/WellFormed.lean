import PacketPriority.Proofs.Rule.WellFormed
import PacketPriority.Proofs.RuleFile.FlowEntry
import PacketPriority.Proofs.RuleFile.Loading
import PacketPriority.Proofs.RuleFile.MeshEntry
import PacketPriority.Proofs.Table.Feeding

/-!
The rules of accepted rule files are well-formed.

An entry is checked as a mesh entry or as one of a flow kind, against lists of fields that differ,
and its rule is built from the fields that it gives. The flags of the rule name the values that the
entry gives and no others (`Entry.names_meshRule`, `Entry.names_flowRule`), and what the checks ask
of the fields is what makes the rule well-formed (`Entry.wellFormed_rule`). A table that is fed with
the requests of rule files keeps rules of such entries and no others, whatever is flushed, moved or
deleted in between.

The main result is `accepted_files_are_well_formed`.
-/

namespace PacketPriority

namespace RuleFile.Entry

variable {e : Entry}

theorem getD_of_absent {α : Type} {o : Option α} {d : α} (absent : o.isSome = false) :
    o.getD d = d := by
  cases o with
  | none => rfl
  | some a => cases absent

/-! ### Mesh entries -/

theorem meshFormed_rule (mesh : e.kind = .mesh) : e.rule.MeshFormed where
  flowFlags_eq := flowFlags_meshRule mesh
  defined bit set := by
    rw [has_meshRule mesh, Bool.or_eq_true, Bool.and_eq_true, List.any_eq_true] at set
    rcases set with ⟨-, here⟩ | ⟨f, -, here⟩
    · exact .inl (of_decide_eq_true here)
    · have member := List.contains_iff_mem.1 (Bool.and_eq_true_iff.1 here).2
      refine .inr ⟨f, ?_⟩
      unfold MeshField.bits at member
      split at member
      · simpa using member
      · exact .inl (by simpa using member)
  sense f inverted := by
    rw [inverts_rule mesh, Bool.and_eq_true] at inverted
    rw [compares_rule mesh]
    exact inverted.1

theorem names_meshRule (mesh : e.kind = .mesh) (c : Criterion) :
    e.rule.names c = c.meshField?.any e.gives := by
  have compares : e.rule.meshFlags.compares = e.gives := funext (compares_rule mesh)
  have hasFlow : e.rule.flowFlags.hasFlow = fun _ => false := funext (hasFlow_meshRule mesh)
  rw [Rule.names, compares, hasFlow]
  cases c.flowFlag? <;> simp

/-- What a mesh entry does not give is blank in its rule. -/
theorem blank_meshRule (mesh : e.kind = .mesh) (c : Criterion) (h : e.rule.names c = false) :
    e.rule.criteria.AgreesAt {} c := by
  rw [names_meshRule mesh] at h
  rw [criteria_meshRule mesh]
  -- a value that no mesh field names is blank in every rule
  cases c <;> first | rfl | exact getD_of_absent h

/-! ### Flow entries -/

/-- A mask that an entry gives has its address. -/
theorem givesFlow_of_masks {f g : FlowFlag} (sound : e.flowFault = none) (masks : f.masks? = some g)
    (given : e.givesFlow f = true) : e.givesFlow g = true := by
  have paired := List.find?_eq_none.1 ((flowFault_eq_none_iff e).1 sound).2.1
  have pair : ∀ name, (name, e.givesFlow f && !e.givesFlow g) ∈ e.orphanMasks →
      e.givesFlow g = true := by
    intro name listed
    have := paired _ listed
    simpa [given] using this
  cases f <;> cases masks
  case srcIpv4Mask => exact pair "src_ipv4_mask" (by simp [orphanMasks, givesFlow])
  case dstIpv4Mask => exact pair "dst_ipv4_mask" (by simp [orphanMasks, givesFlow])
  case srcIpv6Mask => exact pair "src_ipv6_mask" (by simp [orphanMasks, givesFlow])
  case dstIpv6Mask => exact pair "dst_ipv6_mask" (by simp [orphanMasks, givesFlow])

theorem bounds_le {field : String} {range : Option (List UInt16)}
    (accepted : rangeFault field range = none) :
    ((bounds range).getD (0, 0)).1 ≤ ((bounds range).getD (0, 0)).2 := by
  rcases range with - | - | ⟨first, - | ⟨last, - | ⟨third, rest⟩⟩⟩
  case some.cons.cons.nil =>
    rw [rangeFault] at accepted
    split at accepted
    · assumption
    · cases accepted
  all_goals exact UInt16.le_refl 0

/-- Reducing an address again changes nothing. -/
theorem reduced_eq {α : Type} {mask : α → α → α} {blank addr : α} {m : Option α}
    (idem : ∀ a b, mask (mask a b) b = mask a b) (given : m.isSome = true) :
    reduced mask blank addr m = mask (reduced mask blank addr m) (m.getD blank) := by
  rw [reduced, if_pos given, idem]

theorem flowFormed_rule (flow : e.kind ≠ .mesh) (sound : e.flowFault = none) :
    e.rule.FlowFormed := by
  obtain ⟨-, -, srcRange, dstRange⟩ := (flowFault_eq_none_iff e).1 sound
  constructor
  case meshFlags_eq => exact meshFlags_flowRule flow
  all_goals simp only [hasFlow_flowRule flow, criteria_flowRule flow]
  case mask => exact fun f g masks given => givesFlow_of_masks sound masks given
  case srcRange | dstRange => rfl
  case srcRange_le => exact fun _ => bounds_le srcRange
  case dstRange_le => exact fun _ => bounds_le dstRange
  case srcIpv4 | dstIpv4 => exact fun given => reduced_eq Ipv4.mask_mask given
  case srcIpv6 | dstIpv6 => exact fun given => reduced_eq Ipv6.mask_mask given

theorem names_flowRule (flow : e.kind ≠ .mesh) (c : Criterion) :
    e.rule.names c = c.flowFlag?.any e.givesFlow := by
  have hasFlow : e.rule.flowFlags.hasFlow = e.givesFlow := funext (hasFlow_flowRule flow)
  have compares : Flags.compares 0 = fun _ => false := funext fun f => Flags.has_zero f.bit
  rw [Rule.names, hasFlow, meshFlags_flowRule flow, compares]
  cases c.meshField? <;> simp

theorem reduced_of_absent {α : Type} {mask : α → α → α} {blank : α} {o m : Option α}
    (absent : o.isSome = false) (unmasked : m.isSome = false) :
    reduced mask blank (o.getD blank) m = blank := by
  rw [reduced, unmasked, if_neg Bool.false_ne_true, getD_of_absent absent]

/-- What a flow entry does not give is blank in its rule; the index of a device has no flag that
tells. -/
theorem blank_flowRule (flow : e.kind ≠ .mesh) (sound : e.flowFault = none) (c : Criterion)
    (flagged : c ≠ .ifindex) (h : e.rule.names c = false) : e.rule.criteria.AgreesAt {} c := by
  have unmasked {f g : FlowFlag} (masks : f.masks? = some g) (absent : e.givesFlow g = false) :
      e.givesFlow f = false := by
    by_contra given
    rw [givesFlow_of_masks sound masks (Bool.eq_true_of_not_eq_false given)] at absent
    cases absent
  rw [names_flowRule flow] at h
  rw [criteria_flowRule flow]
  cases c
  case ifindex => exact absurd rfl flagged
  case userPriority => rfl
  -- an address that is absent has no mask that could reduce it
  case srcIpv4 => exact reduced_of_absent h (unmasked (f := .srcIpv4Mask) rfl h)
  case dstIpv4 => exact reduced_of_absent h (unmasked (f := .dstIpv4Mask) rfl h)
  case srcIpv6 => exact reduced_of_absent h (unmasked (f := .srcIpv6Mask) rfl h)
  case dstIpv6 => exact reduced_of_absent h (unmasked (f := .dstIpv6Mask) rfl h)
  case srcPortFirst | dstPortFirst | spiValue => exact congrArg Prod.fst (getD_of_absent h)
  case srcPortLast | dstPortLast | spiMask => exact congrArg Prod.snd (getD_of_absent h)
  all_goals exact getD_of_absent h

/-! ### Entries -/

/-- **The rule of an entry with which nothing is wrong is well-formed.** -/
theorem wellFormed_rule (sound : e.fault = none) : e.rule.WellFormed := by
  obtain ⟨-, kind, -, treatment⟩ := e.rule_head
  constructor
  case output_le =>
    rw [treatment]
    show e.output ≤ 9
    by_contra high
    have outside : PrioritySource.maxCode < e.output := UInt8.not_le.1 high
    rw [fault, if_pos outside] at sound
    cases sound
  case mesh => exact fun mesh => meshFormed_rule (kind ▸ mesh)
  case flow =>
    intro flow
    rw [kind] at flow
    exact flowFormed_rule flow (flowFault_of_fault flow sound)
  case blank =>
    intro c device h
    rw [kind] at device
    by_cases mesh : e.kind = .mesh
    · exact blank_meshRule mesh c h
    · exact blank_flowRule mesh (flowFault_of_fault mesh sound) c (mt device mesh) h

end RuleFile.Entry

namespace RuleFile

/-! ### The main result -/

/-- The request is one of those that some text is parsed as. -/
def Gives (q : Request) : Prop :=
  ∃ max text source qs, parse max text source = .ok qs ∧ q ∈ qs

theorem Gives.wellFormed {q : Request} (h : Gives q) (add : q.command = .add) :
    q.rule.WellFormed := by
  obtain ⟨max, text, source, qs, parsed, hq⟩ := h
  obtain ⟨es, -, -, accepted, rfl⟩ := parse_eq_ok_iff.1 parsed
  obtain ⟨e, he, rfl⟩ := List.mem_map.1 hq
  obtain ⟨q, hq⟩ := accepted e (mem_of_mem_firsts he)
  rw [Entry.request] at add ⊢
  rcases hc : e.command with - | -
  · exact Entry.wellFormed_rule ((Entry.toRequest_eq_ok_iff hc).1 hq).1
  · rw [hc] at add
    cases add

/-- **Accepted rule files contain well-formed rules only, and so does every table that is fed with
them.** For all texts that are parsed, all rules that they add; and for all limits, all moments of
all uses of a table that is empty at first and to which only requests of such texts are applied, all
live rules. -/
theorem accepted_files_are_well_formed :
    (∀ max text source qs, parse max text source = .ok qs →
      ∀ q ∈ qs, q.command = .add → q.rule.WellFormed) ∧
    ∀ limits t, Fed limits Gives t → ∀ r ∈ t.dump, r.WellFormed := by
  constructor
  · intro max text source qs parsed q hq add
    exact Gives.wellFormed ⟨max, text, source, qs, parsed, hq⟩ add
  · intro limits t fed
    exact fed.forall_dump fun q gives add => (gives.wellFormed add).lowered

/-- Two files, and a flush between them. The rule of the first one is kept under another precedence,
and that of the second one in the place of a rule of its own key. -/
theorem accepted_files_are_well_formed_of_flush :
    let first := "[[rules]]\nid = 1\nprecedence = 255\nsrc_ipv4 = '10.1.2.3'\n" ++
      "src_ipv4_mask = '255.255.0.0'\nsrc_port_range = [1000, 2000]\n"
    let second := "[[rules]]\nid = 1\ntype = 'mesh'\ndscp = 46\nsense = ['dscp']\n"
    ∃ qs qs', parse 8 first "first.toml" = .ok qs ∧ parse 8 second "second.toml" = .ok qs' ∧
      (let t := (Table.new {}).run [.load qs]
       t.dump.length = 1 ∧ ∀ r ∈ t.dump, r.WellFormed) ∧
      (let t := (Table.new {}).run [.load qs, .flush, .load qs', .load qs']
       t.dump.length = 1 ∧ ∀ r ∈ t.dump, r.WellFormed) := by
  intro first second
  let e : Entry :=
    { id := 1, precedence := 255, srcIpv4 := some ⟨10, 1, 2, 3⟩,
      srcIpv4Mask := some ⟨255, 255, 0, 0⟩, srcPortRange := some [1000, 2000] }
  let e' : Entry := { id := 1, kind := .mesh, dscp := some 46, sense := ["dscp"] }
  have parsed : parse 8 first "first.toml" = .ok [.add e.rule] := by decide +kernel
  have parsed' : parse 8 second "second.toml" = .ok [.add e'.rule] := by decide +kernel
  have gives : ∀ q ∈ [Request.add e.rule], Gives q := fun q hq => ⟨_, _, _, _, parsed, hq⟩
  have gives' : ∀ q ∈ [Request.add e'.rule], Gives q := fun q hq => ⟨_, _, _, _, parsed', hq⟩
  have loaded : Fed {} Gives ((Table.new {}).operate (.load [.add e.rule])).1 :=
    (Fed.empty .new (by decide +kernel)).operate _ gives
  have reloaded := ((loaded.operate .flush (List.forall_mem_nil _)).operate (.load [.add e'.rule])
    gives').operate (.load [.add e'.rule]) gives'
  exact ⟨_, _, parsed, parsed', ⟨by decide +kernel, accepted_files_are_well_formed.2 _ _ loaded⟩,
    ⟨by decide +kernel, accepted_files_are_well_formed.2 _ _ reloaded⟩⟩

end RuleFile

end PacketPriority
