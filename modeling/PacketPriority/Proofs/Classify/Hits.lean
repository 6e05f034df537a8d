import PacketPriority.CommandLine.Run
import PacketPriority.Proofs.Classify.FirstMatch

/-!
Whether a decision tells that a rule has been found.

A decision of the classifiers by flow names the rule that made it, and the identifier 4294967295
stands for no rule. But a table takes rules of every identifier, this one included, and such a rule
is selected like any other. So a decision tells the truth exactly if the rule that is selected, if
there is one, has another identifier (`Tells.truthful_iff`), and what is counted and printed follows
the decision, not the selection. The main result is `Reachable.flow_decisions_tell`;
`isMatch_denies_selected` is a table in which a decision denies the rule that made it.
-/

namespace PacketPriority

/-! ### Which rule is selected -/

namespace FirstMatch

/-- What a classifier asks of a rule that is to answer a packet. -/
def Candidate (p : Packet) (r : Rule) : Flavor → Prop
  | .sawf => (r.kind = .sawf ∨ r.kind = .sawfScs) ∧ r.matchesFlow p = true
  | .scs => r.kind = .scs ∧ r.matchesFlow p = true
  | .mscs => r.kind = .mscs ∧ r.matchesFlow p = true ∧
      r.treatment.mscsTidBitmap.toNat.testBit p.priority.toNat = true
  | .mesh => r.kind = .mesh ∧ r.matchesMesh p = true
  | .latency => r.matchesMesh p = true

/-- The rule by which a classifier answers a packet. -/
def selected (rules : List Rule) (p : Packet) : Flavor → Option Rule
  | .sawf => (ofKind .sawf (·.matchesFlow p) rules).or (ofKind .sawfScs (·.matchesFlow p) rules)
  | .scs => ofKind .scs (·.matchesFlow p) rules
  | .mscs => ofKind .mscs (fun r => r.matchesFlow p &&
      r.treatment.mscsTidBitmap.toNat.testBit p.priority.toNat) rules
  | .mesh => ofKind .mesh (·.matchesMesh p) rules
  | .latency => rules.find? (·.matchesMesh p)

theorem ofKind_isSome_iff {kind : RuleKind} {test : Rule → Bool} {rules : List Rule} :
    (ofKind kind test rules).isSome = true ↔ ∃ r ∈ rules, r.kind = kind ∧ test r = true := by
  simp [ofKind, List.find?_isSome]

/-- A rule is selected if there is a candidate. -/
theorem selected_isSome_iff (rules : List Rule) (p : Packet) (flavor : Flavor) :
    (selected rules p flavor).isSome = true ↔ ∃ r ∈ rules, Candidate p r flavor := by
  cases flavor with
  | sawf =>
    rw [selected, Option.isSome_or, Bool.or_eq_true, ofKind_isSome_iff, ofKind_isSome_iff]
    constructor
    · rintro (⟨r, hr, kind, matching⟩ | ⟨r, hr, kind, matching⟩)
      · exact ⟨r, hr, .inl kind, matching⟩
      · exact ⟨r, hr, .inr kind, matching⟩
    · rintro ⟨r, hr, kind | kind, matching⟩
      · exact .inl ⟨r, hr, kind, matching⟩
      · exact .inr ⟨r, hr, kind, matching⟩
  | scs => exact ofKind_isSome_iff
  | mscs => simp only [selected, ofKind_isSome_iff, Candidate, Bool.and_eq_true]
  | mesh => exact ofKind_isSome_iff
  | latency => simp [selected, List.find?_isSome, Candidate]

theorem mem_of_selected {rules : List Rule} {p : Packet} {flavor : Flavor} {r : Rule}
    (h : selected rules p flavor = some r) : r ∈ rules := by
  cases flavor with
  | sawf =>
    rcases Option.or_eq_some_iff.1 h with first | ⟨-, second⟩
    · exact List.mem_of_find?_eq_some first
    · exact List.mem_of_find?_eq_some second
  | scs | mscs | mesh | latency => exact List.mem_of_find?_eq_some h

/-- The identifier that a decision carries. -/
theorem ruleId_sawf (rules : List Rule) (p : Packet) :
    (sawf rules p).ruleId = ((selected rules p .sawf).map (·.id)).getD noRuleId := by
  rw [sawf, selected]
  cases (ofKind .sawf (·.matchesFlow p) rules).or (ofKind .sawfScs (·.matchesFlow p) rules) <;> rfl

theorem ruleId_scs (rules : List Rule) (p : Packet) :
    (scs rules p).ruleId = ((selected rules p .scs).map (·.id)).getD noRuleId := by
  rw [scs, selected]
  cases ofKind .scs (·.matchesFlow p) rules <;> rfl

theorem ruleId_mscs (rules : List Rule) (p : Packet) :
    (mscs rules p).ruleId = ((selected rules p .mscs).map (·.id)).getD noRuleId := by
  simp only [mscs, selected]
  cases ofKind .mscs (fun r => r.matchesFlow p &&
    r.treatment.mscsTidBitmap.toNat.testBit p.priority.toNat) rules <;> rfl

end FirstMatch

open FirstMatch

/-! ### What a decision tells -/

/-- What a classification by flow that turns the table `t` into `u` tells of the rule that it
selects, in a decision that says `isMatch`. -/
structure Tells (t u : Table) (p : Packet) (flavor : Flavor) (isMatch : Bool) : Prop where
  /-- The decision names a rule if one is selected, of any identifier but one. -/
  isMatch_iff : isMatch = true ↔ ∃ r, selected t.dump p flavor = some r ∧ r.id ≠ 4294967295
  /-- It tells the truth exactly if the rule that is selected has not that identifier. -/
  truthful_iff : (isMatch = true ↔ ∃ r ∈ t.dump, Candidate p r flavor) ↔
    ∀ r, selected t.dump p flavor = some r → r.id ≠ 4294967295
  /-- Hence always in a table whose rules have other identifiers. -/
  truthful : (∀ r ∈ t.dump, r.id ≠ 4294967295) →
    (isMatch = true ↔ ∃ r ∈ t.dump, Candidate p r flavor)
  /-- What is counted as a hit or a miss is what the decision says. -/
  counted : ∀ s, u.meter.count s =
    t.meter.count s + if s = .classifications flavor isMatch then 1 else 0
  /-- And so is what is printed. -/
  printed : (CommandLine.decision t p flavor).lines = CommandLine.noMatch ↔ isMatch = false

theorem ruleId_bne_iff {o : Option Rule} :
    ((o.map (·.id)).getD noRuleId != noRuleId) = true ↔ ∃ r, o = some r ∧ r.id ≠ 4294967295 := by
  cases o with
  | none => simp
  | some r => simp [noRuleId]

theorem Tells.of_ruleId {t : Table} {p : Packet} {flavor : Flavor} {id : UInt32}
    (hid : id = ((selected t.dump p flavor).map (·.id)).getD noRuleId)
    (printed : (CommandLine.decision t p flavor).lines = CommandLine.noMatch ↔
      (id != noRuleId) = false) :
    Tells t (t.measure (.classifications flavor (id != noRuleId))) p flavor (id != noRuleId) := by
  have isMatch_iff := ruleId_bne_iff (o := selected t.dump p flavor)
  rw [← hid] at isMatch_iff
  have truthful_iff : ((id != noRuleId) = true ↔ ∃ r ∈ t.dump, Candidate p r flavor) ↔
      ∀ r, selected t.dump p flavor = some r → r.id ≠ 4294967295 := by
    -- a rule is selected exactly if there is a candidate, so only its identifier can be amiss
    rw [isMatch_iff, ← selected_isSome_iff]
    rcases selected t.dump p flavor with - | r
    · simp
    · simp
  refine ⟨isMatch_iff, truthful_iff, fun ids => ?_, fun s => ?_, printed⟩
  · exact truthful_iff.2 fun r selected => ids r (mem_of_selected selected)
  · rw [Table.measure, Meter.count_increment]
    simp only [eq_comm]

/-- A report says that there is no match if the decision says so. -/
theorem lines_sawf_iff (d : SawfDecision) :
    (CommandLine.Decision.sawf d).lines = CommandLine.noMatch ↔ d.isMatch = false := by
  rw [CommandLine.Decision.lines]
  cases d.isMatch <;> simp [CommandLine.noMatch]

theorem lines_priority_iff (d : PriorityDecision) :
    (CommandLine.Decision.priority d).lines = CommandLine.noMatch ↔ d.isMatch = false := by
  rw [CommandLine.Decision.lines]
  cases d.isMatch <;> simp [CommandLine.noMatch]

/-! ### The main result -/

/-- **What the decisions by flow tell**, of all reachable tables and all packets. -/
theorem Reachable.flow_decisions_tell {limits : Limits} {t : Table} (h : Reachable limits t)
    (p : Packet) :
    Tells t (t.classifySawf p).1 p .sawf (t.classifySawf p).2.isMatch ∧
      Tells t (t.classifyScs p).1 p .scs (t.classifyScs p).2.isMatch ∧
      Tells t (t.classifyMscs p).1 p .mscs (t.classifyMscs p).2.isMatch := by
  obtain ⟨-, nodes, hkeeps⟩ := h.keeps
  refine ⟨.of_ruleId ?_ (lines_sawf_iff _), .of_ruleId ?_ (lines_priority_iff _),
    .of_ruleId ?_ (lines_priority_iff _)⟩
  · rw [hkeeps.classifySawf_eq p]
    exact ruleId_sawf _ p
  · rw [t.store.classifyScs_eq p]
    exact ruleId_scs _ p
  · rw [t.store.classifyMscs_eq p]
    exact ruleId_mscs _ p

/-- Two rules apply. While the one of identifier 4294967295 goes first there is no match, and
without it there is one. -/
theorem Reachable.flow_decisions_tell_of_reserved :
    let first : Rule := { id := 4294967295, precedence := 1 }
    let second : Rule := { id := 7 }
    let t := (Table.new {}).run [.apply (.add first), .apply (.add second)]
    let u := t.run [.apply (.delete first.key)]
    Tells t (t.classifySawf {}).1 {} .sawf false ∧ Tells u (u.classifySawf {}).1 {} .sawf true := by
  intro first second t u
  have reachable : Reachable {} t := Reachable.new.run _
  have denied := (reachable.flow_decisions_tell {}).1
  have told := ((reachable.run [.apply (.delete first.key)]).flow_decisions_tell {}).1
  have isMatch : (t.classifySawf {}).2.isMatch = false := by decide +kernel
  have isMatch' : (u.classifySawf {}).2.isMatch = true := by decide +kernel
  rw [isMatch] at denied
  exact ⟨denied, isMatch' ▸ told⟩

/-- **A decision may deny the rule that made it.** The rule file is accepted, its rule is live and
selected, the packet gets its priority, and yet there is no match, a miss is counted and `NO MATCH`
is printed. -/
theorem isMatch_denies_selected :
    let text := "[[rules]]\nid = 4294967295\noutput = 5\n"
    let host : CommandLine.Host := ⟨fun _ => .text 37 text, fun _ => none⟩
    let r : Rule := { id := 4294967295, treatment := { output := 5 } }
    ∃ loaded, CommandLine.loadTable host {} "rules.toml" = .ok loaded ∧ loaded.rejected = [] ∧
      loaded.table.dump = [r] ∧ Candidate {} r .sawf ∧
      (loaded.table.classifySawf {}).2 = ⟨5, 255, 255, 255, 4294967295⟩ ∧
      (loaded.table.classifySawf {}).2.isMatch = false ∧
      (loaded.table.classifySawf {}).1.meter.count (.classifications .sawf false) = 1 ∧
      (CommandLine.decision loaded.table {} .sawf).lines = ["  NO MATCH"] := by
  intro text host r
  have loads : CommandLine.requestsAt host {} "rules.toml" = .ok [.add r] := by decide +kernel
  refine ⟨.ofRequests {} [.add r], by rw [CommandLine.loadTable, loads], ?_⟩
  refine ⟨by decide +kernel, by decide +kernel, ⟨.inl rfl, by decide +kernel⟩, ?_⟩
  exact ⟨by decide +kernel, by decide +kernel, by decide +kernel, by decide +kernel⟩

end PacketPriority
