import PacketPriority.Proofs.Classify.Hits
import PacketPriority.Proofs.Ledger.Step

/-!
An update disturbs no classifier but those that take its rule.

An update writes under one key and nowhere else. So a test that fails the rule under that key, as
it was and as it is, sees the same rules in the same order before and after
(`Ledger.Step.filter_eq`), wherever the rule stood and wherever it stands now. A classifier looks
for the first of its candidates and for nothing else (`FirstMatch.selected_congr`), and so it
selects the same rule, which settles its decision. Only the classifier of the mesh asks one thing
more, whether there are rules at all.

Rules of kinds that a classifier does not consult are never its candidates, under whatever
identifier they are kept. The main result is `Reachable.kinds_do_not_interfere`.
-/

namespace PacketPriority

/-! ### What a test sees of a dump -/

/-- The first match in a dump is settled by the matches, in the order of the ledger. -/
theorem Rule.find?_ranked (P : Rule → Bool) (l : List Rule) :
    (ranked l).find? P = (l.filter P).argmax (·.precedence.toNat) := by
  have sorted : ranked l = l.mergeSort fun r s => s.precedence.toNat ≤ r.precedence.toNat := by
    simp only [ranked, UInt8.le_iff_toNat_le]
  rw [sorted, find?_mergeSort]

/-! ### What a classifier looks for -/

namespace FirstMatch

variable {rules rules' : List Rule} {p : Packet} {flavor : Flavor}

/-- The kinds of rules that a classifier consults. -/
def Consults : Flavor → RuleKind → Prop
  | .sawf, kind => kind = .sawf ∨ kind = .sawfScs
  | .scs, kind => kind = .scs
  | .mscs, kind => kind = .mscs
  | .mesh, kind => kind = .mesh
  | .latency, _ => True

theorem Candidate.consults {r : Rule} (h : Candidate p r flavor) : Consults flavor r.kind := by
  cases flavor with
  | latency => trivial
  | sawf | scs | mscs | mesh => exact h.1

/-- Two candidates that a classifier tries in one pass, so that their precedences decide between
them. The latency look-up takes rules of all kinds in one pass, the others take one kind at a
time. -/
def Rivals (p : Packet) (r s : Rule) (flavor : Flavor) : Prop :=
  Candidate p r flavor ∧ Candidate p s flavor ∧ (flavor = .latency ∨ r.kind = s.kind)

/-- A classifier looks for candidates of one pass at a time and for nothing else. -/
theorem selected_congr_of_rivals
    (same : ∀ P : Rule → Bool, (∀ r s, P r = true → P s = true → Rivals p r s flavor) →
      rules'.find? P = rules.find? P) : selected rules' p flavor = selected rules p flavor := by
  cases flavor with
  | sawf =>
    have first := same (fun r => r.kind = .sawf ∧ r.matchesFlow p) fun r s hr hs => by
      obtain ⟨kind, matching⟩ := of_decide_eq_true hr
      obtain ⟨kind', matching'⟩ := of_decide_eq_true hs
      exact ⟨⟨.inl kind, matching⟩, ⟨.inl kind', matching'⟩, .inr (kind.trans kind'.symm)⟩
    have second := same (fun r => r.kind = .sawfScs ∧ r.matchesFlow p) fun r s hr hs => by
      obtain ⟨kind, matching⟩ := of_decide_eq_true hr
      obtain ⟨kind', matching'⟩ := of_decide_eq_true hs
      exact ⟨⟨.inr kind, matching⟩, ⟨.inr kind', matching'⟩, .inr (kind.trans kind'.symm)⟩
    exact congrArg₂ Option.or first second
  | scs | mesh =>
    refine same _ fun r s hr hs => ?_
    obtain ⟨kind, matching⟩ := of_decide_eq_true hr
    obtain ⟨kind', matching'⟩ := of_decide_eq_true hs
    exact ⟨⟨kind, matching⟩, ⟨kind', matching'⟩, .inr (kind.trans kind'.symm)⟩
  | mscs =>
    refine same _ fun r s hr hs => ?_
    obtain ⟨kind, matching⟩ := of_decide_eq_true hr
    obtain ⟨kind', matching'⟩ := of_decide_eq_true hs
    exact ⟨⟨kind, Bool.and_eq_true_iff.1 matching⟩, ⟨kind', Bool.and_eq_true_iff.1 matching'⟩,
      .inr (kind.trans kind'.symm)⟩
  | latency => exact same _ fun r s hr hs => ⟨hr, hs, .inl rfl⟩

/-- A classifier looks for candidates and for nothing else. -/
theorem selected_congr (same : ∀ P : Rule → Bool, (∀ r, P r = true → Candidate p r flavor) →
    rules'.find? P = rules.find? P) : selected rules' p flavor = selected rules p flavor :=
  selected_congr_of_rivals fun P hP => same P fun r hr => (hP r r hr hr).1

end FirstMatch

open FirstMatch

/-! ### Decisions -/

/-- Two tables give a packet the same decision. -/
def Table.DecidesAlike (t u : Table) (p : Packet) : Flavor → Prop
  | .sawf => (u.classifySawf p).2 = (t.classifySawf p).2
  | .scs => (u.classifyScs p).2 = (t.classifyScs p).2
  | .mscs => (u.classifyMscs p).2 = (t.classifyMscs p).2
  | .mesh => (u.classifyMesh p).2 = (t.classifyMesh p).2
  | .latency => (u.latency p).2 = (t.latency p).2

namespace Reachable

variable {limits : Limits} {t u : Table} {p : Packet} {flavor : Flavor}

theorem dump_ne_nil (h : Reachable limits t) (filled : t.count ≠ 0) : t.dump ≠ [] := by
  obtain ⟨-, nodes, hkeeps⟩ := h.keeps
  intro nothing
  exact filled (beq_iff_eq.1 (hkeeps.isEmpty_iff.2 nothing))

/-- The rule that is selected settles the decision; for the mesh both tables have to be filled, or
neither. -/
theorem decidesAlike (h : Reachable limits t) (h' : Reachable limits u)
    (same : selected u.dump p flavor = selected t.dump p flavor)
    (filled : flavor = .mesh → (u.dump = [] ↔ t.dump = [])) : t.DecidesAlike u p flavor := by
  obtain ⟨scs, mscs, -, sawf, latency, mesh⟩ := h.classify_first_match p
  obtain ⟨scs', mscs', -, sawf', latency', mesh'⟩ := h'.classify_first_match p
  simp only [selected] at same
  cases flavor with
  | sawf => simp only [Table.DecidesAlike, sawf, sawf', FirstMatch.sawf, same]
  | scs => simp only [Table.DecidesAlike, scs, scs', FirstMatch.scs, same]
  | mscs => simp only [Table.DecidesAlike, mscs, mscs', FirstMatch.mscs, same]
  | latency => simp only [Table.DecidesAlike, latency, latency', FirstMatch.latency, same]
  | mesh => simp only [Table.DecidesAlike, mesh, mesh', FirstMatch.mesh, same, filled rfl]

/-- An accepted update has found no writer at work. -/
theorem mirrors_of_accepted (h : Reachable limits t) {q : Request} {outcome : Outcome}
    (accepted : (t.update (some q)).2 = .ok outcome) : ∃ l, t.Mirrors limits l := by
  rcases hw : t.store.writing with - | -
  · exact h.mirrors hw
  · rw [Table.update_of_writing hw] at accepted
    cases accepted

/-- **An update whose rule is no candidate**, as it was and as it is, changes no decision. -/
theorem update_decidesAlike (h : Reachable limits t) {q : Request} {outcome : Outcome}
    (accepted : (t.update (some q)).2 = .ok outcome)
    (others : ∀ r, t.query q.key = some r ∨ (t.update (some q)).1.query q.key = some r →
      ¬ Candidate p r flavor)
    (filled : flavor = .mesh → t.count ≠ 0 ∧ (t.update (some q)).1.count ≠ 0) :
    t.DecidesAlike (t.update (some q)).1 p flavor := by
  obtain ⟨l, before⟩ := h.mirrors_of_accepted accepted
  have after := (before.update (some q)).1
  have step := Ledger.step_update limits l (some q)
  have h' : Reachable limits (t.update (some q)).1 := h.operate (.update (some q))
  refine h.decidesAlike h' (selected_congr fun P hP => ?_) fun mesh =>
    iff_of_false (h'.dump_ne_nil (filled mesh).2) (h.dump_ne_nil (filled mesh).1)
  rw [after.shows.dump_eq, before.shows.dump_eq, Rule.find?_ranked, Rule.find?_ranked]
  refine congrArg _ (step.filter_eq (fun r hr hk => ?_) fun r hr hk => ?_)
  · have other := others r (.inl (before.query_eq_some_iff.2 ⟨hr, hk⟩))
    exact Bool.eq_false_iff.2 (mt (hP r) other)
  · have other := others r (.inr (after.query_eq_some_iff.2 ⟨hr, hk⟩))
    exact Bool.eq_false_iff.2 (mt (hP r) other)

/-- A rule of a kind that a classifier does not consult is no candidate under any identifier. -/
theorem not_candidate_of_kind (h : Reachable limits t) {k : RuleKey}
    (kind : ¬ Consults flavor k.kind) {r : Rule} (live : t.query k = some r) :
    ¬ Candidate p r flavor := by
  obtain ⟨-, nodes, hkeeps⟩ := h.keeps
  obtain ⟨n, found, rfl⟩ := Option.map_eq_some_iff.1 live
  obtain ⟨-, rfl⟩ := hkeeps.find?_eq_some_iff.1 found
  exact fun candidate => kind candidate.consults

/-! ### The main result -/

/-- **Rules of one kind do not interfere with another.** For all reachable tables, all packets and
all accepted updates: a decision stays as it is if the classifier does not consult the kind of the
rule, and also if the rule, as it was and as it is, is no candidate. For the mesh there have to be
rules before and after. -/
theorem kinds_do_not_interfere (h : Reachable limits t) {q : Request} {outcome : Outcome}
    (accepted : (t.update (some q)).2 = .ok outcome) (p : Packet) :
    let u := (t.update (some q)).1
    (q.rule.kind ≠ .sawf → q.rule.kind ≠ .sawfScs →
      (u.classifySawf p).2 = (t.classifySawf p).2) ∧
    (q.rule.kind ≠ .scs → (u.classifyScs p).2 = (t.classifyScs p).2) ∧
    (q.rule.kind ≠ .mscs → (u.classifyMscs p).2 = (t.classifyMscs p).2) ∧
    (q.rule.kind ≠ .mesh → t.count ≠ 0 → u.count ≠ 0 →
      (u.classifyMesh p).2 = (t.classifyMesh p).2) ∧
    ∀ flavor, (∀ r, t.query q.key = some r ∨ u.query q.key = some r → ¬ Candidate p r flavor) →
      (flavor = .mesh → t.count ≠ 0 ∧ u.count ≠ 0) → t.DecidesAlike u p flavor := by
  intro u
  have undisturbed : ∀ flavor,
      (∀ r, t.query q.key = some r ∨ u.query q.key = some r → ¬ Candidate p r flavor) →
      (flavor = .mesh → t.count ≠ 0 ∧ u.count ≠ 0) → t.DecidesAlike u p flavor :=
    fun _ others filled => h.update_decidesAlike accepted others filled
  have unconsulted : ∀ flavor, ¬ Consults flavor q.rule.kind →
      (flavor = .mesh → t.count ≠ 0 ∧ u.count ≠ 0) → t.DecidesAlike u p flavor := by
    refine fun flavor kind filled => undisturbed flavor ?_ filled
    rintro r (live | live)
    · exact h.not_candidate_of_kind kind live
    · exact (h.operate (.update (some q))).not_candidate_of_kind kind live
  exact ⟨fun first second => unconsulted .sawf (not_or.2 ⟨first, second⟩) nofun,
    fun kind => unconsulted .scs kind nofun,
    fun kind => unconsulted .mscs kind nofun,
    fun kind before after => unconsulted .mesh kind fun _ => ⟨before, after⟩,
    undisturbed⟩

/-- Two rules of one identifier. One is moved to another bucket, above the other one, and gives
another decision of its own; the decision of the other one stays. -/
theorem kinds_do_not_interfere_of_move :
    let t := (Table.new {}).run
      [.apply (.add { id := 7, precedence := 3, treatment := { output := 5 } }),
        .apply (.add { id := 7, kind := .scs, precedence := 1, treatment := { output := 2 } })]
    let u := (t.update (some (.add
      { id := 7, kind := .scs, precedence := 9, treatment := { output := 4 } }))).1
    (u.classifySawf {}).2 = (t.classifySawf {}).2 ∧ (t.classifySawf {}).2.priority = 5 ∧
      (t.classifyScs {}).2 = ⟨2, 7⟩ ∧ (u.classifyScs {}).2 = ⟨4, 7⟩ := by
  intro t u
  have accepted : (t.update (some (.add
      { id := 7, kind := .scs, precedence := 9, treatment := { output := 4 } }))).2 =
      .ok (.moved 1 true) := by decide +kernel
  have reachable : Reachable {} t := Reachable.new.run _
  exact ⟨(reachable.kinds_do_not_interfere accepted {}).1 (by decide) (by decide),
    by decide +kernel, by decide +kernel, by decide +kernel⟩

end Reachable

end PacketPriority
