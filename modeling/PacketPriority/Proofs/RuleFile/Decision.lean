import PacketPriority.CommandLine.Run
import PacketPriority.Proofs.Classify.FirstMatch
import PacketPriority.Proofs.RuleFile.Loading

/-!
From a rule file to a decision.

What a rule file decides about a packet is said here from its entries alone (`RuleFile.decision`),
with no requests, no table and no buckets. Of the entries of one key the first counts, and of those
that count the ones that add. Among these, for each classifier, that one is chosen which applies to
the packet and has the highest precedence, the last in the file among equals (`RuleFile.chosen`).

The program comes to this by another way: it turns entries into requests and skips repeated keys,
serves one request after another on a table, and walks through its buckets. The requests are those
of the entries that count (`requestsFrom_eq_ok`), the table keeps a rule for each that adds, the
last one first (`ledger_load`), and the first match in a stable sort is the greatest match
(`find?_mergeSort`). The main result is `loaded_table_decides`.
-/

namespace PacketPriority

namespace RuleFile

/-! ### What a file decides -/

/-- The precedence that an entry gets: 255 counts as 0. -/
def effectivePrecedence (e : Entry) : Nat := if e.precedence = 255 then 0 else e.precedence.toNat

/-- The entry that adds a rule and passes a test, of the highest precedence; among equals the last
in the file. -/
def chosen (es : List Entry) (test : Entry → Bool) : Option Entry :=
  ((added es).reverse.filter test).argmax effectivePrecedence

/-- Whether an entry applies to a packet by its flow fields, as a rule of a kind. -/
def appliesTo (kind : RuleKind) (p : Packet) (e : Entry) : Bool :=
  e.kind = kind ∧ e.rule.matchesFlow p

/-- The priority that an output gives: up to 7 the output itself, for 8 the link priority, for 9 the
upper bits of the DSCP value, which only an IP packet has. If no entry adds a rule, DSCP decides. -/
def decideMesh (defaultPcp : UInt8) (es : List Entry) (p : Packet) : UInt8 :=
  let byDscp := if p.network.isIp then p.dscp >>> 3 else defaultPcp
  match chosen es fun e => e.kind = .mesh ∧ e.rule.matchesMesh p with
  | some e => if e.output ≤ 7 then e.output else if e.output = 8 then p.priority else byDscp
  | none => if added es = [] then byDscp else defaultPcp

/-- Entries of the second kind are tried only if none of the first kind applies. -/
def decideSawf (es : List Entry) (p : Packet) : SawfDecision :=
  match (chosen es (appliesTo .sawf p)).or (chosen es (appliesTo .sawfScs p)) with
  | some e =>
    ⟨e.output, e.dscpRemark.getD 255, e.vlanPcpRemark.getD 255, e.serviceClassId.getD 255, e.id⟩
  | none => ⟨9, 255, 255, 255, 4294967295⟩

def decideScs (es : List Entry) (p : Packet) : PriorityDecision :=
  match chosen es (appliesTo .scs p) with
  | some e => ⟨e.output, e.id⟩
  | none => ⟨255, 4294967295⟩

/-- An entry without the bit of the link priority is passed over. -/
def decideMscs (es : List Entry) (p : Packet) : PriorityDecision :=
  let admits (e : Entry) := (e.mscsTidBitmap.getD 0).toNat.testBit p.priority.toNat
  match chosen es fun e => appliesTo .mscs p e && admits e with
  | some e => ⟨p.priority, e.id⟩
  | none => ⟨255, 4294967295⟩

/-- Entries of every kind are tried, by the mesh flags of their rules. -/
def decideLatency (es : List Entry) (p : Packet) : Latency :=
  match chosen es (·.rule.matchesMesh p) with
  | some e => let l := e.latency.getD (0, 0, 0, 0); ⟨l.1, l.2.1, l.2.2.1, l.2.2.2⟩
  | none => ⟨0, 0, 0, 0⟩

/-- What the entries of a file decide about a packet. -/
def decision (defaultPcp : UInt8) (es : List Entry) (p : Packet) : Flavor → CommandLine.Decision
  | .mesh => .pcp (decideMesh defaultPcp es p)
  | .sawf => .sawf (decideSawf es p)
  | .scs => .priority (decideScs es p)
  | .mscs => .priority (decideMscs es p)
  | .latency => .latency (decideLatency es p)

variable {es : List Entry}

/-! ### What a classifier finds -/

/-- What a table of a file shows in its dump: the rules of the entries that add one. -/
def dumped (es : List Entry) : List Rule := Rule.ranked ((added es).map kept).reverse

theorem kept_precedence (e : Entry) : (kept e).precedence.toNat = effectivePrecedence e := by
  rw [kept, Ledger.lowered, effectivePrecedence, e.rule_head.2.2.1]
  split
  · rfl
  · exact congrArg _ e.rule_head.2.2.1

/-- The first rule of the dump that passes a test is that of the chosen entry. -/
theorem find?_dumped (es : List Entry) {P : Rule → Bool} (test : Entry → Bool)
    (same : ∀ e, P (kept e) = test e) :
    (dumped es).find? P = (chosen es test).map kept := by
  have sorted : dumped es =
      ((added es).reverse.mergeSort fun e f =>
        effectivePrecedence f ≤ effectivePrecedence e).map kept := by
    rw [dumped, ← List.map_reverse, Rule.ranked]
    refine (List.map_mergeSort fun e _ f _ => decide_eq_decide.2 ?_).symm
    rw [UInt8.le_iff_toNat_le, kept_precedence, kept_precedence]
  rw [sorted, List.find?_map, chosen, ← find?_mergeSort]
  refine congrArg _ (congrArg (List.find? · _) (funext same))

theorem matchesFlow_kept (e : Entry) (p : Packet) :
    (kept e).matchesFlow p = e.rule.matchesFlow p := by
  rw [kept, Ledger.lowered]
  split <;> rfl

theorem matchesMesh_kept (e : Entry) (p : Packet) :
    (kept e).matchesMesh p = e.rule.matchesMesh p := by
  rw [kept, Ledger.lowered]
  split <;> rfl

theorem kept_head (e : Entry) :
    (kept e).id = e.id ∧ (kept e).kind = e.kind ∧ (kept e).treatment = e.treatment := by
  obtain ⟨id, kind, -, treatment⟩ := e.rule_head
  rw [← id, ← kind, ← treatment, kept, Ledger.lowered]
  split <;> exact ⟨rfl, rfl, rfl⟩

theorem ofKind_dumped (es : List Entry) (kind : RuleKind) (p : Packet) :
    FirstMatch.ofKind kind (·.matchesFlow p) (dumped es) =
      (chosen es (appliesTo kind p)).map kept := by
  refine find?_dumped es _ fun e => ?_
  show decide ((kept e).kind = kind ∧ (kept e).matchesFlow p = true) = _
  rw [matchesFlow_kept, (kept_head e).2.1]
  rfl

theorem scs_dumped (es : List Entry) (p : Packet) :
    FirstMatch.scs (dumped es) p = decideScs es p := by
  rw [FirstMatch.scs, decideScs, ofKind_dumped]
  rcases chosen es (appliesTo .scs p) with - | e
  · rfl
  · obtain ⟨id, -, treatment⟩ := kept_head e
    simp only [Option.map_some, id, treatment]
    rfl

theorem mscs_dumped (es : List Entry) (p : Packet) :
    FirstMatch.mscs (dumped es) p = decideMscs es p := by
  have found : FirstMatch.ofKind .mscs (fun r => r.matchesFlow p &&
      r.treatment.mscsTidBitmap.toNat.testBit p.priority.toNat) (dumped es) =
      (chosen es fun e => appliesTo .mscs p e &&
        (e.mscsTidBitmap.getD 0).toNat.testBit p.priority.toNat).map kept := by
    refine find?_dumped es _ fun e => ?_
    obtain ⟨-, kind, treatment⟩ := kept_head e
    simp only [kind, treatment, matchesFlow_kept, appliesTo, Entry.treatment, Bool.and_eq_true,
      Bool.decide_and, Bool.decide_eq_true, Bool.and_assoc]
  simp only [FirstMatch.mscs, decideMscs, found]
  rcases chosen es fun e => appliesTo .mscs p e &&
      (e.mscsTidBitmap.getD 0).toNat.testBit p.priority.toNat with - | e
  · rfl
  · simp only [Option.map_some, (kept_head e).1]

theorem sawf_dumped (es : List Entry) (p : Packet) :
    FirstMatch.sawf (dumped es) p = decideSawf es p := by
  simp only [FirstMatch.sawf, decideSawf, ofKind_dumped]
  rw [← Option.map_or]
  rcases (chosen es (appliesTo .sawf p)).or (chosen es (appliesTo .sawfScs p)) with - | e
  · rfl
  · obtain ⟨id, -, treatment⟩ := kept_head e
    simp only [Option.map_some, id, treatment]
    rfl

theorem latency_dumped (es : List Entry) (p : Packet) :
    FirstMatch.latency (dumped es) p = decideLatency es p := by
  have found := find?_dumped es (P := (·.matchesMesh p)) (·.rule.matchesMesh p)
    fun e => matchesMesh_kept e p
  rw [FirstMatch.latency, decideLatency, found]
  rcases chosen es (·.rule.matchesMesh p) with - | e
  · rfl
  · simp only [Option.map_some, (kept_head e).2.2]
    rfl

theorem dumped_eq_nil (es : List Entry) : dumped es = [] ↔ added es = [] := by
  rw [← List.length_eq_zero_iff, dumped, Rule.ranked, List.length_mergeSort, List.length_reverse,
    List.length_map, List.length_eq_zero_iff]

theorem mesh_dumped (defaultPcp : UInt8) (es : List Entry) (p : Packet) :
    FirstMatch.mesh defaultPcp (dumped es) p = decideMesh defaultPcp es p := by
  have found : FirstMatch.ofKind .mesh (·.matchesMesh p) (dumped es) =
      (chosen es fun e => e.kind = .mesh ∧ e.rule.matchesMesh p).map kept := by
    refine find?_dumped es _ fun e => ?_
    show decide ((kept e).kind = .mesh ∧ (kept e).matchesMesh p = true) = _
    rw [matchesMesh_kept, (kept_head e).2.1]
  simp only [FirstMatch.mesh, decideMesh, found, dumped_eq_nil]
  rcases chosen es fun e => e.kind = .mesh ∧ e.rule.matchesMesh p with - | e
  · rfl
  · simp only [Option.map_some, (kept_head e).2.2]
    rfl

/-- A table that shows the dump of a file decides as the file says. -/
theorem decision_of_dump {t : Table} {limits : Limits} {nodes : List Node}
    (hlimits : t.limits = limits) (hkeeps : t.store.Keeps limits nodes)
    (hdump : t.store.dump = dumped es) (p : Packet) (flavor : Flavor) :
    CommandLine.decision t p flavor = decision limits.defaultPcp es p flavor := by
  subst hlimits
  cases flavor with
  | mesh =>
    have mesh := hkeeps.classifyMesh_eq t.limits.defaultPcp p
    rw [hdump, mesh_dumped] at mesh
    exact congrArg _ mesh
  | sawf =>
    have sawf := hkeeps.classifySawf_eq p
    rw [hdump, sawf_dumped] at sawf
    exact congrArg _ sawf
  | scs =>
    have scs := t.store.classifyScs_eq p
    rw [hdump, scs_dumped] at scs
    exact congrArg _ scs
  | mscs =>
    have mscs := t.store.classifyMscs_eq p
    rw [hdump, mscs_dumped] at mscs
    exact congrArg _ mscs
  | latency =>
    have latency := t.store.latency_eq p
    rw [hdump, latency_dumped] at latency
    exact congrArg _ latency

/-! ### The main result -/

/-- **A table that is loaded from a rule file decides as the file says**: a file that is accepted
gives a table, and its classifiers answer every packet from the entries of the file. -/
theorem loaded_table_decides (host : CommandLine.Host) (s : Settings) (path : String)
    {qs : List Request}
    (h : load s.limits.ruleMax.toNat path (host.document path) = .ok qs) :
    ∃ size text es loaded, host.document path = .text size text ∧ decode text = .ok es ∧
      CommandLine.loadTable host s path = .ok loaded ∧
      ∀ p flavor, CommandLine.decision loaded.table p flavor =
        decision s.limits.defaultPcp es p flavor := by
  obtain ⟨size, text, es, hdocument, hdecode, hlength, hrequests⟩ := load_eq_ok h
  obtain ⟨hqs, outputs⟩ := requestsFrom_eq_ok hrequests
  obtain rfl : qs = (firsts es).map Entry.request := by simpa using hqs
  obtain ⟨hlimits, -, nodes, hkeeps, hledger⟩ :=
    ((Table.Mirrors.new s.limits).load ((firsts es).map Entry.request)).1
  rw [load_firsts outputs hlength] at hledger
  refine ⟨size, text, es, .ofRequests s ((firsts es).map Entry.request), hdocument, hdecode, ?_, ?_⟩
  · rw [CommandLine.loadTable, CommandLine.requestsAt, h]
  · rw [CommandLine.LoadedTable.ofRequests_table]
    refine decision_of_dump hlimits hkeeps ((Store.dump_eq_rules _).trans ?_)
    have rules := hkeeps.rules_eq
    rw [hledger] at rules
    exact rules

/-- The second entry repeats a key and is skipped, and of the two that are left the later one
decides, as 255 counts as 0. A mesh packet finds no rule, in a table that is not empty. -/
theorem loaded_table_decides_of_tie :
    let text := "[[rules]]\nid = 1\nprecedence = 255\noutput = 4\n" ++
      "[[rules]]\nid = 1\ncommand = 'delete'\n[[rules]]\nid = 2\noutput = 5\n"
    let host : CommandLine.Host := ⟨fun _ => .text 94 text, fun _ => none⟩
    let s : Settings := { limits := ⟨3, 6⟩ }
    let es : List Entry :=
      [{ id := 1, precedence := 255, output := 4 }, { id := 1, command := .delete },
        { id := 2, output := 5 }]
    let p : Packet := { network := .ipv4 {} {}, dscp := 63 }
    ∃ qs loaded, load s.limits.ruleMax.toNat "rules.toml" (host.document "rules.toml") = .ok qs ∧
      CommandLine.loadTable host s "rules.toml" = .ok loaded ∧ decode text = .ok es ∧
      CommandLine.decision loaded.table p .sawf = decision 6 es p .sawf ∧
      decision 6 es p .sawf = .sawf ⟨5, 255, 255, 255, 2⟩ ∧
      CommandLine.decision loaded.table p .mesh = decision 6 es p .mesh ∧
      decision 6 es p .mesh = .pcp 6 := by
  intro text host s es p
  have decoded : decode text = .ok es := by decide +kernel
  have accepted : ∃ qs, load s.limits.ruleMax.toNat "rules.toml" (host.document "rules.toml") =
      .ok qs := by
    refine ⟨(firsts es).map Entry.request, ?_⟩
    decide +kernel
  obtain ⟨qs, h⟩ := accepted
  obtain ⟨size, text', es', loaded, hdocument, hdecode, hload, decides⟩ :=
    loaded_table_decides host s "rules.toml" h
  cases hdocument
  obtain rfl : es = es' := Except.ok.inj (decoded.symm.trans hdecode)
  exact ⟨qs, loaded, h, hload, decoded, decides p .sawf, by decide +kernel, decides p .mesh,
    by decide +kernel⟩

end RuleFile

end PacketPriority
