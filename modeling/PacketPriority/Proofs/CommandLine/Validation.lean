import PacketPriority.CommandLine.Run
import PacketPriority.Proofs.RuleFile.Loading

/-!
What the validation of a rule file certifies.

A rule file that loads gives a table in which each entry that counts has its rule, if it adds one,
and otherwise is refused (`tableOf_firsts`). So the validation finds nothing wrong if the file loads
and no entry that counts deletes, and it counts what is left: rules and refusals together are the
entries (`length_rejections_outcomes`). The other actions on the file load it by `loadTable`, which
counts for itself, and come to the same table and the same numbers (`validation_of_loadTable`). The
main result is `validation_certifies`.
-/

namespace PacketPriority.CommandLine

open RuleFile

/-! ### What validating certifies -/

/-- The rule file loads, and of its entries that count none deletes. -/
def Certified (max : Nat) (document : Document) : Prop :=
  ∃ es, Loads max document es ∧ ∀ e ∈ firsts es, e.command = .add

/-- What is reported on a rule file that loads: in the validation `v`, and in what is answered to
the other actions on the file. -/
structure Tallies (host : Host) (configPath : String) (format : Format) (s : Settings)
    (path : Option String) (es : List Entry) (v : Validation) : Prop where
  requests : requestsAt host s (path.getD s.rulesPath) = .ok ((firsts es).map Entry.request)
  /-- Entries that add are added, and those that delete refused; nothing else becomes of them. -/
  results : (tableOf s ((firsts es).map Entry.request)).2 = outcomes false (firsts es)
  entries : v.entries = (firsts es).length
  live : v.live.toNat = (added es).length
  rejected : v.rejected = rejections (outcomes false (firsts es))
  total : v.live.toNat + v.rejected.length = v.entries
  stats : ∃ stats, stats.rules = v.live ∧
    (run host ⟨configPath, format, .ruleStats path⟩).report = some (.stats (path.getD s.rulesPath)
      s.limits.ruleMax v.live.toNat v.rejected.length stats)
  dump : ∃ rules, rules.length = v.live.toNat ∧
    (run host ⟨configPath, format, .dumpRules path none⟩).report =
      some (.rules (path.getD s.rulesPath) rules)

/-! ### Refusals -/

/-- Of entries one after another those that delete are refused. -/
theorem length_rejections_outcomes (occupied : Bool) (es : List Entry) :
    (es.filter fun e => e.command = .add).length + (rejections (outcomes occupied es)).length =
      es.length := by
  -- on the entries, for tables with and without rules: which error it is has no part in it
  induction es generalizing occupied with
  | nil => rfl
  | cons e rest ih =>
    rcases hc : e.command with - | -
    · have rejected : rejections (outcomes occupied (e :: rest)) =
          rejections (outcomes true rest) := by
        simp [outcomes, hc, rejections]
      rw [rejected, List.filter_cons_of_pos (by simp [hc]), List.length_cons, List.length_cons,
        ← ih true]
      omega
    · have rejected : (rejections (outcomes occupied (e :: rest))).length =
          (rejections (outcomes occupied rest)).length + 1 := by
        simp [outcomes, hc, rejections]
      rw [rejected, List.filter_cons_of_neg (by simp [hc]), List.length_cons, ← ih occupied]
      omega

theorem rejections_outcomes_eq_nil_iff {occupied : Bool} {es : List Entry} :
    rejections (outcomes occupied es) = [] ↔ ∀ e ∈ es, e.command = .add := by
  have total := length_rejections_outcomes occupied es
  rw [← List.length_eq_zero_iff]
  have all : (es.filter fun e => e.command = .add).length = es.length ↔
      ∀ e ∈ es, e.command = .add := by
    simp
  rw [← all]
  omega

theorem length_outcomes (occupied : Bool) (es : List Entry) :
    (outcomes occupied es).length = es.length := by
  induction es generalizing occupied with
  | nil => rfl
  | cons e rest ih => cases hc : e.command <;> simp [outcomes, hc, ih]

/-- A result is that of a request that was applied or of one that was refused. -/
theorem countP_isOk_add_length_rejections (results : List (RuleKey × UpdateResult)) :
    results.countP (fun r => r.2.isOk) + (rejections results).length = results.length := by
  induction results with
  | nil => rfl
  | cons r rest ih =>
    obtain ⟨key, e | outcome⟩ := r
    · rw [List.countP_cons_of_neg Bool.false_ne_true, List.length_cons, ← ih]
      rfl
    · rw [List.countP_cons_of_pos rfl, List.length_cons, ← ih]
      exact Nat.add_right_comm _ _ _

/-! ### The table of a file -/

variable {host : Host} {s : Settings} {es : List Entry}

/-- **The table of a file that loads** has the rules of the entries that add one, and the others are
refused. -/
theorem tableOf_firsts {document : Document} (loads : Loads s.limits.ruleMax.toNat document es) :
    (tableOf s ((firsts es).map Entry.request)).1.Shows ((added es).map kept).reverse ∧
      (tableOf s ((firsts es).map Entry.request)).2 = outcomes false (firsts es) := by
  have loaded := (Table.Mirrors.new s.limits).load ((firsts es).map Entry.request)
  rw [load_firsts (outputs_of_accepted loads.accepted) loads.few] at loaded
  exact ⟨loaded.1.shows, loaded.2⟩

/-- The counts of that table. -/
theorem ofRequests_firsts {document : Document}
    (loads : Loads s.limits.ruleMax.toNat document es) :
    let loaded := LoadedTable.ofRequests s ((firsts es).map Entry.request)
    loaded.table.count.toNat = (added es).length ∧ loaded.applied = (added es).length ∧
      loaded.rejected = rejections (outcomes false (firsts es)) ∧
      loaded.table.stats.rules = loaded.table.count ∧
      loaded.table.dump.length = (added es).length := by
  intro loaded
  obtain ⟨table, results⟩ := tableOf_firsts loads
  have counted : loaded = _ := LoadedTable.ofRequests_eq s ((firsts es).map Entry.request)
  have length : ((added es).map kept).reverse.length = (added es).length := by simp
  rw [counted, results]
  refine ⟨table.count_eq.trans length, ?_, rfl, rfl, ?_⟩
  · have all := countP_isOk_add_length_rejections (outcomes false (firsts es))
    have total := length_rejections_outcomes false (firsts es)
    rw [length_outcomes, ← total] at all
    exact Nat.add_right_cancel all
  · show (tableOf s _).1.dump.length = _
    rw [table.dump_eq, Rule.ranked, List.length_mergeSort, length]

/-! ### The validation -/

variable {path : String}

theorem requestsAt_firsts (loads : Loads s.limits.ruleMax.toNat (host.document path) es) :
    requestsAt host s path = .ok ((firsts es).map Entry.request) :=
  load_eq_ok_iff.2 ⟨es, loads, rfl⟩

/-- The validation of a file that loads. -/
theorem validation_firsts (loads : Loads s.limits.ruleMax.toNat (host.document path) es) :
    validation host s path =
      ⟨path, (firsts es).length, (tableOf s ((firsts es).map Entry.request)).1.count,
        rejections (outcomes false (firsts es)), []⟩ := by
  rw [validation, requestsAt_firsts loads, ← (tableOf_firsts loads).2]
  simp only [List.length_map]

theorem validation_isValid_iff :
    (validation host s path).isValid = true ↔
      Certified s.limits.ruleMax.toNat (host.document path) := by
  constructor
  · intro valid
    rcases hq : requestsAt host s path with e | qs
    · rw [validation, hq] at valid
      simp [Validation.isValid] at valid
    · obtain ⟨es, loads, rfl⟩ := load_eq_ok_iff.1 hq
      rw [validation_firsts loads] at valid
      have none_rejected : rejections (outcomes false (firsts es)) = [] := by
        simpa [Validation.isValid] using valid
      exact ⟨es, loads, rejections_outcomes_eq_nil_iff.1 none_rejected⟩
  · rintro ⟨es, loads, adds⟩
    rw [validation_firsts loads]
    simp [Validation.isValid, rejections_outcomes_eq_nil_iff.2 adds]

/-- The exit code tells of nothing but validity. -/
theorem exitCode_validateRules (host : Host) (s : Settings) (path : String) :
    (validateRules host s path).exitCode = if (validation host s path).isValid then 0 else 3 := by
  simp only [validateRules, Answer.exitCode]
  cases (validation host s path).isValid <;> rfl

/-! ### The other actions -/

theorem loadTable_firsts (loads : Loads s.limits.ruleMax.toNat (host.document path) es) :
    loadTable host s path = .ok (.ofRequests s ((firsts es).map Entry.request)) := by
  rw [loadTable, requestsAt_firsts loads]

theorem length_tableOf (s : Settings) (qs : List Request) :
    (tableOf s qs).2.length = qs.length := by
  have each : ∀ (qs : List Request) (t : Table), (t.load qs).2.length = qs.length := by
    intro qs
    induction qs with
    | nil => exact fun _ => rfl
    | cons q rest ih => exact fun t => congrArg (· + 1) (ih (t.apply q).1)
  exact each qs _

/-- **The validation and the other actions agree on every rule file**, although the validation looks
at the refusals alone and the others count request by request. -/
theorem validation_of_loadTable {loaded : LoadedTable}
    (h : loadTable host s path = .ok loaded) :
    validation host s path =
      ⟨path, loaded.applied + loaded.rejected.length, loaded.table.count, loaded.rejected, []⟩ := by
  rcases hq : requestsAt host s path with e | qs
  · rw [loadTable, hq] at h
    cases h
  · rw [loadTable, hq] at h
    obtain rfl := Except.ok.inj h
    rw [validation, hq, LoadedTable.ofRequests_eq, countP_isOk_add_length_rejections,
      length_tableOf]

theorem onRules_of_settingsAt {configPath : String} (sound : settingsAt host configPath = .ok s)
    (path : Option String) (act : Settings → String → Answer) :
    onRules host configPath path act = act s (path.getD s.rulesPath) := by
  rw [onRules, sound]

theorem ruleStats_firsts (loads : Loads s.limits.ruleMax.toNat (host.document path) es) :
    ruleStats host s path = .ok (.stats path s.limits.ruleMax
      (validation host s path).live.toNat (validation host s path).rejected.length
      (LoadedTable.ofRequests s ((firsts es).map Entry.request)).table.stats) := by
  obtain ⟨count, applied, -⟩ := ofRequests_firsts loads
  rw [validation_of_loadTable (loadTable_firsts loads), ruleStats, loadTable_firsts loads]
  refine congrArg Except.ok ?_
  show Report.stats _ _ (LoadedTable.ofRequests s _).applied _ _ =
    Report.stats _ _ (LoadedTable.ofRequests s _).table.count.toNat _ _
  rw [applied, count]

theorem dumpRules_firsts (loads : Loads s.limits.ruleMax.toNat (host.document path) es) :
    dumpRules host s path none = .ok (.rules path
      (LoadedTable.ofRequests s ((firsts es).map Entry.request)).table.dump) := by
  rw [dumpRules, loadTable_firsts loads]
  refine congrArg (Except.ok ∘ Report.rules path) (List.filter_eq_self.2 fun _ _ => rfl)

/-! ### The main result -/

/-- The numbers reported on a file that loads add up, and are the same in all reports. -/
theorem tallies_of_loads {configPath : String} (sound : settingsAt host configPath = .ok s)
    (format : Format) (path : Option String)
    (loads : Loads s.limits.ruleMax.toNat (host.document (path.getD s.rulesPath)) es) :
    Tallies host configPath format s path es (validation host s (path.getD s.rulesPath)) := by
  obtain ⟨count, -, -, rules, dumped⟩ := ofRequests_firsts loads
  have total := length_rejections_outcomes false (firsts es)
  have agreed := validation_of_loadTable (loadTable_firsts loads)
  have live : (validation host s (path.getD s.rulesPath)).live.toNat = (added es).length := by
    rw [agreed]
    exact count
  -- the other actions load the table a second time, by a path of their own
  have stats := onRules_of_settingsAt sound path fun s path => .ofResult (ruleStats host s path)
  have dump := onRules_of_settingsAt sound path
    fun s path => .ofResult (dumpRules host s path none)
  rw [ruleStats_firsts loads] at stats
  rw [dumpRules_firsts loads] at dump
  exact
    { requests := requestsAt_firsts loads
      results := (tableOf_firsts loads).2
      entries := by rw [validation_firsts loads]
      live := live
      rejected := by rw [validation_firsts loads]
      total := by rw [live, validation_firsts loads]; exact total
      stats := ⟨_, by rw [agreed]; exact rules, congrArg Answer.report stats⟩
      dump := ⟨_, dumped.trans live.symm, congrArg Answer.report dump⟩ }

/-- **What the validation of a rule file certifies**: under settings that make sense, it succeeds
exactly for the files that load and delete nothing, and ends with exit code 3 for all others. For a
file that loads its numbers add up, and are those of the table that the other actions load. -/
theorem validation_certifies (host : Host) (configPath : String) (format : Format)
    (path : Option String) {s : Settings} (sound : settingsAt host configPath = .ok s) :
    let document := host.document (path.getD s.rulesPath)
    let max := s.limits.ruleMax.toNat
    let answer := run host ⟨configPath, format, .validateRules path⟩
    ∃ v, answer.report = some (.validation v) ∧
      (v.isValid = true ↔ Certified max document) ∧
      (answer.exitCode = 0 ↔ Certified max document) ∧
      (¬ Certified max document → answer.exitCode = 3) ∧
      ∀ es, Loads max document es → Tallies host configPath format s path es v := by
  intro document max answer
  have answered : answer = validateRules host s (path.getD s.rulesPath) :=
    onRules_of_settingsAt sound path _
  have valid_iff : (validation host s (path.getD s.rulesPath)).isValid = true ↔
      Certified max document := validation_isValid_iff
  have code := exitCode_validateRules host s (path.getD s.rulesPath)
  refine ⟨validation host s (path.getD s.rulesPath), ?_, valid_iff, ?_, ?_, ?_⟩
  · rw [answered]
    rfl
  · rw [answered, code, ← valid_iff]
    split <;> simp [*]
  · intro refused
    rw [answered, code, if_neg (mt valid_iff.1 refused)]
  · intro es loads
    exact tallies_of_loads sound format path loads

/-- Two entries delete: the first one stands before every rule, the last one behind one. -/
theorem validation_certifies_of_deletes :
    let text := "[[rules]]\nid = 9\ncommand = 'delete'\n[[rules]]\nid = 1\noutput = 4\n" ++
      "[[rules]]\nid = 2\ncommand = 'delete'\n"
    let host : Host :=
      ⟨fun path => if path = "rules.toml" then .text 93 text else .missing .notFound, fun _ => none⟩
    let es : List Entry :=
      [{ id := 9, command := .delete }, { id := 1, output := 4 }, { id := 2, command := .delete }]
    let answer := run host ⟨"spm.toml", .text, .validateRules (some "rules.toml")⟩
    settingsAt host "spm.toml" = .ok {} ∧ answer.exitCode = 3 ∧ ∃ v,
      answer.report = some (.validation v) ∧ v.isValid = false ∧ v.entries = 3 ∧
      v.live.toNat = 1 ∧ v.rejected = [⟨⟨9, .sawf⟩, .tableEmpty⟩, ⟨⟨2, .sawf⟩, .ruleNotFound⟩] ∧
      Tallies host "spm.toml" .text {} (some "rules.toml") es v := by
  intro text host es answer
  have sound : settingsAt host "spm.toml" = .ok {} := by decide +kernel
  have loads : Loads ({} : Settings).limits.ruleMax.toNat (host.document "rules.toml") es :=
    { readable := ⟨93, text, by decide +kernel, by decide, by decide +kernel⟩
      few := by decide
      accepted := by
        intro e he
        refine ⟨e.request, ?_⟩
        revert e
        decide +kernel }
  obtain ⟨v, report, valid, -, code, tallies⟩ :=
    validation_certifies host "spm.toml" .text (some "rules.toml") sound
  have tallies := tallies es loads
  have rejected : v.rejected =
      [⟨⟨9, .sawf⟩, .tableEmpty⟩, ⟨⟨2, .sawf⟩, .ruleNotFound⟩] := tallies.rejected
  have invalid : v.isValid = false := by
    rw [Validation.isValid, rejected]
    rfl
  have refused := code (mt valid.2 (by simp [invalid]))
  exact ⟨sound, refused, v, report, invalid, tallies.entries, tallies.live, rejected, tallies⟩

end PacketPriority.CommandLine
