import PacketPriority.Proofs.Ledger.Step
import PacketPriority.Proofs.Meter.Accounts

/-!
The meter of a table balances.

The rules of a kind are counted twice: they stand in the table, and their additions and deletions
stand in the meter. An update changes both by the same amount (`Ledger.Step.countP_kind`), a rule
that is exchanged or moved being of the same kind before and after. So the difference of the two,
the `drift` of a table, stays as it is until the table is flushed, which takes out rules and counts
no deletion. The gauge is told at the end of every update and every flush.

The main result, `Audience.meter_balances`, is about all runs before any audience, and so about all
runs with any observers, whatever calls they make.
-/

namespace PacketPriority

/-! ### Rules of a kind -/

namespace Ledger

variable {limits : Limits} {l l' : List Rule} {r old : Rule} {k : RuleKey} {kind : RuleKind}

/-- With a live key one rule of its kind is taken out. -/
theorem countP_without (nodup : (l.map (·.key)).Nodup) (found : rule? l k = some old)
    (kind : RuleKind) :
    (without l k).countP (·.kind = kind) + (if k.kind = kind then 1 else 0) =
      l.countP (·.kind = kind) := by
  obtain ⟨hold, rfl⟩ := rule?_eq_some found
  obtain ⟨l₁, l₂, rfl⟩ := List.append_of_mem hold
  have same : old.key.kind = old.kind := rfl
  rw [without, filter_ne_of_nodup nodup, same]
  simp only [List.countP_append, List.countP_cons, decide_eq_true_eq]
  omega

/-- A rule that is exchanged has the kind of the one that stood there. -/
theorem countP_exchange (l : List Rule) (r : Rule) :
    (exchange l r).countP (·.kind = kind) = l.countP (·.kind = kind) := by
  rw [exchange, List.countP_map]
  refine List.countP_congr fun s _ => ?_
  by_cases hs : s.key = r.key
  · have same : s.kind = r.kind := congrArg RuleKey.kind hs
    simp [hs, same]
  · simp [hs]

/-- **Rules of a kind change in number by what is counted of the update.** -/
theorem Step.countP_kind {q : Option Request} {result : UpdateResult}
    (step : Step limits l q l' result) (nodup : (l.map (·.key)).Nodup) (kind : RuleKind) :
    l'.countP (·.kind = kind) +
        (if Series.updates (.ofResult result) (q.map (·.rule.kind)) =
          .updates .deleted (some kind) then 1 else 0) =
      l.countP (·.kind = kind) +
        if Series.updates (.ofResult result) (q.map (·.rule.kind)) =
          .updates .added (some kind) then 1 else 0 := by
  cases step with
  | refused => simp [UpdateLabel.ofResult]
  | @added q =>
    have placed : (lowered q.rule).kind = q.rule.kind := congrArg RuleKey.kind (key_lowered q.rule)
    simp [UpdateLabel.ofResult, List.countP_cons, placed]
  | modified => simp [UpdateLabel.ofResult, countP_exchange]
  | @moved q _ _ _ _ found =>
    have placed : (lowered q.rule).kind = q.rule.kind := congrArg RuleKey.kind (key_lowered q.rule)
    have rest := countP_without nodup found kind
    have asked : q.key.kind = q.rule.kind := rfl
    by_cases hkind : q.rule.kind = kind <;>
      simpa [UpdateLabel.ofResult, List.countP_cons, placed, asked, hkind] using rest
  | @deleted q _ _ found =>
    have rest := countP_without nodup found kind
    have asked : q.key.kind = q.rule.kind := rfl
    by_cases hkind : q.rule.kind = kind <;>
      simpa [UpdateLabel.ofResult, asked, hkind] using rest

end Ledger

/-! ### Drift -/

namespace Table

variable {limits : Limits} {t u : Table} {l : List Rule}

/-- By how much the live rules of a kind exceed the additions less the deletions that the meter has
counted. -/
def drift (t : Table) (kind : RuleKind) : Int :=
  t.dump.countP (·.kind = kind) -
    (t.meter.count (.updates .added (some kind)) - t.meter.count (.updates .deleted (some kind)))

theorem Mirrors.countP_dump (h : t.Mirrors limits l) (kind : RuleKind) :
    t.dump.countP (·.kind = kind) = l.countP (·.kind = kind) := by
  rw [h.shows.dump_eq]
  exact (List.mergeSort_perm l _).countP_eq _

/-- **No update lets a table drift**, whatever is called while it is told. -/
theorem Mirrors.drift_update (a : Audience) (h : t.Mirrors limits l) (q : Option Request)
    (kind : RuleKind) : (t.updateTelling a.tell q).1.drift kind = t.drift kind := by
  obtain ⟨after, result⟩ := h.updateBefore a q
  have changed := (Ledger.step_update limits l q).countP_kind h.keys_nodup kind
  have added := a.update_count t q .added nofun (some kind)
  have deleted := a.update_count t q .deleted nofun (some kind)
  rw [result] at added deleted
  rw [drift, drift, added, deleted, after.countP_dump, h.countP_dump]
  omega

theorem Mirrors.drift_load (a : Audience) (h : t.Mirrors limits l) (qs : List Request)
    (kind : RuleKind) : (t.loadTelling a.tell qs).1.drift kind = t.drift kind := by
  induction qs generalizing t l with
  | nil => rfl
  | cons q rest ih =>
    have after := (h.updateBefore a (some q)).1
    exact (ih after).trans (h.drift_update a (some q) kind)

/-- Only a flush lets a table drift. -/
theorem Mirrors.drift_operate (a : Audience) (h : t.Mirrors limits l) {op : Operation}
    (unflushed : (t.operateTelling a.tell op).2.flushes = 0) (kind : RuleKind) :
    (t.operateTelling a.tell op).1.drift kind = t.drift kind := by
  cases op with
  | update q => exact h.drift_update a q kind
  | apply q => exact h.drift_update a (some q) kind
  | load qs => exact h.drift_load a qs kind
  | flush | shutdown =>
    -- between calls no writer is at work, so that a flush succeeds
    have flushed : (Report.flushed (t.flush.2.map UInt32.toNat)).flushes = 0 := unflushed
    rw [h.flush.2] at flushed
    cases flushed
  | classify p =>
    have counted := (t.classify_beside p).count_eq
    show (t.classify p).1.drift kind = t.drift kind
    rw [drift, counted .added (some kind) nofun, counted .deleted (some kind) nofun]
    rfl
  | register | unregister | withdraw => rfl

/-! ### The gauge -/

theorem settle_rules (t : Table) (kind : Option RuleKind) (r : UpdateResult) :
    (t.settle kind r).1.meter.rules = some (t.settle kind r).1.count := by
  unfold settle
  split <;> rfl

/-- An update ends by telling the gauge, after all the calls that are made while it is told. -/
theorem updateTelling_rules (tell : Table → Event → Table) (t : Table) (q : Option Request) :
    (t.updateTelling tell q).1.meter.rules = some (t.updateTelling tell q).1.count := by
  rcases updateTelling_cases tell t q with ⟨c, -, -, served⟩ | ⟨e, -, refused⟩
  · rw [served]
    exact settle_rules _ _ _
  · rw [refused]
    exact settle_rules _ _ _

end Table

/-! ### Runs -/

/-- A table between calls, and the calls that it has counted. -/
structure Table.Balanced (t : Table) (limits : Limits) (calls : List Report) : Prop where
  mirrors : ∃ l, t.Mirrors limits l
  accounts : (Table.new limits).Accounts calls t
  rules_eq : (∃ r ∈ calls, 0 < r.updates ∨ 0 < r.flushes) → t.meter.rules = some t.count

namespace Table.Balanced

variable {limits : Limits} {t u : Table} {calls : List Report} (a : Audience)

theorem new (limits : Limits) : (Table.new limits).Balanced limits [] where
  mirrors := ⟨[], .new limits⟩
  accounts := .refl _
  rules_eq := by simp

theorem update (h : t.Balanced limits calls) (q : Option Request) :
    (t.updateTelling a.tell q).1.Balanced limits (calls ++ a.updateCalls t q) where
  mirrors := by
    obtain ⟨l, hm⟩ := h.mirrors
    exact ⟨_, (hm.updateBefore a q).1⟩
  accounts := h.accounts.append (a.update_accounts t q)
  rules_eq _ := updateTelling_rules a.tell t q

theorem load (h : t.Balanced limits calls) (qs : List Request) :
    (t.loadTelling a.tell qs).1.Balanced limits (calls ++ a.loadCalls t qs) := by
  induction qs generalizing t calls with
  | nil => simpa [Table.loadTelling, Audience.loadCalls] using h
  | cons q rest ih =>
    rw [Audience.loadCalls, ← List.append_assoc]
    exact ih (h.update a (some q))

theorem flush (h : t.Balanced limits calls) :
    t.flush.1.Balanced limits (calls ++ [.flushed (t.flush.2.map UInt32.toNat)]) := by
  obtain ⟨l, hm⟩ := h.mirrors
  refine ⟨⟨[], hm.flush.1⟩, h.accounts.append t.flush_accounts, fun _ => ?_⟩
  have idle := Store.beginWrite_of_idle hm.idle
  simp only [Table.flush, idle]
  rfl

/-- A call that changes no rule. -/
theorem look (h : t.Balanced limits calls) (same : t.SameRules u) (counted : t.Accounts [.done] u)
    (gauge : u.meter.rules = t.meter.rules) : u.Balanced limits (calls ++ [.done]) where
  mirrors := by
    obtain ⟨l, hm⟩ := h.mirrors
    exact ⟨l, hm.of_sameRules same⟩
  accounts := h.accounts.append counted
  rules_eq told := by
    obtain ⟨r, hr, changes⟩ := told
    rcases List.mem_append.1 hr with hr | hr
    · rw [gauge, h.rules_eq ⟨r, hr, changes⟩, Table.count, Table.count, same.store]
    · rw [List.mem_singleton.1 hr] at changes
      simp [Report.updates, Report.flushes] at changes

theorem operate (h : t.Balanced limits calls) (op : Operation) :
    (t.operateTelling a.tell op).1.Balanced limits (calls ++ a.operateCalls t op) := by
  cases op with
  | update q => exact h.update a q
  | apply q => exact h.update a (some q)
  | load qs => exact h.load a qs
  | flush | shutdown => exact h.flush
  | classify p => exact h.look ⟨rfl, rfl⟩ (t.classify_beside p).accounts rfl
  | register | unregister | withdraw =>
    exact h.look ⟨rfl, rfl⟩ (Beside.of_meter_eq rfl).accounts rfl

theorem run (h : t.Balanced limits calls) (ops : List Operation) :
    (t.runTelling a.tell ops).Balanced limits (calls ++ a.runCalls t ops) := by
  induction ops generalizing t calls with
  | nil => simpa [Table.runTelling, Audience.runCalls] using h
  | cons op rest ih =>
    rw [Audience.runCalls, ← List.append_assoc]
    exact ih (h.operate a op)

end Table.Balanced

/-! ### The last flush -/

/-- The table as the last flush of a list of calls leaves it; without any flush it is `u`. -/
def Audience.emptied (a : Audience) (t u : Table) : List Operation → Table
  | [] => u
  | op :: rest =>
    let next := t.operateTelling a.tell op
    emptied a next.1 (if next.2.flushes = 0 then u else next.1) rest

/-- One table comes from another one, which was empty, and has not drifted since. -/
structure Table.FilledSince (t u : Table) : Prop where
  dump_eq : u.dump = []
  distinct : u.meter.Distinct
  drift_eq : ∀ kind, t.drift kind = u.drift kind

namespace Table.FilledSince

variable {limits : Limits} {t u : Table} {calls : List Report} (a : Audience)

theorem new (limits : Limits) : (Table.new limits).FilledSince (Table.new limits) where
  dump_eq := by
    rw [(Mirrors.new limits).shows.dump_eq]
    exact List.mergeSort_nil
  distinct := .nil
  drift_eq _ := rfl

theorem operate (h : t.FilledSince u) (balanced : t.Balanced limits calls) (op : Operation) :
    let next := t.operateTelling a.tell op
    next.1.FilledSince (if next.2.flushes = 0 then u else next.1) := by
  intro next
  obtain ⟨l, hm⟩ := balanced.mirrors
  by_cases unflushed : next.2.flushes = 0
  · rw [if_pos unflushed]
    exact { h with
      drift_eq := fun kind => (hm.drift_operate a unflushed kind).trans (h.drift_eq kind) }
  · rw [if_neg unflushed]
    have after := balanced.operate a op
    refine ⟨?_, after.accounts.distinct .nil, fun _ => rfl⟩
    cases op with
    | flush | shutdown =>
      show t.flush.1.dump = []
      rw [hm.flush.1.shows.dump_eq]
      exact List.mergeSort_nil
    | update | apply | load | classify | register | unregister | withdraw =>
      exact absurd rfl unflushed

theorem run (h : t.FilledSince u) (balanced : t.Balanced limits calls) (ops : List Operation) :
    (t.runTelling a.tell ops).FilledSince (a.emptied t u ops) := by
  induction ops generalizing t u calls with
  | nil => exact h
  | cons op rest ih => exact ih (h.operate a balanced op) (balanced.operate a op)

/-- What there is of a kind has been added since and not been deleted. -/
theorem countP_dump (h : t.FilledSince u) (distinct : t.meter.Distinct) (kind : RuleKind) :
    (t.dump.countP (·.kind = kind) : Int) =
      (t.meter.updated "added" kind - u.meter.updated "added" kind) -
        (t.meter.updated "deleted" kind - u.meter.updated "deleted" kind) := by
  have same := h.drift_eq kind
  simp only [Table.drift, h.dump_eq, List.countP_nil] at same
  have added := Meter.updated_eq_count distinct .added kind
  have deleted := Meter.updated_eq_count distinct .deleted kind
  have addedBefore := Meter.updated_eq_count h.distinct .added kind
  have deletedBefore := Meter.updated_eq_count h.distinct .deleted kind
  simp only [UpdateLabel.toString] at added deleted addedBefore deletedBefore
  rw [added, deleted, addedBefore, deletedBefore]
  omega

end Table.FilledSince

/-! ### The main result -/

/-- **The meter of a table balances**, after every run from a new table before any audience. Every
update, every refusal beside a writer and every flush has been counted once, those included that the
audience asks for while it is told of an update. The live rules of a kind are as many as have been
counted as added since the last flush, less those counted as deleted. And the gauge shows the number
of live rules as soon as there has been an update or a flush. -/
theorem Audience.meter_balances (a : Audience) (limits : Limits) (ops : List Operation) :
    let t := (Table.new limits).runTelling a.tell ops
    let u := a.emptied (Table.new limits) (Table.new limits) ops
    let calls := a.runCalls (Table.new limits) ops
    t.meter.total "spm_mapdb_updates_total" [] = (calls.map Report.updates).sum ∧
      t.meter.total "spm_mapdb_writer_busy_total" [] = (calls.map Report.busy).sum ∧
      t.meter.total "spm_mapdb_flushes_total" [] = (calls.map Report.flushes).sum ∧
      (∀ kind : RuleKind,
        (t.dump.countP (·.kind = kind) : Int) =
          (t.meter.updated "added" kind - u.meter.updated "added" kind) -
            (t.meter.updated "deleted" kind - u.meter.updated "deleted" kind)) ∧
      ((∃ r ∈ calls, 0 < r.updates ∨ 0 < r.flushes) → t.meter.rules = some t.count) := by
  intro t u calls
  have balanced : t.Balanced limits calls := (Table.Balanced.new limits).run a ops
  have filled : t.FilledSince u := (Table.FilledSince.new limits).run a (.new limits) ops
  have fresh : (Table.new limits).meter.Distinct := .nil
  refine ⟨?_, ?_, ?_, filled.countP_dump (balanced.accounts.distinct fresh), balanced.rules_eq⟩
  · exact (balanced.accounts.updates_eq fresh).trans (Nat.zero_add _)
  · exact (balanced.accounts.busy_eq fresh).trans (Nat.zero_add _)
  · exact (balanced.accounts.flushes_eq fresh).trans (Nat.zero_add _)

/-- An observer asks for an update and a flush whenever it is told of an event. All of it is
counted, also while a batch is loaded after a flush. -/
theorem Audience.meter_balances_of_reentry :
    let ops : List Operation :=
      [.register (.mk "a" none [.apply (.add { id := 2 }), .flush]), .apply (.add { id := 1 }),
        .flush, .load [.add { id := 3 }, .delete ⟨1, .sawf⟩]]
    let t := (Table.new {}).run ops
    t.meter.total "spm_mapdb_updates_total" [] = 5 ∧
      t.meter.total "spm_mapdb_writer_busy_total" [] = 4 ∧
      t.meter.total "spm_mapdb_flushes_total" [] = 1 ∧ t.meter.rules = some t.count ∧
      t.count = 1 := by
  intro ops t
  let a := Audience.ofConduct Observer.reaction
  obtain ⟨updates, busy, flushes, -, gauge⟩ := a.meter_balances {} ops
  rw [Audience.run_eq] at updates busy flushes gauge
  exact ⟨updates.trans (by decide +kernel), busy.trans (by decide +kernel),
    flushes.trans (by decide +kernel), gauge (by decide +kernel), by decide +kernel⟩

end PacketPriority
