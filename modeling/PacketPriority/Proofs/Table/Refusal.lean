import PacketPriority.Proofs.Table.Agreement
import PacketPriority.Proofs.Table.Soundness

/-!
Updates fail for known causes, and failing leaves no trace.

`Table.Refuses` lists the causes for which a table that stands idle refuses a request, each by what
readers see: the counter, the dump and the request itself. The index and the buckets are in step, so
the index refuses to delete a rule exactly when the dump does not show it
(`Reachable.update_error_iff`).

A refused update is counted and does nothing else. What a table does never depends on what it has
counted, so the calls that fail can be left out of a run: `Table.succeeding` keeps the others, and
within a batch the requests that are granted. The run of what is left leads to a table that agrees
with the first, and reports what was granted before (`Table.run_succeeding`).
-/

namespace PacketPriority

/-! ### Causes -/

/-- The causes for which a table refuses a request while no writer is at work. The checks are made
in order, and the counter is looked at first. -/
inductive Table.Refuses (t : Table) : Option Request → UpdateError → Prop
  | nullRequest : t.Refuses none .nullRequest
  | unknownCommand {q : Request} {code : UInt8} : q.command = .unknown code →
      t.Refuses (some q) .unknownCommand
  | tableFull {q : Request} : q.command = .add → t.limits.ruleMax ≤ t.count →
      t.Refuses (some q) .tableFull
  | invalidEntry {q : Request} : q.command = .add → t.count < t.limits.ruleMax →
      10 ≤ q.rule.treatment.output → t.Refuses (some q) .invalidEntry
  | tableEmpty {q : Request} : q.command = .delete → t.count = 0 →
      t.Refuses (some q) .tableEmpty
  | ruleNotFound {q : Request} : q.command = .delete → t.count ≠ 0 →
      (∀ r ∈ t.dump, r.key ≠ q.key) → t.Refuses (some q) .ruleNotFound

/-- The result of an update is that of the store for which a writer has begun. -/
theorem Table.update_result {t : Table} {w : Store} (hw : t.store.beginWrite = some w)
    (q : Request) : (t.update (some q)).2 = (w.serve t.limits q).map (·.outcome) := by
  rcases hs : w.serve t.limits q with e | c
  · rw [update_of_error hw hs]
    rfl
  · rw [update_of_ok hw hs]
    rfl

namespace Reachable

variable {limits : Limits} {t : Table}

/-- An idle table lets a writer begin, who finds the rules that the dump shows. -/
theorem exists_writer (h : Reachable limits t) (idle : t.store.writing = false) :
    ∃ w, t.store.beginWrite = some w ∧ w.count = t.count ∧
      ∀ k, w.remove k = none ↔ ∀ r ∈ t.dump, r.key ≠ k := by
  obtain ⟨-, nodes, hkeeps⟩ := h.keeps
  have hw := Store.beginWrite_of_idle idle
  refine ⟨_, hw, rfl, fun k => ?_⟩
  have shown : (∀ r ∈ t.dump, r.key ≠ k) ↔ ∀ n ∈ nodes, n.rule.key ≠ k := by
    rw [Table.dump, Store.dump_eq_rules, Store.rules, List.forall_mem_map]
    exact forall_congr' fun n => imp_congr_left hkeeps.mem_nodes
  rw [shown, Store.remove, Option.map_eq_none_iff, (hkeeps.beginWrite hw).find?_eq_none_iff]

/-- A cause that the table has is the error of the update. -/
theorem error_of_refuses (h : Reachable limits t) (idle : t.store.writing = false)
    {q : Option Request} {e : UpdateError} (cause : t.Refuses q e) : (t.update q).2 = .error e := by
  obtain ⟨w, hw, hcount, hremove⟩ := h.exists_writer idle
  cases cause with
  | nullRequest => rfl
  | unknownCommand hc =>
    rw [Table.update_result hw, Store.serve, hc]
    rfl
  | tableFull hc full =>
    rw [← hcount] at full
    rw [Table.update_result hw, Store.serve, hc]
    exact congrArg _ (Store.add_of_full full)
  | invalidEntry hc room code =>
    rw [← hcount] at room
    rw [Table.update_result hw, Store.serve, hc]
    exact congrArg _ (Store.add_of_code room code)
  | tableEmpty hc none =>
    rw [← hcount] at none
    rw [Table.update_result hw, Store.serve, hc]
    exact congrArg _ (Store.delete_of_empty none)
  | ruleNotFound hc some absent =>
    rw [← hcount] at some
    rw [Table.update_result hw, Store.serve, hc]
    exact congrArg _ (Store.delete_of_absent some ((hremove _).2 absent))

/-- A table with no cause to refuse a request grants it. -/
theorem refuses_or_ok (h : Reachable limits t) (idle : t.store.writing = false)
    (q : Option Request) :
    (∃ e, t.Refuses q e) ∨ ∃ outcome, (t.update q).2 = .ok outcome := by
  obtain ⟨w, hw, hcount, hremove⟩ := h.exists_writer idle
  rcases q with - | q
  · exact .inl ⟨_, .nullRequest⟩
  rw [Table.update_result hw, Store.serve]
  rcases hc : q.command with - | - | code
  · rcases UInt32.lt_or_le w.count t.limits.ruleMax with room | full
    · rcases UInt8.lt_or_le q.rule.treatment.output 10 with code | code
      · exact .inr ⟨_, congrArg _ (Store.add_of_room room code)⟩
      · rw [hcount] at room
        exact .inl ⟨_, .invalidEntry hc room code⟩
    · rw [hcount] at full
      exact .inl ⟨_, .tableFull hc full⟩
  · by_cases none : w.count = 0
    · rw [hcount] at none
      exact .inl ⟨_, .tableEmpty hc none⟩
    · rcases hr : w.remove q.key with - | ⟨v, n⟩
      · rw [hcount] at none
        exact .inl ⟨_, .ruleNotFound hc none ((hremove _).1 hr)⟩
      · exact .inr ⟨_, congrArg _ (Store.delete_of_present none hr)⟩
  · exact .inl ⟨_, .unknownCommand hc⟩

/-- **An update fails exactly for the causes that the table has.** -/
theorem update_error_iff (h : Reachable limits t) (idle : t.store.writing = false)
    (q : Option Request) (e : UpdateError) : (t.update q).2 = .error e ↔ t.Refuses q e := by
  constructor
  · intro failed
    rcases h.refuses_or_ok idle q with ⟨e', cause⟩ | ⟨outcome, ok⟩
    · have same := h.error_of_refuses idle cause
      rw [failed] at same
      cases same
      exact cause
    · rw [failed] at ok
      cases ok
  · exact h.error_of_refuses idle

/-- An update succeeds exactly if the table has no cause to refuse it. -/
theorem update_ok_iff (h : Reachable limits t) (idle : t.store.writing = false)
    (q : Option Request) :
    (∃ outcome, (t.update q).2 = .ok outcome) ↔ ∀ e, ¬ t.Refuses q e := by
  constructor
  · rintro ⟨outcome, ok⟩ e cause
    rw [h.error_of_refuses idle cause] at ok
    cases ok
  · intro noCause
    rcases h.refuses_or_ok idle q with ⟨e, cause⟩ | ok
    · exact absurd cause (noCause e)
    · exact ok

end Reachable

/-! ### Runs without what fails -/

/-- What a report says of success: nothing of an update or a flush that failed, and of a batch the
requests that were granted. -/
def Report.succeeded : Report → Option Report
  | .updated (.error _) | .flushed (.error _) => none
  | .loaded rs => some (.loaded (rs.filter (·.2.isOk)))
  | r => some r

theorem Report.eq_or_loaded_of_succeeded {r r' : Report} (h : r.succeeded = some r') :
    r = r' ∨ ∃ rs, r = .loaded rs := by
  cases r with
  | updated result =>
    cases result with
    | error e => cases h
    | ok outcome => exact .inl (Option.some.inj h)
  | loaded rs => exact .inr ⟨rs, rfl⟩
  | flushed result =>
    cases result with
    | error e => cases h
    | ok removed => exact .inl (Option.some.inj h)
  | done => exact .inl (Option.some.inj h)

namespace Table

/-- The requests of a batch that are granted, each in its turn. -/
def granted (t : Table) : List Request → List Request
  | [] => []
  | q :: rest =>
    let later := (t.apply q).1.granted rest
    if (t.apply q).2.isOk then q :: later else later

/-- A call without what fails of it, and no call if nothing is left. -/
def trim (t : Table) : Operation → List Operation
  | .load qs => [.load (t.granted qs)]
  | op => if (t.operate op).2.succeeded.isSome then [op] else []

/-- The calls of a run without what fails of them, each in its turn. -/
def succeeding (t : Table) : List Operation → List Operation
  | [] => []
  | op :: rest => t.trim op ++ (t.operate op).1.succeeding rest

variable {t u : Table}

/-- **A refused update leaves no trace** but in the meter. -/
theorem agrees_of_update_error {q : Option Request} {e : UpdateError}
    (failed : (t.update q).2 = .error e) : t.Agrees (t.update q).1 := by
  rw [update_of_result_error failed]
  exact t.settle_agrees _ _

theorem agrees_of_flush_error {e : UpdateError} (failed : t.flush.2 = .error e) :
    t.Agrees t.flush.1 := by
  rcases hw : t.store.beginWrite with - | s
  · simp only [flush, hw]
    exact ⟨⟨rfl, rfl⟩, rfl, rfl⟩
  · simp [flush, hw] at failed

/-- A call that does not succeed at all leaves no trace but in the meter. -/
theorem agrees_of_failure {op : Operation} (failed : (t.operate op).2.succeeded = none) :
    t.Agrees (t.operate op).1 := by
  cases op with
  | update q =>
    rcases hr : (t.update q).2 with e | outcome
    · exact agrees_of_update_error hr
    · have report : (t.operate (.update q)).2 = .updated (.ok outcome) := congrArg Report.updated hr
      simp [report, Report.succeeded] at failed
  | apply q =>
    rcases hr : (t.update (some q)).2 with e | outcome
    · exact agrees_of_update_error hr
    · have report : (t.operate (.apply q)).2 = .updated (.ok outcome) := congrArg Report.updated hr
      simp [report, Report.succeeded] at failed
  | load qs => cases failed
  | flush | shutdown =>
    rcases hr : t.flush.2 with e | removed
    · exact agrees_of_flush_error hr
    · have report : (t.operate .flush).2 = .flushed (.ok removed.toNat) :=
        congrArg (fun r => Report.flushed (Except.map UInt32.toNat r)) hr
      have failed : (t.operate .flush).2.succeeded = none := failed
      simp [report, Report.succeeded] at failed
  | classify | register | unregister | withdraw => cases failed

/-- The granted requests of a batch do what the whole batch does, and are granted again. -/
theorem load_granted (h : t.Agrees u) (qs : List Request) :
    (t.load qs).1.Agrees (u.load (t.granted qs)).1 ∧
      (u.load (t.granted qs)).2 = (t.load qs).2.filter (·.2.isOk) := by
  induction qs generalizing t u with
  | nil => exact ⟨h, rfl⟩
  | cons q rest ih =>
    rcases hr : (t.apply q).2 with e | outcome
    · -- refused: the first table goes on as the second one stands
      have skip : t.granted (q :: rest) = (t.apply q).1.granted rest := by
        simp [granted, hr, Except.isOk, Except.toBool]
      obtain ⟨later, results⟩ := ih ((agrees_of_update_error hr).symm.trans h)
      rw [skip]
      refine ⟨later, ?_⟩
      show _ = ((q.key, (t.apply q).2) :: ((t.apply q).1.load rest).2).filter (·.2.isOk)
      rw [hr]
      exact results
    · -- granted: both tables take the request, with the same result
      have keep : t.granted (q :: rest) = q :: (t.apply q).1.granted rest := by
        simp [granted, hr, Except.isOk, Except.toBool]
      obtain ⟨first, same⟩ := h.update (some q)
      obtain ⟨later, results⟩ := ih first
      rw [keep]
      refine ⟨later, ?_⟩
      show (q.key, (u.apply q).2) :: ((u.apply q).1.load ((t.apply q).1.granted rest)).2 =
        ((q.key, (t.apply q).2) :: ((t.apply q).1.load rest).2).filter (·.2.isOk)
      replace same : (u.apply q).2 = .ok outcome := same.symm.trans hr
      rw [same, hr, List.filter_cons_of_pos rfl]
      exact congrArg _ results

/-- What is left of a call does what the whole call does, and succeeds again. -/
theorem run_trim (h : t.Agrees u) (op : Operation) :
    (t.operate op).1.Agrees (u.run (t.trim op)) ∧
      (u.trace (t.trim op)).map Prod.fst = (t.operate op).2.succeeded.toList := by
  by_cases batch : ∃ qs, op = .load qs
  · obtain ⟨qs, rfl⟩ := batch
    obtain ⟨loaded, results⟩ := load_granted h qs
    refine ⟨loaded, ?_⟩
    show [Report.loaded (u.load (t.granted qs)).2] = _
    rw [results]
    rfl
  · -- of any other call everything is left, or nothing
    have trimmed : t.trim op = if (t.operate op).2.succeeded.isSome then [op] else [] := by
      cases op with
      | load qs => exact absurd ⟨qs, rfl⟩ batch
      | _ => rfl
    have whole : ∀ r, (t.operate op).2.succeeded = some r → (t.operate op).2 = r := by
      intro r hr
      rcases Report.eq_or_loaded_of_succeeded hr with same | ⟨rs, loaded⟩
      · exact same
      · cases op with
        | load qs => exact absurd ⟨qs, rfl⟩ batch
        | _ => cases loaded
    rcases hs : (t.operate op).2.succeeded with - | r
    · rw [trimmed, hs]
      exact ⟨(agrees_of_failure hs).symm.trans h, rfl⟩
    · obtain ⟨later, same⟩ := h.operate op
      rw [trimmed, hs]
      refine ⟨later, ?_⟩
      show [(u.operate op).2] = [r]
      rw [← same, whole r hs]

/-- **Leaving out what fails changes nothing that follows.** The run of what is left leads to a
table that agrees with the first, and reports what was granted before. -/
theorem run_succeeding (h : t.Agrees u) (ops : List Operation) :
    (t.run ops).Agrees (u.run (t.succeeding ops)) ∧
      (u.trace (t.succeeding ops)).map Prod.fst = (t.trace ops).filterMap (·.1.succeeded) := by
  induction ops generalizing t u with
  | nil => exact ⟨h, rfl⟩
  | cons op rest ih =>
    obtain ⟨first, report⟩ := run_trim h op
    obtain ⟨later, reports⟩ := ih first
    rw [succeeding, run_append, trace_append]
    refine ⟨later, ?_⟩
    rw [List.map_append, report, reports, trace, List.filterMap_cons]
    cases (t.operate op).2.succeeded <;> rfl

end Table

namespace Reachable

variable {limits : Limits} {t : Table}

/-- **Updates fail exactly when they should, and failing leaves no trace.** On a reachable table
with no writer at work, an update fails exactly for the causes that the table has and succeeds
without one; where it fails, store and observers stay as they are and no observer is told. So in any
run the calls that fail, and the requests that fail within batches, can be left out: dump, queries,
observers and all that they were told are the same, and the other calls report the same. -/
theorem failing_leaves_no_trace (h : Reachable limits t) (idle : t.store.writing = false) :
    (∀ q e, (t.update q).2 = .error e ↔ t.Refuses q e) ∧
    (∀ q, (∃ outcome, (t.update q).2 = .ok outcome) ↔ ∀ e, ¬ t.Refuses q e) ∧
    (∀ q e, (t.update q).2 = .error e → (t.update q).1.store = t.store ∧
      (t.update q).1.registry = t.registry ∧ (t.update q).1.log = t.log) ∧
    ∀ ops, (t.run (t.succeeding ops)).dump = (t.run ops).dump ∧
      (∀ k, (t.run (t.succeeding ops)).query k = (t.run ops).query k) ∧
      (t.run (t.succeeding ops)).registry = (t.run ops).registry ∧
      (t.run (t.succeeding ops)).log = (t.run ops).log ∧
      (t.trace (t.succeeding ops)).map Prod.fst = (t.trace ops).filterMap (·.1.succeeded) := by
  refine ⟨h.update_error_iff idle, h.update_ok_iff idle, fun q e failed => ?_, fun ops => ?_⟩
  · have same := Table.agrees_of_update_error failed
    exact ⟨same.store, same.registry, same.log⟩
  · obtain ⟨same, reports⟩ := Table.run_succeeding (.refl t) ops
    refine ⟨?_, fun k => ?_, same.registry, same.log, reports⟩
    · rw [Table.dump, same.store]
      rfl
    · rw [Table.query, same.store]
      rfl

/-- A full table refuses even the rule that it has, and stays as it is. -/
theorem failing_leaves_no_trace_when_full :
    let t := (Table.new { ruleMax := 1 }).run [.apply (.add { id := 1 })]
    let q := some (Request.add { id := 1, precedence := 3 })
    (t.update q).2 = .error .tableFull ∧ (t.update q).1.store = t.store := by
  intro t q
  obtain ⟨fails, -, trace, -⟩ := (Reachable.new.run _).failing_leaves_no_trace (t := t) rfl
  have full : (t.update q).2 = .error .tableFull := (fails q _).2 (.tableFull rfl (by decide))
  exact ⟨full, (trace q _ full).1⟩

end Reachable

end PacketPriority
