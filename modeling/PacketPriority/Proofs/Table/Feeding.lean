import PacketPriority.Proofs.Ledger.Step
import PacketPriority.Proofs.Observer.Conduct
import PacketPriority.Proofs.Table.Soundness

/-!
Tables to which only some requests are applied.

`Fed limits accepts t` says that `t` can be met at some moment of some use of a table that is empty
at first, where all requests but those that a writer at work refuses are of one sort. As in
`Reachable`, moments inside a call count, and telling observers leads to no others
(`Fed.notify`). What is true of the rules of that sort, as they are kept, is true of all rules that
are live at such a moment (`Fed.forall_dump`): an update brings in the rule that it asks for and no
other (`Ledger.Step.forall_mem`).
-/

namespace PacketPriority

/-- The requests that a call applies. -/
def Operation.requests : Operation → List Request
  | .update q => q.toList
  | .apply q => [q]
  | .load qs => qs
  | .flush | .shutdown | .classify _ | .register _ | .unregister _ | .withdraw _ => []

/-- The tables that can be met while a table that is empty at first is used, and only some requests
are applied to it; a writer at work may refuse others. -/
inductive Fed (limits : Limits) (accepts : Request → Prop) : Table → Prop
  | empty {t : Table} : Reachable limits t → t.dump = [] → Fed limits accepts t
  | operate {t : Table} (op : Operation) : Fed limits accepts t →
      (∀ q ∈ op.requests, accepts q) → Fed limits accepts (t.operate op).1
  | refuse {t : Table} (op : Operation) : Fed limits accepts t → t.store.writing = true →
      Fed limits accepts (t.operate op).1
  | publish {t : Table} {s : Store} {q : Request} {c : Change} : Fed limits accepts t →
      accepts q → t.store.beginWrite = some s → s.serve t.limits q = .ok c →
      Fed limits accepts { t with store := c.store }
  | record {t : Table} (line : LogEntry) : Fed limits accepts t → Fed limits accepts (t.record line)

/-! ### What comes into a ledger -/

namespace Ledger

variable {limits : Limits} {P : Rule → Prop}

theorem forall_load {l : List Rule} {qs : List Request} (before : ∀ r ∈ l, P r)
    (new : ∀ q ∈ qs, q.command = .add → P (lowered q.rule)) :
    ∀ r ∈ (load limits l qs).1, P r := by
  induction qs generalizing l with
  | nil => exact before
  | cons q rest ih =>
    obtain ⟨first, rest⟩ := List.forall_mem_cons.1 new
    refine ih ((step_update limits l (some q)).forall_mem before fun q' hq' => ?_) rest
    obtain rfl : q = q' := Option.some_inj.1 hq'
    exact first

/-- The rules after a call are those before and those that were asked for. -/
theorem forall_operate {l : List Rule} {op : Operation} (before : ∀ r ∈ l, P r)
    (new : ∀ q ∈ op.requests, q.command = .add → P (lowered q.rule)) :
    ∀ r ∈ (operate limits l op).1, P r := by
  cases op with
  | update q =>
    exact (step_update limits l q).forall_mem before fun q' hq' =>
      new q' (Option.mem_toList.2 hq')
  | apply q => exact forall_load before new
  | load qs => exact forall_load before new
  | flush | shutdown => exact List.forall_mem_nil _
  | classify | register | unregister | withdraw => exact before

end Ledger

/-! ### What is true of all live rules -/

namespace Fed

variable {limits : Limits} {accepts : Request → Prop} {t : Table} {P : Rule → Prop}

/-- A table that is fed keeps rules that are fed to it. -/
theorem keeps (h : Fed limits accepts t)
    (fits : ∀ q, accepts q → q.command = .add → P (Ledger.lowered q.rule)) :
    t.limits = limits ∧ ∃ nodes, t.store.Keeps limits nodes ∧ ∀ r ∈ nodes.map (·.rule), P r := by
  induction h with
  | empty reachable nothing =>
    obtain ⟨hlimits, nodes, hkeeps⟩ := reachable.keeps
    refine ⟨hlimits, nodes, hkeeps, fun r hr => ?_⟩
    rw [← (Table.Shows.of_keeps hkeeps).mem_dump_iff, nothing] at hr
    cases hr
  | @operate t op _ asks ih =>
    obtain ⟨hlimits, nodes, hkeeps, all⟩ := ih
    rcases hw : t.store.writing with - | -
    · have mirrors : t.Mirrors limits (nodes.map (·.rule)) := ⟨hlimits, hw, nodes, hkeeps, rfl⟩
      obtain ⟨hlimits', -, nodes', hkeeps', same⟩ := (mirrors.operate op).1
      refine ⟨hlimits', nodes', hkeeps', ?_⟩
      rw [same]
      exact Ledger.forall_operate all fun q hq => fits q (asks q hq)
    · have same := Table.operate_sameRules hw op
      rw [same.limits, same.store]
      exact ⟨hlimits, nodes, hkeeps, all⟩
  | refuse op _ hw ih =>
    have same := Table.operate_sameRules hw op
    rw [same.limits, same.store]
    exact ih
  | @publish t s q c _ asked hw hs ih =>
    obtain ⟨hlimits, nodes, hkeeps, all⟩ := ih
    -- what is published is what the ledger has been served
    rw [hlimits] at hs
    rcases (hkeeps.beginWrite hw).serve q with ⟨e, he, -⟩ | ⟨c', nodes', hc', hkeeps', served⟩
    · rw [he] at hs
      cases hs
    · rw [hc'] at hs
      cases hs
      have step := Ledger.step_update limits (nodes.map (·.rule)) (some q)
      rw [Ledger.update_of_serve served] at step
      refine ⟨hlimits, nodes', hkeeps', step.forall_mem all fun q' hq' => ?_⟩
      obtain rfl : q = q' := Option.some_inj.1 hq'
      exact fits q asked
  | record line _ ih => exact ih

/-- **What is true of the rules that are fed is true of all live rules**, at every moment. -/
theorem forall_dump (h : Fed limits accepts t)
    (fits : ∀ q, accepts q → q.command = .add → P (Ledger.lowered q.rule)) :
    ∀ r ∈ t.dump, P r := by
  obtain ⟨-, nodes, hkeeps, all⟩ := h.keeps fits
  intro r hr
  exact all r ((Table.Shows.of_keeps hkeeps).mem_dump_iff.1 hr)

/-- Telling observers leads to tables that are fed, whatever the observers ask for. -/
theorem notify (h : Fed limits accepts t) (hw : t.store.writing = true) (conduct : Conduct)
    (e : Event) : Fed limits accepts (t.notifyBy conduct e) := by
  refine Table.notifyBy_keeps conduct (fun {u} a hu fed => ?_)
    (fun line fed => fed.record line) hw h e
  rcases Table.act_eq_operate hu a with same | ⟨op, same⟩
  · rwa [same]
  · rw [same]
    exact fed.refuse op hu

end Fed

end PacketPriority
