import Mathlib.Data.List.Nodup
import Mathlib.Logic.Relation
import PacketPriority.Proofs.Observer.Isolation

/-!
Registration numbers.

An observer is known by the number under which it was registered. No number is given twice: in a
registry that has come about by registering and unregistering (`Registry.Step`) all numbers are
distinct and below the next one (`Registry.Sound`), and a number that is gone does not come back
(`Registry.numbers_of_steps`). Whatever is done to a table, its registry changes by such steps
alone (`Table.runBy_registry`).
-/

namespace PacketPriority

open Relation

/-! ### Registries -/

namespace Registry

variable {g g' : Registry}

/-- The numbers of the observers that are registered. -/
def numbers (g : Registry) : List Nat := g.entries.map Prod.fst

/-- A registry with one observer more, or without the observer of a number. -/
inductive Step (g : Registry) : Registry → Prop
  | register (o : Observer) : g.Step (g.register o)
  | withdraw (n : Nat) : g.Step (g.unregisterNumber n).1

/-- No number occurs twice, and the next one is new. -/
structure Sound (g : Registry) : Prop where
  nodup : g.numbers.Nodup
  lt_fresh : ∀ n ∈ g.numbers, n < g.fresh

theorem numbers_register (g : Registry) (o : Observer) :
    (g.register o).numbers = g.numbers ++ [g.fresh] := by
  simp [numbers, register]

theorem numbers_unregisterNumber (g : Registry) (n : Nat) :
    (g.unregisterNumber n).1.numbers = g.numbers.filter (· ≠ n) := by
  simp [numbers, unregisterNumber, List.filter_map, Function.comp_def]

theorem Sound.step (h : g.Sound) (step : g.Step g') : g'.Sound := by
  cases step with
  | register o =>
    have new : g.fresh ∉ g.numbers := fun hm => Nat.lt_irrefl _ (h.lt_fresh _ hm)
    constructor
    · rw [numbers_register, List.nodup_append]
      refine ⟨h.nodup, List.nodup_singleton _, fun n hn m hm => ?_⟩
      rw [List.mem_singleton.1 hm]
      exact fun e => new (e ▸ hn)
    · intro n hn
      rw [numbers_register, List.mem_append, List.mem_singleton] at hn
      rcases hn with hn | rfl
      · exact Nat.lt_succ_of_lt (h.lt_fresh n hn)
      · exact Nat.lt_succ_self _
  | withdraw k =>
    constructor
    · rw [numbers_unregisterNumber]
      exact h.nodup.filter _
    · intro n hn
      rw [numbers_unregisterNumber] at hn
      exact h.lt_fresh n (List.mem_of_mem_filter hn)

theorem Sound.steps (h : g.Sound) (steps : ReflTransGen Step g g') : g'.Sound := by
  induction steps with
  | refl => exact h
  | tail _ step ih => exact ih.step step

/-- Numbers are given in order, and a number that is gone does not come back. -/
theorem numbers_of_steps (steps : ReflTransGen Step g g') :
    g.fresh ≤ g'.fresh ∧ ∀ n < g.fresh, n ∈ g'.numbers → n ∈ g.numbers := by
  induction steps with
  | refl => exact ⟨Nat.le_refl _, fun _ _ hn => hn⟩
  | @tail b c _ step ih =>
    obtain ⟨hle, hback⟩ := ih
    cases step with
    | register o =>
      refine ⟨Nat.le_succ_of_le hle, fun n hlt hn => ?_⟩
      rw [numbers_register, List.mem_append, List.mem_singleton] at hn
      rcases hn with hn | rfl
      · exact hback n hlt hn
      · exact absurd hlt (Nat.not_lt.2 hle)
    | withdraw k =>
      refine ⟨hle, fun n hlt hn => ?_⟩
      rw [numbers_unregisterNumber] at hn
      exact hback n hlt (List.mem_of_mem_filter hn)

end Registry

/-! ### Tables -/

namespace Table

theorem withdraw_registry (t : Table) (n : Nat) :
    ReflTransGen Registry.Step t.registry (t.withdraw n).1.registry :=
  .single (.withdraw n)

theorem unregister_registry (t : Table) (tag : String) :
    ReflTransGen Registry.Step t.registry (t.unregister tag).1.registry := by
  show ReflTransGen Registry.Step t.registry (t.registry.unregister tag).1
  unfold Registry.unregister
  split
  · exact .refl
  · exact .single (.withdraw _)

theorem flush_registry (t : Table) : t.flush.1.registry = t.registry := by
  unfold flush
  split <;> rfl

/-- An action changes the registry as it says, if at all. -/
theorem act_registry {t : Table} (h : t.store.writing = true) (a : Action) :
    ReflTransGen Registry.Step t.registry (t.act a).1.registry := by
  cases a with
  | apply q =>
    show ReflTransGen Registry.Step t.registry (t.updateTelling _ (some q)).1.registry
    rw [updateTelling_of_writing h, (t.settle_agrees _ _).registry]
  | flush | shutdown =>
    show ReflTransGen Registry.Step t.registry t.flush.1.registry
    rw [flush_registry]
  | count | query | dump | classify => exact .refl
  | register o => exact .single (.register o)
  | unregister tag => exact t.unregister_registry tag
  | withdraw n => exact t.withdraw_registry n

theorem updateBy_registry (conduct : Conduct) (t : Table) (q : Option Request) :
    ReflTransGen Registry.Step t.registry (t.updateBy conduct q).1.registry := by
  rcases updateBy_cases conduct t q with ⟨c, -, published, -, same⟩ | ⟨e, -, -, same⟩
  · rw [same.registry]
    exact notifyBy_keeps conduct
      (P := fun u => ReflTransGen Registry.Step t.registry u.registry)
      (fun a hu steps => steps.trans (act_registry hu a)) (fun _ steps => steps)
      (t := { t with store := c.store }) published .refl c.event
  · rw [same.registry]

theorem loadBy_registry (conduct : Conduct) (t : Table) (qs : List Request) :
    ReflTransGen Registry.Step t.registry (t.loadBy conduct qs).1.registry := by
  induction qs generalizing t with
  | nil => exact .refl
  | cons q rest ih => exact (t.updateBy_registry conduct (some q)).trans (ih _)

theorem operateBy_registry (conduct : Conduct) (t : Table) (op : Operation) :
    ReflTransGen Registry.Step t.registry (t.operateBy conduct op).1.registry := by
  cases op with
  | update q => exact t.updateBy_registry conduct q
  | apply q => exact t.updateBy_registry conduct (some q)
  | load qs => exact t.loadBy_registry conduct qs
  | flush | shutdown =>
    show ReflTransGen Registry.Step t.registry t.flush.1.registry
    rw [flush_registry]
  | classify p => exact .refl
  | register o => exact .single (.register o)
  | unregister tag => exact t.unregister_registry tag
  | withdraw n => exact t.withdraw_registry n

/-- **The registry changes by registering and unregistering alone**, along every run. -/
theorem runBy_registry (conduct : Conduct) (t : Table) (ops : List Operation) :
    ReflTransGen Registry.Step t.registry (t.runBy conduct ops).registry := by
  induction ops generalizing t with
  | nil => exact .refl
  | cons op rest ih => exact (t.operateBy_registry conduct op).trans (ih _)

/-- No number is given twice on a table that started out empty. -/
theorem registry_sound_of_run (conduct : Conduct) (limits : Limits) (ops : List Operation) :
    ((Table.new limits).runBy conduct ops).registry.Sound := by
  have empty : (Table.new limits).registry.Sound := ⟨.nil, fun n hn => by cases hn⟩
  exact empty.steps ((Table.new limits).runBy_registry conduct ops)

end Table

end PacketPriority
