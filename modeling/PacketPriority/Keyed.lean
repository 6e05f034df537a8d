/-!
Values under keys.

A keyed list holds at most one value under each key as long as it is changed by `put` and `erase`
alone. `get?` is its view: the three laws below say what each change does to it.
-/

namespace PacketPriority

/-- Values under keys. -/
abbrev Keyed (κ α : Type) := List (κ × α)

namespace Keyed

variable {κ α : Type} [DecidableEq κ]

/-- The value under a key. -/
def get? (k : κ) : Keyed κ α → Option α
  | [] => none
  | (j, a) :: l => if j = k then some a else get? k l

/-- The list without a key. -/
def erase (k : κ) (l : Keyed κ α) : Keyed κ α := l.filter fun e => e.1 ≠ k

/-- The list with a value under a key, in place of any other. -/
def put (k : κ) (a : α) (l : Keyed κ α) : Keyed κ α := (k, a) :: erase k l

def keys (l : Keyed κ α) : List κ := l.map Prod.fst

@[simp] theorem get?_nil (k : κ) : get? k ([] : Keyed κ α) = none := rfl

theorem get?_erase (j k : κ) (l : Keyed κ α) :
    get? j (erase k l) = if k = j then none else get? j l := by
  induction l with
  | nil => simp [erase]
  | cons e l ih =>
    obtain ⟨i, a⟩ := e
    unfold erase at ih ⊢
    by_cases hik : i = k
    · subst hik
      by_cases hij : i = j <;> simp_all [get?]
    · by_cases hkj : k = j <;> by_cases hij : i = j <;> simp_all [get?]

theorem get?_put (j k : κ) (a : α) (l : Keyed κ α) :
    get? j (put k a l) = if k = j then some a else get? j l := by
  by_cases h : k = j <;> simp [put, get?, get?_erase, h]

/-- Where keys are distinct, the value under a key is the one that stands there. -/
theorem get?_eq_some_iff {k : κ} {a : α} {l : Keyed κ α} (h : (keys l).Nodup) :
    get? k l = some a ↔ (k, a) ∈ l := by
  induction l with
  | nil => simp
  | cons e l ih =>
    obtain ⟨j, b⟩ := e
    obtain ⟨hj, hl⟩ := List.nodup_cons.1 h
    rw [List.mem_cons, get?]
    by_cases hjk : j = k
    · subst hjk
      have absent : (j, a) ∉ l := fun hm => hj (List.mem_map.2 ⟨(j, a), hm, rfl⟩)
      simp [absent, eq_comm]
    · rw [if_neg hjk, ih hl]
      simp [Ne.symm hjk]

theorem keys_erase (k : κ) (l : Keyed κ α) : keys (erase k l) = (keys l).filter (· ≠ k) := by
  simp [keys, erase, List.filter_map, Function.comp_def]

/-- Changing a list by `erase` keeps its keys distinct. -/
theorem nodup_keys_erase {k : κ} {l : Keyed κ α} (h : (keys l).Nodup) :
    (keys (erase k l)).Nodup := by
  rw [keys_erase]
  exact h.filter _

/-- Changing a list by `put` keeps its keys distinct. -/
theorem nodup_keys_put {k : κ} {a : α} {l : Keyed κ α} (h : (keys l).Nodup) :
    (keys (put k a l)).Nodup := by
  have : keys (put k a l) = k :: keys (erase k l) := rfl
  rw [this, List.nodup_cons]
  refine ⟨?_, nodup_keys_erase h⟩
  rw [keys_erase]
  simp

end Keyed

end PacketPriority
