import Mathlib.Algebra.Ring.Nat
import Mathlib.Logic.Function.Basic
import PacketPriority.Meter

/-!
Sums of counters.

Who reads a meter knows names and labels: it adds up the counters of a name, all of them or those
that carry some labels (`Meter.total`). An event that is counted is counted once in every sum that
its series belongs to (`Meter.total_increment`). The labels of an update of a rule tell its series
from all others (`Series.eq_updates_iff`), so that the sum over them is one counter.
-/

namespace PacketPriority

/-! ### Sums of values under keys -/

namespace Keyed

variable {κ : Type} {l : Keyed κ Nat} {P : κ → Bool}

/-- The sum of the values whose keys pass a test. -/
def sum (P : κ → Bool) (l : Keyed κ Nat) : Nat := ((l.filter fun e => P e.1).map Prod.snd).sum

theorem sum_cons (e : κ × Nat) (l : Keyed κ Nat) :
    sum P (e :: l) = (if P e.1 then e.2 else 0) + sum P l := by
  cases h : P e.1 <;> simp [sum, h]

variable [DecidableEq κ]

theorem erase_of_notMem {k : κ} (h : k ∉ keys l) : erase k l = l := by
  refine List.filter_eq_self.2 fun e he => decide_eq_true fun hk => ?_
  exact h (hk ▸ List.mem_map_of_mem he)

/-- A key that is taken out takes its value out of the sum. -/
theorem sum_erase (h : (keys l).Nodup) (k : κ) :
    sum P (erase k l) + (if P k then (get? k l).getD 0 else 0) = sum P l := by
  induction l with
  | nil => simp [erase]
  | cons e l ih =>
    obtain ⟨j, n⟩ := e
    obtain ⟨hj, hl⟩ := List.nodup_cons.1 h
    by_cases hk : j = k
    · subst hk
      have rest : erase j ((j, n) :: l) = l := by
        have absent := erase_of_notMem hj
        simpa [erase] using absent
      rw [rest, sum_cons, get?, if_pos rfl, Option.getD_some, Nat.add_comm]
    · have kept : erase k ((j, n) :: l) = (j, n) :: erase k l := by simp [erase, hk]
      rw [kept, sum_cons, sum_cons, get?, if_neg hk, Nat.add_assoc, ih hl]

/-- A test that one key alone passes sums up its value. -/
theorem sum_eq_get? (h : (keys l).Nodup) {k : κ} (only : ∀ j, P j = true ↔ j = k) :
    sum P l = (get? k l).getD 0 := by
  have rest : sum P (erase k l) = 0 := by
    have none : (erase k l).filter (fun e => P e.1) = [] := by
      refine List.filter_eq_nil_iff.2 fun e he hP => ?_
      exact of_decide_eq_true (List.mem_filter.1 he).2 ((only e.1).1 hP)
    rw [sum, none]
    rfl
  have whole := sum_erase (P := P) h k
  rwa [rest, if_pos ((only k).2 rfl), Nat.zero_add, eq_comm] at whole

end Keyed

/-! ### Labels -/

theorem UpdateError.label_injective : Function.Injective UpdateError.label := by
  intro a b h
  cases a <;> cases b <;> first | rfl | exact absurd h (by decide)

/-- No refusal is labelled like a success. -/
theorem UpdateError.label_ne (e : UpdateError) :
    e.label ∉ ["added", "modified", "moved", "deleted"] := by
  cases e <;> decide

theorem UpdateLabel.toString_injective : Function.Injective UpdateLabel.toString := by
  intro a b h
  have success : ∀ {c : UpdateLabel} {e : UpdateError}, (∀ e', c ≠ refused e') →
      c.toString ≠ e.label := by
    intro c e hc same
    have apart := e.label_ne
    rw [← same] at apart
    cases c with
    | added | modified | moved | deleted => exact apart (by decide)
    | refused e' => exact hc e' rfl
  cases a with
  | refused e =>
    cases b with
    | refused e' => exact congrArg refused (UpdateError.label_injective h)
    | added | modified | moved | deleted => exact absurd h.symm (success nofun)
  | added | modified | moved | deleted =>
    cases b with
    | refused e => exact absurd h (success nofun)
    | added | modified | moved | deleted => first | rfl | exact absurd h (by decide)

theorem RuleKind.toString_injective : Function.Injective RuleKind.toString := by
  intro a b h
  have read := congrArg RuleKind.ofName? h
  rwa [ofName?_toString, ofName?_toString, Option.some_inj] at read

/-- The labels of an update of a rule tell its series. -/
theorem Series.eq_updates_iff {s : Series} {label : UpdateLabel} {kind : RuleKind} :
    s.name = "spm_mapdb_updates_total" ∧ (updates label (some kind)).labels ⊆ s.labels ↔
      s = updates label (some kind) := by
  constructor
  · rintro ⟨name, labels⟩
    cases s with
    | updates label' kind' =>
      have result : ("result", label.toString) ∈ (updates label' kind').labels :=
        labels List.mem_cons_self
      have ruleType : ("rule_type", kind.toString) ∈ (updates label' kind').labels :=
        labels (List.mem_cons_of_mem _ List.mem_cons_self)
      obtain rfl : label = label' := by
        refine UpdateLabel.toString_injective ?_
        simpa [Series.labels] using result
      cases kind' with
      | none => cases kind <;> simp [Series.labels, RuleKind.toString] at ruleType
      | some kind' =>
        obtain rfl : kind = kind' := by
          refine RuleKind.toString_injective ?_
          simpa [Series.labels] using ruleType
        rfl
    | writerBusy | classifications | flushes => simp [Series.name] at name
  · rintro rfl
    exact ⟨rfl, List.Subset.refl _⟩

/-! ### Sums of a meter -/

namespace Meter

variable {m : Meter}

/-- The sum of the counters of a name that carry some labels, whatever others they carry. -/
def total (m : Meter) (name : String) (labels : List (String × String)) : Nat :=
  Keyed.sum (fun s : Series => s.name = name ∧ labels ⊆ s.labels) m.counters

/-- The updates that are counted with a result for a kind of rules. -/
def updated (m : Meter) (result : String) (kind : RuleKind) : Nat :=
  m.total "spm_mapdb_updates_total" [("result", result), ("rule_type", kind.toString)]

/-- No series has two counters. -/
def Distinct (m : Meter) : Prop := (Keyed.keys m.counters).Nodup

theorem Distinct.increment (h : m.Distinct) (s : Series) : (m.increment s).Distinct :=
  Keyed.nodup_keys_put h

/-- An event is counted once in every sum that its series belongs to. -/
theorem total_increment (h : m.Distinct) (s : Series) (name : String)
    (labels : List (String × String)) :
    (m.increment s).total name labels =
      m.total name labels + if s.name = name ∧ labels ⊆ s.labels then 1 else 0 := by
  have rest := Keyed.sum_erase (P := fun s : Series => s.name = name ∧ labels ⊆ s.labels) h s
  rw [total, total, increment, Keyed.put, Keyed.sum_cons, count, ← rest]
  simp only [decide_eq_true_eq]
  split <;> omega

theorem updated_eq_count (h : m.Distinct) (label : UpdateLabel) (kind : RuleKind) :
    m.updated label.toString kind = m.count (.updates label (some kind)) :=
  Keyed.sum_eq_get? h fun _ => decide_eq_true_iff.trans Series.eq_updates_iff

end Meter

end PacketPriority
