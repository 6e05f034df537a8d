import Mathlib.Data.List.Dedup
import Mathlib.Data.List.MinMax
import PacketPriority.Proofs.Store.Listing

/-!
What a store shows of the list that it keeps.

A store that keeps a list of nodes shows it sorted by precedence, the highest first, and rules of
one precedence in the order of the list: `Lists.rules_eq` says so with the stable sort of the
library. The reason is that a sorted list is the stack of its levels (`stacked_levels`) and that a
stable sort leaves the levels as they are (`filter_mergeSort`). To look for the first match in it is
to look for the greatest match in the list (`find?_mergeSort`). The figures of `stats` are those of
the list too.
-/

namespace PacketPriority

variable {α : Type}

/-! ### Sorted lists are stacks of levels -/

section Levels

variable (rank : α → Nat)

/-- The elements of one rank. -/
def level (l : List α) (p : Nat) : List α := l.filter fun a => rank a = p

theorem stacked_levels {n : Nat} {l : List α} (sorted : l.Pairwise fun a b => rank b ≤ rank a)
    (hn : ∀ a ∈ l, rank a < n) : stacked (level rank l) n = l := by
  induction l with
  | nil => exact stacked_eq_nil fun _ _ => rfl
  | cons a l ih =>
    -- the first element is of the highest rank, so that all levels above its own are empty
    obtain ⟨ha, hl⟩ := List.pairwise_cons.1 sorted
    have above : ∀ p, rank a < p → level rank l p = [] := by
      intro p hp
      refine List.filter_eq_nil_iff.2 fun b hb => ?_
      have := ha b hb
      simp only [decide_eq_true_eq]
      omega
    have cons : level rank (a :: l) = fun p =>
        if p = rank a then a :: level rank l p else level rank l p := by
      funext p
      by_cases hp : p = rank a
      · simp [level, hp]
      · simp [level, hp, Ne.symm hp]
    rw [cons, stacked_cons a (hn a List.mem_cons_self) above,
      ih hl fun b hb => hn b (List.mem_cons_of_mem a hb)]

theorem rank_trans (a b c : α) (hab : decide (rank b ≤ rank a) = true)
    (hbc : decide (rank c ≤ rank b) = true) : decide (rank c ≤ rank a) = true :=
  decide_eq_true (Nat.le_trans (of_decide_eq_true hbc) (of_decide_eq_true hab))

theorem rank_total (a b : α) : (decide (rank b ≤ rank a) || decide (rank a ≤ rank b)) = true := by
  simp only [Bool.or_eq_true, decide_eq_true_eq]
  exact Nat.le_total _ _

/-- **A stable sort leaves each level as it is.** -/
theorem filter_mergeSort (l : List α) (p : Nat) :
    level rank (l.mergeSort fun a b => rank b ≤ rank a) p = level rank l p := by
  induction l with
  | nil => rw [List.mergeSort_nil]
  | cons a l ih =>
    obtain ⟨l₁, l₂, hcons, hl, before⟩ :=
      List.mergeSort_cons (rank_trans rank) (rank_total rank) a l
    rw [hl] at ih
    rw [hcons]
    by_cases hp : rank a = p
    · -- what the sort puts before `a` is of higher rank
      have none : level rank l₁ p = [] := by
        refine List.filter_eq_nil_iff.2 fun b hb => ?_
        have := before b hb
        simp only [Bool.not_eq_eq_eq_not, Bool.not_true, decide_eq_false_iff_not,
          decide_eq_true_eq] at this ⊢
        omega
      simp only [level, List.filter_append, List.filter_cons, hp] at none ih ⊢
      rw [none, List.nil_append] at ih ⊢
      simp [ih]
    · simpa [level, List.filter_append, List.filter_cons, hp] using ih

/-- The stable sort from high to low is the stack of the levels. -/
theorem mergeSort_eq_stacked {n : Nat} {l : List α} (hn : ∀ a ∈ l, rank a < n) :
    (l.mergeSort fun a b => rank b ≤ rank a) = stacked (level rank l) n := by
  have sorted := List.pairwise_mergeSort (rank_trans rank) (rank_total rank) l
  have stack := stacked_levels rank (n := n) (sorted.imp of_decide_eq_true)
    fun a ha => hn a (List.mem_mergeSort.1 ha)
  rw [← stack]
  exact stacked_congr fun p _ => filter_mergeSort rank l p

/-- **The first match in a stable sort from high to low** is the match of the highest rank, the
first of them among equals. -/
theorem find?_mergeSort (P : α → Bool) (l : List α) :
    (l.mergeSort fun a b => rank b ≤ rank a).find? P = (l.filter P).argmax rank := by
  induction l with
  | nil => rw [List.mergeSort_nil]; rfl
  | cons a l ih =>
    obtain ⟨l₁, l₂, hcons, hl, before⟩ :=
      List.mergeSort_cons (rank_trans rank) (rank_total rank) a l
    have sorted := List.pairwise_mergeSort (rank_trans rank) (rank_total rank) (a :: l)
    rw [hcons] at sorted ⊢
    rw [hl, List.find?_append] at ih
    rcases hP : P a with - | -
    · rw [List.find?_append, List.find?_cons_of_neg (by simp [hP]), ih,
        List.filter_cons_of_neg (by simp [hP])]
    · rw [List.find?_append, List.find?_cons_of_pos hP, List.filter_cons_of_pos hP,
        List.argmax_cons, ← ih]
      rcases e : l₁.find? P with - | c
      · -- what the sort puts behind `a` is not of higher rank
        rcases e' : l₂.find? P with - | c
        · rfl
        · have behind : rank c ≤ rank a := by
            have := (List.pairwise_cons.1 (List.pairwise_append.1 sorted).2.1).1 c
              (List.mem_of_find?_eq_some e')
            exact of_decide_eq_true this
          simp [Nat.not_lt.2 behind]
      · -- what the sort puts before `a` is of higher rank
        have above : rank a < rank c := by
          have := before c (List.mem_of_find?_eq_some e)
          simpa using this
        simp [above]

end Levels

/-- Rules sorted by precedence, the highest first; equal precedences stay in their order. -/
def Rule.ranked (l : List Rule) : List Rule := l.mergeSort fun r s => s.precedence ≤ r.precedence

theorem Rule.ranked_perm (l : List Rule) : (ranked l).Perm l := List.mergeSort_perm l _

namespace Store

variable {s : Store} {l : List Node}

/-! ### Rules -/

/-- A store holds its nodes sorted by precedence, equal precedences in the order of the list. -/
theorem Lists.nodes_eq (h : s.Lists l) :
    s.nodes = l.mergeSort fun n m => m.rule.precedence.toNat ≤ n.rule.precedence.toNat := by
  have bound : ∀ n ∈ l, n.rule.precedence.toNat < bucketCount := by
    intro n hn
    rw [← slot_val (h.precedence_ne hn)]
    exact (slot n.rule.precedence).isLt
  have sort := mergeSort_eq_stacked (fun n : Node => n.rule.precedence.toNat) bound
  rw [nodes_eq_stacked, stacked_congr fun p _ => h.bucket_eq p, sort]
  rfl

/-- **A store shows its list sorted by precedence**, equal precedences in the order of the list. -/
theorem Lists.rules_eq (h : s.Lists l) : s.rules = Rule.ranked (l.map (·.rule)) := by
  rw [rules, h.nodes_eq, Rule.ranked]
  exact List.map_mergeSort fun n _ m _ => decide_eq_decide.2 UInt8.le_iff_toNat_le.symm

theorem Lists.find?_eq (h : s.Lists l) (k : RuleKey) :
    s.find? k = l.find? fun n => n.rule.key = k := by
  rcases e : l.find? (fun n => n.rule.key = k) with - | n
  · rw [e, h.find?_eq_none_iff]
    intro n hn
    simpa using List.find?_eq_none.1 e n hn
  · rw [e, h.find?_eq_some_iff]
    exact ⟨List.mem_of_find?_eq_some e, by simpa using List.find?_some e⟩

/-! ### Figures -/

/-- The rules of a kind are no more than a word can tell, as all rules together are not. -/
theorem Lists.perKind_eq (h : s.Lists l) :
    s.stats.perKind = RuleKind.all.map fun k => (k, (l.map (·.rule)).countP (·.kind = k)) := by
  have keys : (Keyed.keys s.index).Perm (l.map (·.rule.key)) := by
    simpa [Keyed.keys, Node.entry, Function.comp_def] using h.index_perm.map Prod.fst
  refine List.map_congr_left fun k _ => ?_
  have count : ((Keyed.keys s.index).filter fun j => j.kind == k).length =
      (l.map (·.rule)).countP (·.kind = k) := by
    rw [(keys.filter fun j => j.kind == k).length_eq, ← List.countP_eq_length_filter,
      List.countP_map, List.countP_map]
    rfl
  have bound : (l.map (·.rule)).countP (·.kind = k) ≤ UInt32.size - 1 := by
    have all := List.countP_le_length (p := (·.kind = k)) (l := l.map (·.rule))
    rw [List.length_map, ← h.count_eq] at all
    exact all.trans (Nat.le_sub_one_of_lt s.count.toNat_lt)
  rw [count, Nat.min_eq_left bound]

theorem buckets_eq_map (s : Store) :
    s.buckets.toList = (List.range bucketCount).map s.bucket := by
  refine List.ext_getElem (by simp) fun p hp _ => ?_
  rw [List.getElem_map, List.getElem_range, bucket, List.getD, List.getElem?_eq_getElem hp]
  rfl

/-- As many buckets are occupied as precedences occur. -/
theorem Lists.occupiedBuckets_eq (h : s.Lists l) :
    s.stats.occupiedBuckets = ((l.map (·.rule)).map (·.precedence)).dedup.length := by
  -- the buckets with a node and the precedences that occur are the same numbers, each once
  have inj : Function.Injective UInt8.toNat := fun a b => UInt8.toNat_inj.1
  have same : ((List.range bucketCount).filter fun p => !(s.bucket p).isEmpty).Perm
      (((l.map (·.rule)).map (·.precedence)).dedup.map UInt8.toNat) := by
    refine (List.perm_ext_iff_of_nodup (List.nodup_range.filter _)
      ((List.nodup_dedup _).map inj)).2 fun p => ?_
    simp only [List.mem_filter, List.mem_range, List.mem_map, List.mem_dedup]
    constructor
    · rintro ⟨-, hp⟩
      rw [h.bucket_eq] at hp
      obtain ⟨n, hn, hp⟩ : ∃ n ∈ l, n.rule.precedence.toNat = p := by simpa using hp
      exact ⟨_, ⟨_, ⟨n, hn, rfl⟩, rfl⟩, hp⟩
    · rintro ⟨-, ⟨-, ⟨n, hn, rfl⟩, rfl⟩, rfl⟩
      have hb : n ∈ s.bucket n.rule.precedence.toNat := by
        rw [h.bucket_eq]
        exact List.mem_filter.2 ⟨hn, decide_eq_true rfl⟩
      refine ⟨?_, by simpa using List.ne_nil_of_mem hb⟩
      rw [← slot_val (h.precedence_ne hn)]
      exact (slot n.rule.precedence).isLt
  have count := same.length_eq
  rw [List.length_map] at count
  rw [← count]
  show ((s.buckets.toList.filter _).length) = _
  rw [buckets_eq_map, List.filter_map, List.length_map]
  rfl

end Store

end PacketPriority
