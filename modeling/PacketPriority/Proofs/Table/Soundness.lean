import Mathlib.Algebra.Ring.Nat
import PacketPriority.Proofs.Ledger

/-!
The buckets, the index and the counter of a store are in step.

`Store.Sound` says what a store owes to its readers, without any list beside it: a node stands in
the bucket of its own precedence and nowhere else, no key and no serial number occurs twice, the
index leads from a key to the very node that the buckets hold, and the counter is the true number of
rules. A store that keeps a list is sound (`Keeps.sound`), and every reachable table keeps one
(`Reachable.keeps`), between calls and while observers are told.

The counter is a 32-bit word, and the bucket of a precedence is found by cutting the precedence off
at 254. `Change.Counts` says that the word moves like a natural number, and
`Store.slot_stored` that nothing is ever cut off. The main result is `Reachable.store_sound`.
-/

namespace PacketPriority

namespace Store

variable {s : Store} {limits : Limits} {l : List Node}

/-! ### Sound stores -/

/-- The parts of a store are in step, and it holds no more and no other rules than a table with
these limits takes. -/
structure Sound (s : Store) (limits : Limits) : Prop where
  /-- A node stands in the bucket of its precedence. -/
  precedence_eq : ∀ p, ∀ n ∈ s.bucket p, n.rule.precedence.toNat = p
  /-- That bucket is the slot of the precedence, nothing cut off. -/
  slot_eq : ∀ n ∈ s.nodes, (slot n.rule.precedence).val = n.rule.precedence.toNat
  keys_nodup : (s.nodes.map (·.rule.key)).Nodup
  serials_nodup : (s.nodes.map (·.serial)).Nodup
  /-- The next node is told from all that there are. -/
  serial_lt : ∀ n ∈ s.nodes, n.serial < s.fresh
  /-- The index leads to the very nodes of the buckets, and to all of them. -/
  find?_iff : ∀ k n, s.find? k = some n ↔ n.rule.key = k ∧ n ∈ s.bucket n.rule.precedence.toNat
  index_nodup : (Keyed.keys s.index).Nodup
  count_eq_index : s.count.toNat = s.index.length
  count_eq_buckets : s.count.toNat = (s.buckets.toList.map List.length).sum
  count_le : s.count ≤ limits.ruleMax
  output_le : ∀ r ∈ s.dump, r.treatment.output ≤ 9

theorem length_nodes (s : Store) : s.nodes.length = (s.buckets.toList.map List.length).sum := by
  rw [nodes, List.length_flatten, List.map_reverse, List.sum_reverse]

theorem Lists.nodes_perm (h : s.Lists l) : s.nodes.Perm l := by
  rw [h.nodes_eq]
  exact List.mergeSort_perm l _

theorem Keeps.sound (h : s.Keeps limits l) : s.Sound limits where
  precedence_eq p n hn := by
    rw [h.bucket_eq] at hn
    exact of_decide_eq_true (List.mem_filter.1 hn).2
  slot_eq n hn := slot_val (h.precedence_ne (h.mem_nodes.1 hn))
  keys_nodup := (h.nodes_perm.map _).nodup_iff.2 h.keys_nodup
  serials_nodup := (h.nodes_perm.map _).nodup_iff.2 h.serials_nodup
  serial_lt n hn := h.serial_lt n (h.mem_nodes.1 hn)
  find?_iff k n := by
    rw [h.find?_eq_some_iff, h.bucket_eq, List.mem_filter, and_comm]
    simp
  index_nodup := h.index_keys_nodup
  count_eq_index := by rw [h.count_eq, h.index_perm.length_eq, List.length_map]
  count_eq_buckets := by rw [h.count_eq, ← length_nodes, h.nodes_perm.length_eq]
  count_le := by
    rw [UInt32.le_iff_toNat_le, h.count_eq]
    exact h.length_le
  output_le r hr := by
    rw [dump_eq_rules, rules, List.mem_map] at hr
    obtain ⟨n, hn, rfl⟩ := hr
    exact h.output_le n (h.mem_nodes.1 hn)

/-! ### Served requests -/

/-- A rule as it is stored has a bucket of its own precedence. -/
theorem slot_stored (r : Rule) :
    (slot (stored r).precedence).val = (stored r).precedence.toNat := by
  rw [Ledger.stored_eq_lowered]
  exact slot_val (Ledger.lowered_precedence_ne r)

theorem place_event_rule (s : Store) (r : Rule) : (s.place r).event.rule = r := by
  rcases e : s.find? r.key with - | old
  · rw [place_of_new e]
  · by_cases hp : old.rule.precedence = r.precedence
    · rw [place_of_same e hp]
    · rw [place_of_other e hp]

end Store

/-- The counter goes from `before` to what it is after the change without wrapping round. -/
def Change.Counts (c : Change) (before : UInt32) : Prop :=
  match c.outcome with
  | .added => c.store.count.toNat = before.toNat + 1
  | .deleted => c.store.count.toNat + 1 = before.toNat
  | .modified _ | .moved .. => c.store.count = before

namespace Store

variable {s : Store} {limits : Limits} {l : List Node}

theorem place_counts {r : Rule} (room : s.count < limits.ruleMax) :
    (s.place r).Counts s.count := by
  rcases e : s.find? r.key with - | old
  · rw [place_of_new e]
    show (s.count + 1).toNat = s.count.toNat + 1
    have small := limits.ruleMax.toNat_lt
    rw [UInt32.lt_iff_toNat_lt] at room
    rw [UInt32.toNat_add]
    exact Nat.mod_eq_of_lt (by simp; omega)
  · by_cases hp : old.rule.precedence = r.precedence
    · rw [place_of_same e hp]
      rfl
    · rw [place_of_other e hp]
      rfl

/-- The checks on the counter keep it from wrapping round. -/
theorem serve_counts {q : Request} {c : Change} (h : s.serve limits q = .ok c) :
    c.Counts s.count := by
  obtain ⟨-, room, -, rfl⟩ | ⟨-, some, w, n, hr, rfl⟩ := serve_ok_cases h
  · exact place_counts room
  · show w.count.toNat + 1 = s.count.toNat
    have pos : s.count.toNat ≠ 0 := fun e => some (UInt32.toNat_inj.1 e)
    have one : (1 : UInt32) ≤ s.count := by
      rw [UInt32.le_iff_toNat_le]
      simp
      omega
    rw [(remove_some hr).2.2, UInt32.toNat_sub_of_le _ _ one]
    simp
    omega

/-- Nothing is cut off from the precedence of a rule that is placed or taken out. -/
theorem Keeps.slot_event_rule (h : s.Keeps limits l) {q : Request} {c : Change}
    (hc : s.serve limits q = .ok c) :
    (slot c.event.rule.precedence).val = c.event.rule.precedence.toNat := by
  obtain ⟨-, -, -, rfl⟩ | ⟨-, -, w, n, hr, rfl⟩ := serve_ok_cases hc
  · rw [place_event_rule]
    exact slot_stored q.rule
  · have found := h.find?_eq_some_iff.1 (remove_some hr).1
    exact slot_val (h.precedence_ne found.1)

end Store

/-! ### Reachable tables -/

namespace Reachable

variable {limits : Limits} {t : Table}

/-- **Every reachable table keeps a list of rules**, between calls and inside them. -/
theorem keeps (h : Reachable limits t) :
    t.limits = limits ∧ ∃ nodes, t.store.Keeps limits nodes := by
  induction h with
  | new =>
    obtain ⟨nodes, hkeeps, -⟩ := (Table.Mirrors.new limits).keeps
    exact ⟨rfl, nodes, hkeeps⟩
  | @operate t op _ ih =>
    obtain ⟨hlimits, nodes, hkeeps⟩ := ih
    rcases hw : t.store.writing with - | -
    · have mirrors : t.Mirrors limits (nodes.map (·.rule)) := ⟨hlimits, hw, nodes, hkeeps, rfl⟩
      obtain ⟨hlimits', -, nodes', hkeeps', -⟩ := (mirrors.operate op).1
      exact ⟨hlimits', nodes', hkeeps'⟩
    · -- a call from inside a change: the writer that is held keeps it from the store
      have same := Table.operate_sameRules hw op
      rw [same.limits, same.store]
      exact ⟨hlimits, nodes, hkeeps⟩
  | @publish t s q c _ hw hs ih =>
    obtain ⟨hlimits, nodes, hkeeps⟩ := ih
    -- serving has one result, the one that the ledger knows of
    rw [hlimits] at hs
    rcases (hkeeps.beginWrite hw).serve q with ⟨e, he, -⟩ | ⟨c', nodes', hc', hkeeps', -⟩
    · rw [he] at hs
      cases hs
    · rw [hc'] at hs
      cases hs
      exact ⟨hlimits, nodes', hkeeps'⟩
  | record e _ ih =>
    -- a line of the log is no part of the store
    exact ih

/-- A reachable table that stands idle mirrors a ledger. -/
theorem mirrors (h : Reachable limits t) (idle : t.store.writing = false) :
    ∃ l, t.Mirrors limits l := by
  obtain ⟨hlimits, nodes, hkeeps⟩ := h.keeps
  exact ⟨nodes.map (·.rule), hlimits, idle, nodes, hkeeps, rfl⟩

/-- **The store of every reachable table is sound**, and whatever request is served next, the
counter does not wrap round and no precedence is cut off. -/
theorem store_sound (h : Reachable limits t) :
    t.store.Sound limits ∧
      ∀ s q c, t.store.beginWrite = some s → s.serve t.limits q = .ok c →
        c.Counts t.store.count ∧
          (Store.slot c.event.rule.precedence).val = c.event.rule.precedence.toNat := by
  obtain ⟨hlimits, nodes, hkeeps⟩ := h.keeps
  refine ⟨hkeeps.sound, fun s q c hw hs => ?_⟩
  rw [hlimits] at hs
  have counts := Store.serve_counts hs
  have uncut := (hkeeps.beginWrite hw).slot_event_rule hs
  obtain ⟨-, rfl⟩ := Store.beginWrite_eq_some_iff.1 hw
  exact ⟨counts, uncut⟩

/-- A rule that is placed under 255 and moved afterwards stands in one bucket only. -/
theorem store_sound_of_move :
    let t := (Table.new { ruleMax := 2 }).run
      [.apply (.add { id := 1, precedence := 255 }), .apply (.add { id := 1, precedence := 7 })]
    t.store.Sound { ruleMax := 2 } ∧ t.store.index.length = 1 ∧ t.store.bucket 0 = [] ∧
      (t.store.bucket 7).length = 1 :=
  ⟨(Reachable.new.run _).store_sound.1, rfl, rfl, rfl⟩

end Reachable

end PacketPriority
