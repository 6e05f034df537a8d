import PacketPriority.Proofs.Ledger

/-!
All that one update can do to a ledger.

`Ledger.Step` has one case for each end of an update: it is refused, or it adds a rule, exchanges
one at its place, moves one or takes one out. Each case says what was asked, what stood in the
ledger and what stands there afterwards. An update is always such a step (`step_update`), so that
what every update keeps is shown by five cases, without the checks and their order. An update writes
under one key and nowhere else: a test that fails the rule under that key, as it was and as it is,
sees the same rules in the same order before and after (`Step.filter_eq`). The keys of a ledger that
a table mirrors are distinct (`Table.Mirrors.keys_nodup`), so that in what order the rules stand
matters to a dump and to no other reader.
-/

namespace PacketPriority

namespace Ledger

variable {limits : Limits} {l : List Rule} {r old : Rule} {k : RuleKey}

/-! ### Rules by their keys -/

theorem key_lowered (r : Rule) : (lowered r).key = r.key := by
  unfold lowered
  split <;> rfl

theorem rule?_eq_some (h : rule? l k = some old) : old ∈ l ∧ old.key = k :=
  ⟨List.mem_of_find?_eq_some h, by simpa using List.find?_some h⟩

theorem rule?_eq_none (h : rule? l k = none) : ∀ s ∈ l, s.key ≠ k := by
  intro s hs
  simpa using List.find?_eq_none.1 h s hs

/-- Where keys are distinct, the rule that is found for a key is the only one that has it. -/
theorem eq_of_rule? (nodup : (l.map (·.key)).Nodup) (h : rule? l k = some old) :
    ∀ s ∈ l, s.key = k → s = old := by
  intro s hs hk
  obtain ⟨hold, hkey⟩ := rule?_eq_some h
  exact List.inj_on_of_nodup_map nodup hs hold (hk.trans hkey.symm)

/-! ### Steps -/

/-- What an update with a request makes of a ledger, and its result. -/
inductive Step (limits : Limits) (l : List Rule) :
    Option Request → List Rule → UpdateResult → Prop
  | refused {q : Option Request} (e : UpdateError) : Step limits l q l (.error e)
  | added {q : Request} : q.command = .add → l.length < limits.ruleMax.toNat →
      q.rule.treatment.output < 10 → rule? l q.key = none →
      Step limits l (some q) (lowered q.rule :: l) (.ok .added)
  | modified {q : Request} {old : Rule} : q.command = .add → l.length < limits.ruleMax.toNat →
      q.rule.treatment.output < 10 → rule? l q.key = some old →
      old.precedence = (lowered q.rule).precedence →
      Step limits l (some q) (exchange l (lowered q.rule))
        (.ok (.modified (changes old (lowered q.rule))))
  | moved {q : Request} {old : Rule} : q.command = .add → l.length < limits.ruleMax.toNat →
      q.rule.treatment.output < 10 → rule? l q.key = some old →
      old.precedence ≠ (lowered q.rule).precedence →
      Step limits l (some q) (lowered q.rule :: without l q.key)
        (.ok (.moved old.precedence (changes old (lowered q.rule))))
  | deleted {q : Request} {old : Rule} : q.command = .delete → rule? l q.key = some old →
      Step limits l (some q) (without l q.key) (.ok .deleted)

theorem update_of_serve {q : Request} {l' : List Rule} {outcome : Outcome}
    (h : serve limits l q = .ok (l', outcome)) :
    update limits l (some q) = (l', .ok outcome) := by
  rw [update, h]

theorem update_of_refusal {q : Request} {e : UpdateError} (h : serve limits l q = .error e) :
    update limits l (some q) = (l, .error e) := by
  rw [update, h]

/-- Placing a rule is one of three steps. -/
theorem step_place {q : Request} (add : q.command = .add)
    (room : l.length < limits.ruleMax.toNat) (code : q.rule.treatment.output < 10) :
    Step limits l (some q) (place l (lowered q.rule)).1 (.ok (place l (lowered q.rule)).2) := by
  have hkey : (lowered q.rule).key = q.key := key_lowered q.rule
  rcases e : rule? l q.key with - | old
  · have placed : place l (lowered q.rule) = (lowered q.rule :: l, .added) := by
      rw [place, hkey, e]
    rw [placed]
    exact .added add room code e
  · by_cases hp : old.precedence = (lowered q.rule).precedence
    · have placed : place l (lowered q.rule) =
          (exchange l (lowered q.rule), .modified (changes old (lowered q.rule))) := by
        simp only [place, hkey, e, if_pos hp]
      rw [placed]
      exact .modified add room code e hp
    · have placed : place l (lowered q.rule) = (lowered q.rule :: without l q.key,
          .moved old.precedence (changes old (lowered q.rule))) := by
        simp only [place, hkey, e, if_neg hp]
      rw [placed]
      exact .moved add room code e hp

/-- **Every update is a step.** -/
theorem step_update (limits : Limits) (l : List Rule) (q : Option Request) :
    Step limits l q (update limits l q).1 (update limits l q).2 := by
  rcases q with - | q
  · exact .refused .nullRequest
  rcases e : serve limits l q with e' | ⟨l', outcome⟩
  · rw [update_of_refusal e]
    exact .refused e'
  rw [update_of_serve e]
  -- what is served has passed every check, and they are what the step asks for
  unfold serve at e
  rcases hc : q.command with - | - | code
  · simp only [hc] at e
    split at e
    · cases e
    · next room =>
      split at e
      · cases e
      · next code =>
        have step : Step limits l (some q) _ _ :=
          step_place hc (Nat.lt_of_not_le room) (UInt8.not_le.1 code)
        rwa [Except.ok.inj e] at step
  · simp only [hc] at e
    split at e
    · cases e
    · split at e
      · cases e
      · next found =>
        obtain ⟨old, hold⟩ := Option.ne_none_iff_exists'.1 found
        obtain ⟨rfl, rfl⟩ := Prod.mk.inj (Except.ok.inj e)
        exact .deleted hc hold
  · simp only [hc] at e
    cases e

/-! ### What a test sees of an update -/

section

variable {l' : List Rule} {q : Request} {result : UpdateResult} {P : Rule → Bool}

theorem filter_without (failing : ∀ s ∈ l, s.key = k → P s = false) :
    (without l k).filter P = l.filter P := by
  rw [without, List.filter_filter]
  refine List.filter_congr fun s hs => ?_
  by_cases hk : s.key = k
  · rw [failing s hs hk, Bool.false_and]
  · simp [hk]

theorem filter_exchange (failing : ∀ s ∈ l, s.key = r.key → P s = false) (hr : P r = false) :
    (exchange l r).filter P = l.filter P := by
  induction l with
  | nil => rfl
  | cons s l ih =>
    have rest := ih fun s' hs' => failing s' (List.mem_cons_of_mem s hs')
    rw [exchange, List.map_cons]
    by_cases hk : s.key = r.key
    · -- neither the rule that goes nor the one that comes is seen
      have hs := failing s List.mem_cons_self hk
      rw [if_pos hk, List.filter_cons_of_neg (by simp [hr]), List.filter_cons_of_neg (by simp [hs])]
      exact rest
    · rw [if_neg hk, List.filter_cons, List.filter_cons]
      exact congrArg (fun seen => if P s = true then s :: seen else seen) rest

theorem mem_exchange {old : Rule} (hold : old ∈ l) (hk : old.key = r.key) : r ∈ exchange l r :=
  List.mem_map.2 ⟨old, hold, if_pos hk⟩

/-- **A test does not see an update** whose rule fails it, as it was and as it is. -/
theorem Step.filter_eq (step : Step limits l (some q) l' result)
    (before : ∀ r ∈ l, r.key = q.key → P r = false)
    (after : ∀ r ∈ l', r.key = q.key → P r = false) : l'.filter P = l.filter P := by
  have hkey : (lowered q.rule).key = q.key := key_lowered q.rule
  cases step with
  | refused => rfl
  | added =>
    have hr := after _ List.mem_cons_self hkey
    exact List.filter_cons_of_neg (by simp [hr])
  | modified _ _ _ found _ =>
    obtain ⟨hold, hk⟩ := rule?_eq_some found
    have hr := after _ (mem_exchange hold (hk.trans hkey.symm)) hkey
    exact filter_exchange (fun s hs hs' => before s hs (hs'.trans hkey)) hr
  | moved =>
    have hr := after _ List.mem_cons_self hkey
    rw [List.filter_cons_of_neg (by simp [hr])]
    exact filter_without before
  | deleted => exact filter_without before

/-- The rules of a ledger after an update are those before and the one that was asked for. -/
theorem Step.forall_mem {P : Rule → Prop} {q : Option Request}
    (step : Step limits l q l' result) (before : ∀ r ∈ l, P r)
    (new : ∀ q' ∈ q, q'.command = .add → P (lowered q'.rule)) : ∀ r ∈ l', P r := by
  have kept : ∀ k, ∀ r ∈ without l k, P r := fun k r hr => before r (List.mem_filter.1 hr).1
  cases step with
  | refused => exact before
  | added add => exact List.forall_mem_cons.2 ⟨new _ rfl add, before⟩
  | modified add =>
    intro r hr
    obtain ⟨s, hs, rfl⟩ := List.mem_map.1 hr
    split
    · exact new _ rfl add
    · exact before s hs
  | moved add => exact List.forall_mem_cons.2 ⟨new _ rfl add, kept _⟩
  | deleted => exact kept _

end

end Ledger

/-! ### Keys of a table -/

namespace Table.Mirrors

variable {t : Table} {limits : Limits} {l : List Rule}

theorem keys_nodup (h : t.Mirrors limits l) : (l.map (·.key)).Nodup := by
  obtain ⟨nodes, hkeeps, rfl⟩ := h.keeps
  rw [List.map_map]
  exact hkeeps.keys_nodup

theorem query_eq_some_iff (h : t.Mirrors limits l) {k : RuleKey} {r : Rule} :
    t.query k = some r ↔ r ∈ l ∧ r.key = k := by
  rw [h.shows.query_eq]
  refine ⟨Ledger.rule?_eq_some, fun ⟨hr, hk⟩ => ?_⟩
  rcases found : Ledger.rule? l k with - | old
  · exact absurd hk (Ledger.rule?_eq_none found r hr)
  · rwa [Ledger.eq_of_rule? h.keys_nodup found r hr hk]

end Table.Mirrors

/-! ### Readers of the same rules -/

namespace Table

variable {t u : Table} {limits : Limits} {l l' : List Rule}

/-- What is found under a key does not depend on the order of the rules. -/
theorem Shows.query_congr (h : t.Shows l) (h' : u.Shows l') (nodup : (l.map (·.key)).Nodup)
    (perm : l'.Perm l) (k : RuleKey) : u.query k = t.query k := by
  rw [h.query_eq, h'.query_eq]
  show Ledger.rule? l' k = Ledger.rule? l k
  have nodup' : (l'.map (·.key)).Nodup := (perm.map _).nodup_iff.2 nodup
  rcases found : Ledger.rule? l k with - | r
  · exact List.find?_eq_none.2 fun s hs => by
      simpa using Ledger.rule?_eq_none found s (perm.mem_iff.1 hs)
  · obtain ⟨hr, hk⟩ := Ledger.rule?_eq_some found
    rcases found' : Ledger.rule? l' k with - | s
    · exact absurd hk (Ledger.rule?_eq_none found' r (perm.mem_iff.2 hr))
    · rw [Ledger.eq_of_rule? nodup' found' r (perm.mem_iff.2 hr) hk]

theorem Shows.count_congr (h : t.Shows l) (h' : u.Shows l') (perm : l'.Perm l) :
    u.count = t.count := by
  rw [← UInt32.toNat_inj, h.count_eq, h'.count_eq, perm.length_eq]

/-- The figures do not depend on the order of the rules. -/
theorem Shows.stats_congr (h : t.Shows l) (h' : u.Shows l') (perm : l'.Perm l) :
    u.stats = t.stats := by
  have rules : u.stats.rules = t.stats.rules := h.count_congr h' perm
  have perKind : u.stats.perKind = t.stats.perKind := by
    rw [h.stats_perKind, h'.stats_perKind]
    exact List.map_congr_left fun k _ => congrArg (Prod.mk k) (perm.countP_eq _)
  have buckets : u.stats.occupiedBuckets = t.stats.occupiedBuckets := by
    rw [h.stats_occupiedBuckets, h'.stats_occupiedBuckets]
    exact (perm.map (·.precedence)).dedup.length_eq
  show Stats.mk u.stats.rules u.stats.perKind u.stats.occupiedBuckets = t.stats
  rw [rules, perKind, buckets]

end Table

end PacketPriority
