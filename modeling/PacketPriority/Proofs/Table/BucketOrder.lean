import PacketPriority.Proofs.Ledger.Step
import PacketPriority.Proofs.Table.LiveDump

/-!
The order of a bucket while a table is used.

One update shifts the keys of a bucket in one of two ways: it takes some of them out, or it puts one
in front (`Shifts`). `Ledger.Step.shifts` says so of the ledger, `Reachable.shifts` of every call
that is no batch. Keys that stay in the bucket all along therefore stay in their order, and every
other key that is there in the end stands in front of them all (`Reachable.exists_newcomers`). A key
stays if it is live under the precedence of the bucket at all moments, within batches too
(`Table.Stays`).
-/

namespace PacketPriority

/-! ### Moments of a run -/

/-- The single calls that a call is made of: a batch is its requests, one after another. -/
def Operation.calls : Operation → List Operation
  | .load qs => qs.map .apply
  | op => [op]

namespace Table

/-- The tables that are met in a list of calls, the first and the last included. -/
def met (t : Table) : List Operation → List Table
  | [] => [t]
  | op :: rest => t :: (t.operate op).1.met rest

/-- The tables that are met in a run, within batches too. -/
def moments (t : Table) (ops : List Operation) : List Table := t.met (ops.flatMap Operation.calls)

/-- A key is live under one precedence at all moments of a run. -/
def Stays (t : Table) (ops : List Operation) (precedence : UInt8) (k : RuleKey) : Prop :=
  ∀ u ∈ t.moments ops, (u.query k).map (·.precedence) = some precedence

instance (t : Table) (ops : List Operation) (precedence : UInt8) :
    DecidablePred (t.Stays ops precedence) := fun _ => List.decidableBAll _ _

theorem mem_moments (t : Table) (ops : List Operation) : t ∈ t.moments ops := by
  unfold moments
  cases ops.flatMap Operation.calls <;> exact List.mem_cons_self

theorem run_mem_met (t : Table) (calls : List Operation) : t.run calls ∈ t.met calls := by
  induction calls generalizing t with
  | nil => exact List.mem_cons_self
  | cons op rest ih => exact List.mem_cons_of_mem _ (ih (t.operate op).1)

theorem run_calls (t : Table) (op : Operation) : t.run op.calls = (t.operate op).1 := by
  cases op with
  | load qs =>
    show t.run (qs.map .apply) = (t.load qs).1
    induction qs generalizing t with
    | nil => rfl
    | cons q rest ih => exact ih (t.apply q).1
  | _ => rfl

theorem run_flatMap_calls (t : Table) (ops : List Operation) :
    t.run (ops.flatMap Operation.calls) = t.run ops := by
  induction ops generalizing t with
  | nil => rfl
  | cons op rest ih =>
    rw [List.flatMap_cons, run_append, run_calls, ih]
    rfl

theorem run_mem_moments (t : Table) (ops : List Operation) : t.run ops ∈ t.moments ops := by
  rw [← run_flatMap_calls]
  exact t.run_mem_met _

end Table

/-! ### What an update does to a bucket -/

/-- The keys of a bucket, in its order. -/
def Store.bucketKeys (s : Store) (p : Nat) : List RuleKey := (s.bucketRules p).map (·.key)

/-- A key stands in a bucket in all of these tables. -/
def Stands (ts : List Table) (p : Nat) (k : RuleKey) : Prop :=
  ∀ t ∈ ts, k ∈ t.store.bucketKeys p

instance (ts : List Table) (p : Nat) : DecidablePred (Stands ts p) := fun _ =>
  List.decidableBAll _ _

/-- What one update does to the keys of a bucket: some are taken out, or one comes in front. -/
inductive Shifts : List RuleKey → List RuleKey → Prop
  | leave {ks : List RuleKey} (keep : RuleKey → Bool) : Shifts ks (ks.filter keep)
  | come {ks : List RuleKey} {k : RuleKey} : k ∉ ks → Shifts ks (k :: ks)

theorem Shifts.refl (ks : List RuleKey) : Shifts ks ks := by
  have all : Shifts ks (ks.filter fun _ => true) := .leave _
  rwa [List.filter_true] at all

/-- Of the keys that stay afterwards, those that were there before keep their order, and any other
stands in front of them. -/
theorem Shifts.filter_eq {before after : List RuleKey} (shift : Shifts before after)
    {stays : RuleKey → Prop} [DecidablePred stays] (there : ∀ k, stays k → k ∈ after) :
    ∃ newcomers : List RuleKey, (∀ k ∈ newcomers, k ∉ before) ∧
      after.filter stays = newcomers ++ before.filter stays := by
  cases shift with
  | leave keep =>
    -- a key that is taken out does not stay
    refine ⟨[], by simp, ?_⟩
    rw [List.filter_filter, List.nil_append]
    refine List.filter_congr fun k _ => ?_
    rw [Bool.eq_iff_iff, Bool.and_eq_true, decide_eq_true_iff]
    exact ⟨And.left, fun still => ⟨still, (List.mem_filter.1 (there k still)).2⟩⟩
  | @come j absent =>
    refine ⟨[j].filter stays, fun k hk => ?_, ?_⟩
    · obtain rfl := List.mem_singleton.1 (List.mem_filter.1 hk).1
      exact absent
    · rw [← List.filter_append]
      rfl

namespace Ledger

/-- The keys of one precedence. -/
def keysOf (l : List Rule) (p : Nat) : List RuleKey :=
  (l.filter fun r => r.precedence.toNat = p).map (·.key)

variable {limits : Limits} {l : List Rule} {k : RuleKey} {p : Nat}

theorem keysOf_cons (l : List Rule) (r : Rule) (p : Nat) :
    keysOf (r :: l) p = if r.precedence.toNat = p then r.key :: keysOf l p else keysOf l p := by
  by_cases hp : r.precedence.toNat = p
  · simp [keysOf, hp]
  · simp [keysOf, hp]

theorem keysOf_without (l : List Rule) (k : RuleKey) (p : Nat) :
    keysOf (without l k) p = (keysOf l p).filter (· ≠ k) := by
  rw [keysOf, keysOf, without, List.filter_comm, List.filter_map]
  rfl

/-- A rule that takes the place of one of its precedence changes no key. -/
theorem keysOf_exchange {r : Rule} (same : ∀ s ∈ l, s.key = r.key → s.precedence = r.precedence)
    (p : Nat) : keysOf (exchange l r) p = keysOf l p := by
  induction l with
  | nil => rfl
  | cons s l ih =>
    have rest := ih fun s hs => same s (List.mem_cons_of_mem _ hs)
    have cons : exchange (s :: l) r = (if s.key = r.key then r else s) :: exchange l r := rfl
    rw [cons, keysOf_cons, keysOf_cons, rest]
    by_cases hk : s.key = r.key
    · rw [if_pos hk, same s List.mem_cons_self hk, hk]
    · rw [if_neg hk]

theorem notMem_keysOf (h : ∀ s ∈ l, s.key = k → s.precedence.toNat ≠ p) : k ∉ keysOf l p := by
  intro hk
  obtain ⟨s, hs, rfl⟩ := List.mem_map.1 hk
  obtain ⟨hs, here⟩ := List.mem_filter.1 hs
  exact h s hs rfl (of_decide_eq_true here)

/-- **An update takes keys out of a bucket, or puts one in front.** -/
theorem Step.shifts {q : Option Request} {l' : List Rule} {result : UpdateResult}
    (step : Step limits l q l' result) (nodup : (l.map (·.key)).Nodup) (p : Nat) :
    Shifts (keysOf l p) (keysOf l' p) := by
  cases step with
  | refused e => exact .refl _
  | @added q _ _ _ absent =>
    rw [keysOf_cons, key_lowered]
    split
    · exact .come (notMem_keysOf fun s hs hk => absurd hk (rule?_eq_none absent s hs))
    · exact .refl _
  | modified _ _ _ found same =>
    rw [keysOf_exchange fun s hs hk => ?_]
    · exact .refl _
    · rw [key_lowered] at hk
      rw [eq_of_rule? nodup found s hs hk, same]
  | @moved q old _ _ _ found other =>
    -- the rule comes to the bucket from another one, or it may leave it
    rw [keysOf_cons, keysOf_without, key_lowered]
    split
    · next here =>
      have absent : q.key ∉ keysOf l p := notMem_keysOf fun s hs hk away => by
        rw [eq_of_rule? nodup found s hs hk, ← here] at away
        exact other (UInt8.toNat_inj.1 away)
      have kept : (keysOf l p).filter (· ≠ q.key) = keysOf l p :=
        List.filter_eq_self.2 fun k hk => decide_eq_true (ne_of_mem_of_not_mem hk absent)
      rw [kept]
      exact .come absent
    · exact .leave _
  | deleted _ _ =>
    rw [keysOf_without]
    exact .leave _

end Ledger

/-! ### What a run does to a bucket -/

namespace Store

variable {s : Store} {limits : Limits} {l : List Node} {k : RuleKey} {precedence : UInt8}

theorem Keeps.bucketKeys_eq (h : s.Keeps limits l) (p : Nat) :
    s.bucketKeys p = Ledger.keysOf (l.map (·.rule)) p := by
  rw [bucketKeys, h.bucketRules_eq, Ledger.keysOf]

/-- A key stands in the bucket of a precedence if it is live under it. -/
theorem Keeps.mem_bucketKeys_iff (h : s.Keeps limits l) :
    k ∈ s.bucketKeys precedence.toNat ↔
      ((s.find? k).map (·.rule)).map (·.precedence) = some precedence := by
  rw [h.bucketKeys_eq, Ledger.keysOf, ← h.rule?_eq]
  have nodup : ((l.map (·.rule)).map (·.key)).Nodup := by
    simpa [Function.comp_def] using h.keys_nodup
  simp only [List.mem_map, List.mem_filter, Option.map_eq_some_iff, decide_eq_true_eq]
  constructor
  · rintro ⟨r, ⟨hr, hp⟩, rfl⟩
    rcases e : Ledger.rule? (l.map (·.rule)) r.key with - | old
    · exact absurd rfl (Ledger.rule?_eq_none e r (List.mem_map.2 hr))
    · have same := Ledger.eq_of_rule? nodup e r (List.mem_map.2 hr) rfl
      exact ⟨old, e, by rw [← same]; exact UInt8.toNat_inj.1 hp⟩
  · rintro ⟨r, found, rfl⟩
    obtain ⟨hr, hk⟩ := Ledger.rule?_eq_some found
    exact ⟨r, ⟨List.mem_map.1 hr, rfl⟩, hk⟩

end Store

namespace Reachable

variable {limits : Limits} {t : Table} {p : Nat}

/-- A call that is no batch shifts the keys of a bucket, whatever observers do. -/
theorem shifts (h : Reachable limits t) {op : Operation} (single : ∀ qs, op ≠ .load qs) (p : Nat) :
    Shifts (t.store.bucketKeys p) ((t.operate op).1.store.bucketKeys p) := by
  rcases hw : t.store.writing with - | -
  · obtain ⟨hlimits, nodes, hkeeps⟩ := h.keeps
    have mirrors : t.Mirrors limits (nodes.map (·.rule)) := ⟨hlimits, hw, nodes, hkeeps, rfl⟩
    obtain ⟨-, -, nodes', hkeeps', after⟩ := (mirrors.operate op).1
    have nodup := mirrors.keys_nodup
    rw [hkeeps.bucketKeys_eq, hkeeps'.bucketKeys_eq, after]
    cases op with
    | update q => exact (Ledger.step_update limits _ q).shifts nodup p
    | apply q => exact (Ledger.step_update limits _ (some q)).shifts nodup p
    | load qs => exact absurd rfl (single qs)
    | flush | shutdown =>
      have all : Shifts (Ledger.keysOf (nodes.map (·.rule)) p) (List.filter (fun _ => false) _) :=
        .leave _
      rwa [List.filter_false] at all
    | classify | register | unregister | withdraw => exact .refl _
  · rw [(Table.operate_sameRules hw op).store]
    exact .refl _

/-- **The keys that stay in a bucket stay in their order, and whatever else comes to it stands in
front of them.** -/
theorem exists_newcomers (h : Reachable limits t) {calls : List Operation}
    (single : ∀ op ∈ calls, ∀ qs, op ≠ .load qs) (p : Nat) :
    ∃ newcomers : List RuleKey, (∀ k ∈ newcomers, ¬ Stands (t.met calls) p k) ∧
      (t.run calls).store.bucketKeys p =
        newcomers ++ (t.store.bucketKeys p).filter (Stands (t.met calls) p) := by
  induction calls generalizing t with
  | nil =>
    have all : ∀ k ∈ t.store.bucketKeys p, decide (Stands (t.met []) p k) = true :=
      fun k hk => by simpa [Stands, Table.met] using hk
    refine ⟨[], by simp, ?_⟩
    rw [List.nil_append, List.filter_eq_self.2 all]
    rfl
  | cons op rest ih =>
    obtain ⟨newcomers, new, later⟩ :=
      ih (h.operate op) fun op' hop' => single op' (List.mem_cons_of_mem _ hop')
    -- who stays in the rest of the run is there when it begins
    have there : ∀ k, Stands ((t.operate op).1.met rest) p k →
        k ∈ (t.operate op).1.store.bucketKeys p :=
      fun k stays => stays _ (by cases rest <;> exact List.mem_cons_self)
    obtain ⟨first, absent, kept⟩ := (h.shifts (single op List.mem_cons_self) p).filter_eq there
    have stands_cons : ∀ k, Stands (t.met (op :: rest)) p k ↔
        k ∈ t.store.bucketKeys p ∧ Stands ((t.operate op).1.met rest) p k :=
      fun k => List.forall_mem_cons
    refine ⟨newcomers ++ first, fun k hk stays => ?_, ?_⟩
    · obtain ⟨before, still⟩ := (stands_cons k).1 stays
      rcases List.mem_append.1 hk with hk | hk
      · exact new k hk still
      · exact absent k hk before
    · show ((t.operate op).1.run rest).store.bucketKeys p = _
      rw [later, kept, List.append_assoc]
      refine congrArg (fun stay => newcomers ++ (first ++ stay)) (List.filter_congr fun k hk => ?_)
      simp [stands_cons, hk]

theorem of_mem_met (h : Reachable limits t) (calls : List Operation) :
    ∀ u ∈ t.met calls, Reachable limits u := by
  induction calls generalizing t with
  | nil => exact fun u hu => List.mem_singleton.1 hu ▸ h
  | cons op rest ih =>
    intro u hu
    rcases List.mem_cons.1 hu with rfl | hu
    · exact h
    · exact ih (h.operate op) u hu

/-- A key is live under a precedence all along if it stands in that bucket all along. -/
theorem stays_iff (h : Reachable limits t) (ops : List Operation) (precedence : UInt8)
    (k : RuleKey) :
    t.Stays ops precedence k ↔ Stands (t.moments ops) precedence.toNat k := by
  refine forall₂_congr fun u hu => ?_
  obtain ⟨-, nodes, hkeeps⟩ := (h.of_mem_met _ u hu).keeps
  exact hkeeps.mem_bucketKeys_iff.symm

end Reachable

end PacketPriority
