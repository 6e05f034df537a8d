import PacketPriority.Proofs.Ledger.Step

/-!
Batches of rules with keys of their own.

A request that adds writes under its key and reads nothing else of the ledger but how full it is.
So in a batch of such requests, no two of one key, no request sees what the others have done, as
long as the ledger has room for all of them: the rules of the batch come, the rules of its keys go,
and each request reports what it would report alone (`load_fits`).

Where room may run out, the ledger is settled instead: once a request has been served, its rule is
live, or the request can never be served, or the ledger is full (`settled_update`), and this stays
so while other keys are served (`Settled.update`). A ledger on which all requests of a batch are
settled is not changed by any of them (`load_settled`).
-/

namespace PacketPriority

namespace Ledger

variable {limits : Limits} {l l' : List Rule} {r : Rule} {k : RuleKey} {q q' : Request}
  {result : UpdateResult}

/-! ### One rule -/

theorem update_of_room (add : q.command = .add) (room : l.length < limits.ruleMax.toNat)
    (code : q.rule.treatment.output < 10) :
    update limits l (some q) =
      ((place l (lowered q.rule)).1, .ok (place l (lowered q.rule)).2) := by
  refine update_of_serve ?_
  simp only [serve, add, if_neg (Nat.not_le.2 room), if_neg (UInt8.not_le.2 code)]

theorem update_of_full (add : q.command = .add) (full : limits.ruleMax.toNat ≤ l.length) :
    update limits l (some q) = (l, .error .tableFull) := by
  refine update_of_refusal ?_
  simp only [serve, add, if_pos full]

theorem update_of_code (add : q.command = .add) (room : l.length < limits.ruleMax.toNat)
    (code : 10 ≤ q.rule.treatment.output) :
    update limits l (some q) = (l, .error .invalidEntry) := by
  refine update_of_refusal ?_
  simp only [serve, add, if_neg (Nat.not_le.2 room), if_pos code]

/-- What is reported of a rule that is placed is settled by the rule under its key. -/
theorem place_outcome_congr (same : rule? l' r.key = rule? l r.key) :
    (place l' r).2 = (place l r).2 := by
  unfold place
  rw [same]
  rcases rule? l r.key with - | old
  · rfl
  · dsimp only
    split <;> rfl

theorem rule?_exchange (l : List Rule) (r : Rule) (k : RuleKey) :
    rule? (exchange l r) k = (rule? l k).map fun s => if s.key = r.key then r else s := by
  rw [rule?, exchange, List.find?_map, rule?]
  refine congrArg (Option.map _) (congrArg (List.find? · l) (funext fun s => ?_))
  -- exchanging a rule leaves all keys as they are
  by_cases hk : s.key = r.key <;> simp [hk]

theorem rule?_cons_self (r : Rule) (l : List Rule) : rule? (r :: l) r.key = some r :=
  List.find?_cons_of_pos (decide_eq_true rfl)

/-- A rule that is placed is live. -/
theorem rule?_place (l : List Rule) (r : Rule) : rule? (place l r).1 r.key = some r := by
  unfold place
  rcases found : rule? l r.key with - | old
  · exact rule?_cons_self r l
  · dsimp only
    split
    · rw [rule?_exchange, found, Option.map_some, if_pos (rule?_eq_some found).2]
    · exact rule?_cons_self r _

/-- Under other keys an update changes nothing. -/
theorem Step.rule?_eq (step : Step limits l (some q) l' result) (other : k ≠ q.key) :
    rule? l' k = rule? l k := by
  have fails : ∀ s : Rule, s.key = q.key → decide (s.key = k) = false :=
    fun s hs => decide_eq_false fun hk => other (hk ▸ hs)
  have same := step.filter_eq (P := fun s => s.key = k) (fun s _ => fails s) fun s _ => fails s
  rw [rule?, rule?, ← List.head?_filter, ← List.head?_filter, same]

theorem without_of_rule?_eq_none (h : rule? l k = none) : without l k = l :=
  List.filter_eq_self.2 fun s hs => decide_eq_true (rule?_eq_none h s hs)

/-- A rule that is placed comes, and the one of its key goes. -/
theorem place_perm (nodup : (l.map (·.key)).Nodup) (r : Rule) :
    (place l r).1.Perm (r :: without l r.key) := by
  unfold place
  rcases found : rule? l r.key with - | old
  · rw [without_of_rule?_eq_none found]
  · dsimp only
    split
    · obtain ⟨hold, hk⟩ := rule?_eq_some found
      obtain ⟨l₁, l₂, rfl⟩ := List.append_of_mem hold
      rw [exchange, without, ← hk, map_exchange_of_nodup nodup, filter_ne_of_nodup nodup]
      exact List.perm_middle
    · exact .refl _

theorem nodup_place (nodup : (l.map (·.key)).Nodup) (r : Rule) :
    ((place l r).1.map (·.key)).Nodup := by
  have others : ((without l r.key).map (·.key)).Nodup :=
    nodup.sublist (List.filter_sublist.map _)
  refine ((place_perm nodup r).map _).nodup_iff.2 (List.nodup_cons.2 ⟨fun hmem => ?_, others⟩)
  obtain ⟨s, hs, hk⟩ := List.mem_map.1 hmem
  exact of_decide_eq_true (List.mem_filter.1 hs).2 hk

theorem length_place_le (nodup : (l.map (·.key)).Nodup) (r : Rule) :
    (place l r).1.length ≤ l.length + 1 := by
  rw [(place_perm nodup r).length_eq, List.length_cons]
  exact Nat.succ_le_succ (List.length_filter_le _ l)

/-! ### A batch for which there is room -/

theorem load_cons (limits : Limits) (l : List Rule) (q : Request) (rest : List Request) :
    load limits l (q :: rest) =
      ((load limits (update limits l (some q)).1 rest).1,
        (q.key, (update limits l (some q)).2) ::
          (load limits (update limits l (some q)).1 rest).2) := rfl

/-- A batch of requests that add under keys of their own, with outputs that a table takes and room
for all of them. -/
structure Fits (limits : Limits) (l : List Rule) (qs : List Request) : Prop where
  adds : ∀ q ∈ qs, q.command = .add
  codes : ∀ q ∈ qs, q.rule.treatment.output < 10
  keys_nodup : (qs.map Request.key).Nodup
  room : l.length + qs.length ≤ limits.ruleMax.toNat

/-- A batch fits in every order. -/
theorem Fits.perm {qs qs' : List Request} (h : Fits limits l qs) (order : qs'.Perm qs) :
    Fits limits l qs' where
  adds q hq := h.adds q (order.mem_iff.1 hq)
  codes q hq := h.codes q (order.mem_iff.1 hq)
  keys_nodup := (order.map _).nodup_iff.2 h.keys_nodup
  room := by rw [order.length_eq]; exact h.room

theorem Fits.update_eq {qs : List Request} (h : Fits limits l qs) (hq : q ∈ qs) :
    update limits l (some q) =
      ((place l (lowered q.rule)).1, .ok (place l (lowered q.rule)).2) := by
  have room := h.room
  have nonempty := List.length_pos_of_mem hq
  exact update_of_room (h.adds q hq) (by omega) (h.codes q hq)

/-- What is left of a batch fits into the ledger that the first request leaves. -/
theorem Fits.tail {rest : List Request} (h : Fits limits l (q :: rest))
    (nodup : (l.map (·.key)).Nodup) : Fits limits (place l (lowered q.rule)).1 rest where
  adds := (List.forall_mem_cons.1 h.adds).2
  codes := (List.forall_mem_cons.1 h.codes).2
  keys_nodup := (List.nodup_cons.1 h.keys_nodup).2
  room := by
    have grown := length_place_le nodup (lowered q.rule)
    have room := h.room
    rw [List.length_cons] at room
    omega

/-- **In a batch no request sees the others**: its rules come and the rules of its keys go, and each
request reports what it would report alone. -/
theorem load_fits {qs : List Request} (h : Fits limits l qs) (nodup : (l.map (·.key)).Nodup) :
    (load limits l qs).1.Perm
        (qs.map (fun q => lowered q.rule) ++ l.filter fun r => r.key ∉ qs.map Request.key) ∧
      (load limits l qs).2 = qs.map fun q => (q.key, .ok (place l (lowered q.rule)).2) := by
  induction qs generalizing l with
  | nil => simp [load]
  | cons q rest ih =>
    have new : q.key ∉ rest.map Request.key := (List.nodup_cons.1 h.keys_nodup).1
    have hkey : (lowered q.rule).key = q.key := key_lowered q.rule
    have first := h.update_eq List.mem_cons_self
    have step := step_update limits l (some q)
    rw [first] at step
    obtain ⟨hperm, hresults⟩ := ih (h.tail nodup) (nodup_place nodup (lowered q.rule))
    rw [load_cons, first]
    constructor
    · -- of the rules that stood there, each request takes out those of its own key
      have left : ((place l (lowered q.rule)).1.filter fun r => r.key ∉ rest.map Request.key).Perm
          (lowered q.rule :: l.filter fun r => r.key ∉ (q :: rest).map Request.key) := by
        have hfilter := (place_perm nodup (lowered q.rule)).filter
          fun r => decide (r.key ∉ rest.map Request.key)
        rw [List.filter_cons_of_pos (by simpa [hkey] using new), without, hkey,
          List.filter_filter] at hfilter
        refine hfilter.trans (.of_eq (congrArg _ (List.filter_congr fun s _ => ?_)))
        simp [Bool.and_comm]
      exact (hperm.trans (left.append_left _)).trans List.perm_middle
    · -- under the keys that are still to come nothing has changed
      rw [hresults, List.map_cons]
      refine congrArg _ (List.map_congr_left fun q' hq' => ?_)
      have other : (lowered q'.rule).key ≠ q.key := by
        rw [key_lowered]
        intro same
        exact new (same ▸ List.mem_map_of_mem hq')
      rw [place_outcome_congr (step.rule?_eq other)]

/-- In whatever order the batch is served, the same rules are left. -/
theorem load_perm {qs qs' : List Request} (h : Fits limits l qs) (nodup : (l.map (·.key)).Nodup)
    (order : qs'.Perm qs) : (load limits l qs').1.Perm (load limits l qs).1 := by
  have first := (load_fits h nodup).1
  have second := (load_fits (h.perm order) nodup).1
  have others : (l.filter fun r => r.key ∉ qs'.map Request.key) =
      l.filter fun r => r.key ∉ qs.map Request.key :=
    List.filter_congr fun r _ => decide_eq_decide.2 (not_congr (order.map _).mem_iff)
  rw [others] at second
  exact (second.trans ((order.map _).append_right _)).trans first.symm

/-! ### A batch for which there may be no room -/

/-- A request has nothing to do: the ledger is full, or the output is one that no table takes, or
the rule is live as it is asked for. -/
def Settled (limits : Limits) (l : List Rule) (q : Request) : Prop :=
  limits.ruleMax.toNat ≤ l.length ∨ 10 ≤ q.rule.treatment.output ∨
    rule? l q.key = some (lowered q.rule)

/-- A request that has been served is settled, whatever became of it. -/
theorem settled_update (limits : Limits) (l : List Rule) (add : q.command = .add) :
    Settled limits (update limits l (some q)).1 q := by
  rcases Nat.lt_or_ge l.length limits.ruleMax.toNat with room | full
  · rcases UInt8.lt_or_le q.rule.treatment.output 10 with code | code
    · rw [update_of_room add room code]
      have live := rule?_place l (lowered q.rule)
      rw [key_lowered] at live
      exact .inr (.inr live)
    · exact .inr (.inl code)
  · rw [update_of_full add full]
    exact .inl full

/-- What is settled stays so while other keys are served. -/
theorem Settled.update (h : Settled limits l q) (add : q'.command = .add)
    (other : q.key ≠ q'.key) : Settled limits (update limits l (some q')).1 q := by
  rcases h with full | code | live
  · rw [update_of_full add full]
    exact .inl full
  · exact .inr (.inl code)
  · have same := (step_update limits l (some q')).rule?_eq other
    exact .inr (.inr (same.trans live))

theorem Settled.load {qs : List Request} (h : Settled limits l q)
    (adds : ∀ q' ∈ qs, q'.command = .add) (others : ∀ q' ∈ qs, q.key ≠ q'.key) :
    Settled limits (load limits l qs).1 q := by
  induction qs generalizing l with
  | nil => exact h
  | cons q' rest ih =>
    obtain ⟨add, adds⟩ := List.forall_mem_cons.1 adds
    obtain ⟨other, others⟩ := List.forall_mem_cons.1 others
    exact ih (h.update add other) adds others

/-- **After a batch all of its requests are settled**, wherever room ran out. -/
theorem settled_load (limits : Limits) (l : List Rule) {qs : List Request}
    (adds : ∀ q ∈ qs, q.command = .add) (keys : (qs.map Request.key).Nodup) :
    ∀ q ∈ qs, Settled limits (load limits l qs).1 q := by
  induction qs generalizing l with
  | nil => simp
  | cons q rest ih =>
    rw [List.forall_mem_cons] at adds ⊢
    obtain ⟨add, others⟩ := adds
    obtain ⟨new, keys⟩ := List.nodup_cons.1 keys
    refine ⟨?_, ih _ others keys⟩
    -- the requests behind it have other keys
    refine (settled_update limits l add).load others fun q' hq' same => new ?_
    exact List.mem_map.2 ⟨q', hq', same.symm⟩

/-- Exchanging a rule for itself changes nothing. -/
theorem exchange_of_rule? (nodup : (l.map (·.key)).Nodup) (live : rule? l r.key = some r) :
    exchange l r = l := by
  refine (List.map_congr_left fun s hs => ?_).trans (List.map_id l)
  split
  · next hk => exact (eq_of_rule? nodup live s hs hk).symm
  · rfl

theorem changes_self (r : Rule) : changes r r = false := bne_self_eq_false' r

/-- A settled request leaves the ledger alone: it is refused, or it modifies nothing. -/
theorem Settled.update_eq (h : Settled limits l q) (nodup : (l.map (·.key)).Nodup)
    (add : q.command = .add) :
    (Ledger.update limits l (some q)).1 = l ∧
      (q.rule.treatment.output < 10 →
        (Ledger.update limits l (some q)).2 = .ok (.modified false) ∨
          (Ledger.update limits l (some q)).2 = .error .tableFull) := by
  rcases Nat.lt_or_ge l.length limits.ruleMax.toNat with room | full
  · rcases UInt8.lt_or_le q.rule.treatment.output 10 with code | code
    · have live : rule? l q.key = some (lowered q.rule) := by
        rcases h with full | code' | live
        · exact absurd room (Nat.not_lt.2 full)
        · exact absurd code (UInt8.not_lt.2 code')
        · exact live
      have hkey : (lowered q.rule).key = q.key := key_lowered q.rule
      rw [← hkey] at live
      have placed : place l (lowered q.rule) = (l, .modified false) := by
        simp only [place, live, if_true, exchange_of_rule? nodup live, changes_self]
      rw [update_of_room add room code, placed]
      exact ⟨rfl, fun _ => .inl rfl⟩
    · rw [update_of_code add room code]
      exact ⟨rfl, fun code' => absurd code' (UInt8.not_lt.2 code)⟩
  · rw [update_of_full add full]
    exact ⟨rfl, fun _ => .inr rfl⟩

/-- **Settled requests leave the ledger alone**, and each reports what it would report alone. -/
theorem load_settled {qs : List Request} (nodup : (l.map (·.key)).Nodup)
    (adds : ∀ q ∈ qs, q.command = .add) (settled : ∀ q ∈ qs, Settled limits l q) :
    load limits l qs = (l, qs.map fun q => (q.key, (update limits l (some q)).2)) := by
  induction qs with
  | nil => rfl
  | cons q rest ih =>
    obtain ⟨add, adds⟩ := List.forall_mem_cons.1 adds
    obtain ⟨first, settled⟩ := List.forall_mem_cons.1 settled
    rw [load_cons, (first.update_eq nodup add).1, ih adds settled, List.map_cons]

/-- An accepted request has an output that the table takes. -/
theorem output_of_ok {outcome : Outcome} (add : q.command = .add)
    (accepted : (update limits l (some q)).2 = .ok outcome) : q.rule.treatment.output < 10 := by
  rcases UInt8.lt_or_le q.rule.treatment.output 10 with code | code
  · exact code
  · rcases Nat.lt_or_ge l.length limits.ruleMax.toNat with room | full
    · rw [update_of_code add room code] at accepted
      cases accepted
    · rw [update_of_full add full] at accepted
      cases accepted

/-- What a request reports in a first and in a second pass: if it was accepted in the first, it
modifies nothing in the second, or there is no room. -/
def Repeats (first second : RuleKey × UpdateResult) : Prop :=
  second.1 = first.1 ∧ ∀ outcome, first.2 = .ok outcome →
    second.2 = .ok (.modified false) ∨ second.2 = .error .tableFull

/-- What was accepted on one ledger modifies nothing on a ledger on which it is settled. -/
theorem repeats_settled {m : List Rule} {qs : List Request} (nodup : (m.map (·.key)).Nodup)
    (adds : ∀ q ∈ qs, q.command = .add) (settled : ∀ q ∈ qs, Settled limits m q) :
    List.Forall₂ Repeats (load limits l qs).2
      (qs.map fun q => (q.key, (update limits m (some q)).2)) := by
  induction qs generalizing l with
  | nil => exact .nil
  | cons q rest ih =>
    obtain ⟨add, adds⟩ := List.forall_mem_cons.1 adds
    obtain ⟨first, settled⟩ := List.forall_mem_cons.1 settled
    rw [load_cons, List.map_cons]
    refine .cons ⟨rfl, fun outcome accepted => ?_⟩ (ih adds settled)
    exact (first.update_eq nodup add).2 (output_of_ok add accepted)

end Ledger

end PacketPriority
