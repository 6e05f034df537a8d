import PacketPriority.Proofs.Ledger.Step

/-!
Ledgers of which not all is seen.

Where a rule goes depends on its key, its precedence and its output, and on nothing else of it. A
view (`Ledger.View`) leaves these in a rule and may leave out whatever else there is. So a ledger
that is seen through a view is the ledger of what is seen of the requests (`View.load`), and its
dump is what is seen of the dump (`View.ranked`).
-/

namespace PacketPriority.Ledger

/-- A request that is refused leaves the ledger as it is. -/
theorem update_fst (limits : Limits) (l : List Rule) (q : Request) :
    (update limits l (some q)).1 = ((serve limits l q).map Prod.fst).toOption.getD l := by
  rw [update]
  cases serve limits l q <;> rfl

/-- What is seen of a rule: its key, its precedence and its output, and possibly more. -/
structure View where
  of : Rule → Rule
  key : ∀ r, (of r).key = r.key
  precedence : ∀ r, (of r).precedence = r.precedence
  output : ∀ r, (of r).treatment.output = r.treatment.output
  lowered : ∀ r, of (lowered r) = Ledger.lowered (of r)

namespace View

variable {limits : Limits} (v : View) (l : List Rule)

/-- What is seen of a request. -/
def request (q : Request) : Request := { q with rule := v.of q.rule }

theorem key_request (q : Request) : (v.request q).key = q.key := v.key q.rule

/-! ### Updates -/

theorem rule?_map (k : RuleKey) : rule? (l.map v.of) k = (rule? l k).map v.of := by
  rw [rule?, List.find?_map, rule?]
  refine congrArg (Option.map v.of) (congrArg (List.find? · l) (funext fun r => ?_))
  show decide ((v.of r).key = k) = decide (r.key = k)
  rw [v.key]

theorem without_map (k : RuleKey) : without (l.map v.of) k = (without l k).map v.of := by
  rw [without, List.filter_map, without]
  refine congrArg (List.map v.of) (List.filter_congr fun r _ => ?_)
  show decide ((v.of r).key ≠ k) = decide (r.key ≠ k)
  rw [v.key]

theorem exchange_map (r : Rule) : exchange (l.map v.of) (v.of r) = (exchange l r).map v.of := by
  rw [exchange, exchange, List.map_map, List.map_map]
  refine List.map_congr_left fun s _ => ?_
  show (if (v.of s).key = (v.of r).key then v.of r else v.of s) =
    v.of (if s.key = r.key then r else s)
  rw [v.key, v.key, apply_ite v.of]

theorem place_map (r : Rule) : (place (l.map v.of) (v.of r)).1 = (place l r).1.map v.of := by
  unfold place
  rw [v.key, v.rule?_map]
  rcases rule? l r.key with - | old
  · rfl
  · show Prod.fst (if (v.of old).precedence = (v.of r).precedence then _ else _) = _
    rw [v.precedence, v.precedence]
    by_cases same : old.precedence = r.precedence
    · simp only [if_pos same, v.exchange_map]
    · simp only [if_neg same, v.without_map, List.map_cons]

/-- The checks read no more of a request than is seen of it. -/
theorem serve_map (q : Request) :
    (serve limits (l.map v.of) (v.request q)).map Prod.fst =
      (serve limits l q).map fun served => served.1.map v.of := by
  obtain ⟨command, r⟩ := q
  cases command with
  | add =>
    show Except.map _ (if limits.ruleMax.toNat ≤ (l.map v.of).length then _
      else if 10 ≤ (v.of r).treatment.output then _
      else .ok (place (l.map v.of) (Ledger.lowered (v.of r)))) = _
    rw [List.length_map, v.output, ← v.lowered, serve]
    by_cases full : limits.ruleMax.toNat ≤ l.length
    · simp only [if_pos full]
      rfl
    · by_cases code : 10 ≤ r.treatment.output
      · simp only [if_neg full, if_pos code]
        rfl
      · simp only [if_neg full, if_neg code]
        exact congrArg Except.ok (v.place_map l (Ledger.lowered r))
  | delete =>
    show Except.map _ (if l.map v.of = [] then _
      else if rule? (l.map v.of) (v.of r).key = none then _
      else .ok (without (l.map v.of) (v.of r).key, _)) =
      Except.map _ (if l = [] then _ else if rule? l r.key = none then _
        else .ok (without l r.key, _))
    rw [v.key, v.rule?_map]
    simp only [List.map_eq_nil_iff, Option.map_eq_none_iff]
    by_cases empty : l = []
    · simp only [if_pos empty]
      rfl
    · by_cases absent : rule? l r.key = none
      · simp only [if_neg empty, if_pos absent]
        rfl
      · simp only [if_neg empty, if_neg absent]
        exact congrArg Except.ok (v.without_map l r.key)
  | unknown code => rfl

/-- **What is seen of an update** is the update with what is seen of the request. -/
theorem update (q : Request) :
    (Ledger.update limits (l.map v.of) (some (v.request q))).1 =
      (Ledger.update limits l (some q)).1.map v.of := by
  rw [update_fst, update_fst, v.serve_map]
  cases serve limits l q <;> rfl

/-- **What is seen of a load** is the load of what is seen of the requests. -/
theorem load (qs : List Request) :
    (Ledger.load limits (l.map v.of) (qs.map v.request)).1 =
      (Ledger.load limits l qs).1.map v.of := by
  induction qs generalizing l with
  | nil => rfl
  | cons q rest ih =>
    show (Ledger.load limits (Ledger.update limits (l.map v.of) (some (v.request q))).1 _).1 = _
    rw [v.update, ih]
    rfl

/-! ### Dumps -/

theorem ranked : Rule.ranked (l.map v.of) = (Rule.ranked l).map v.of := by
  rw [Rule.ranked, Rule.ranked]
  refine (List.map_mergeSort fun r _ s _ => ?_).symm
  rw [v.precedence, v.precedence]

end View

end PacketPriority.Ledger
