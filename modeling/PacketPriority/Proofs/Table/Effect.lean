import PacketPriority.Proofs.Ledger.Batch
import PacketPriority.Proofs.Table.Soundness

/-!
The outcome of an update tells what has become of the rules.

An update that is accepted writes under the key of its request and nowhere else.
`Outcome.Describes` has one case for each outcome, with what stands under that key before and
afterwards: nothing and a rule, two rules of one precedence, two rules of different precedences, a
rule and nothing. Each step of a ledger is as its outcome describes it (`Ledger.Step.describes`).

One outcome alone can describe a key under which nothing happens, that of a rule exchanged with no
field changed (`Outcome.Describes.eq_of_same`); and after that one the whole ledger is the same
(`Ledger.Step.eq_of_unchanged`). So a caller learns from the outcome whether the dump has changed:
`Reachable.outcome_tells_the_change`.
-/

namespace PacketPriority

/-! ### What an outcome describes -/

/-- Two rules are equal in everything but precedence. -/
def Rule.SameButPrecedence (r s : Rule) : Prop := { r with precedence := s.precedence } = s

theorem Rule.SameButPrecedence.eq {r s : Rule} (h : r.SameButPrecedence s)
    (precedence : r.precedence = s.precedence) : r = s := by
  unfold SameButPrecedence at h
  rwa [← precedence] at h

/-- An outcome describes what stands under a key before an update and what stands there after it. -/
inductive Outcome.Describes : Outcome → Option Rule → Option Rule → Prop
  | added {new : Rule} : Describes .added none (some new)
  | modified {old new : Rule} {changed : Bool} : old.precedence = new.precedence →
      (changed = false ↔ old.SameButPrecedence new) →
      Describes (.modified changed) (some old) (some new)
  | moved {old new : Rule} {changed : Bool} : old.precedence ≠ new.precedence →
      (changed = false ↔ old.SameButPrecedence new) →
      Describes (.moved old.precedence changed) (some old) (some new)
  | deleted {old : Rule} : Describes .deleted (some old) none

/-- The outcome that describes a key under which nothing happens. -/
theorem Outcome.Describes.eq_of_same {outcome : Outcome} {r : Option Rule}
    (described : outcome.Describes r r) : outcome = .modified false := by
  cases described with
  | modified _ unchanged => rw [unchanged.2 rfl]
  | moved other => exact absurd rfl other

/-! ### Steps of a ledger -/

namespace Ledger

variable {limits : Limits} {l l' : List Rule} {q : Request} {outcome : Outcome}
  {result : UpdateResult}

theorem rule?_without_self (l : List Rule) (k : RuleKey) : rule? (without l k) k = none :=
  List.find?_eq_none.2 fun _ hs hk =>
    of_decide_eq_true (List.mem_filter.1 hs).2 (of_decide_eq_true hk)

theorem changes_eq_false_iff {old r : Rule} :
    changes old r = false ↔ old.SameButPrecedence r :=
  bne_eq_false_iff_eq

/-- **Each step is as its outcome describes it**, under the key of the request. -/
theorem Step.describes (step : Step limits l (some q) l' result) (accepted : result = .ok outcome) :
    outcome.Describes (rule? l q.key) (rule? l' q.key) := by
  have hkey : (lowered q.rule).key = q.key := key_lowered q.rule
  cases step with
  | refused => cases accepted
  | added _ _ _ absent =>
    cases accepted
    rw [absent, ← hkey, rule?_cons_self]
    exact .added
  | modified _ _ _ found same =>
    cases accepted
    have exchanged : rule? (exchange l (lowered q.rule)) q.key = some (lowered q.rule) := by
      have old := (rule?_eq_some found).2.trans hkey.symm
      rw [rule?_exchange, found, Option.map_some, if_pos old]
    rw [found, exchanged]
    exact .modified same changes_eq_false_iff
  | moved _ _ _ found other =>
    cases accepted
    have front := rule?_cons_self (lowered q.rule) (without l q.key)
    rw [hkey] at front
    rw [found, front]
    exact .moved other changes_eq_false_iff
  | deleted _ found =>
    cases accepted
    rw [found, rule?_without_self]
    exact .deleted

/-- A step that exchanges a rule with no field changed leaves the ledger as it is. -/
theorem Step.eq_of_unchanged (nodup : (l.map (·.key)).Nodup)
    (step : Step limits l (some q) l' result) (unchanged : result = .ok (.modified false)) :
    l' = l := by
  cases step with
  | refused | added | moved | deleted => cases unchanged
  | @modified _ old _ _ _ found same =>
    have none : changes old (lowered q.rule) = false :=
      Outcome.modified.inj (Except.ok.inj unchanged)
    have kept : old = lowered q.rule := (changes_eq_false_iff.1 none).eq same
    refine exchange_of_rule? nodup ?_
    rw [key_lowered, ← kept]
    exact found

end Ledger

/-! ### Updates of a table -/

namespace Table

variable {t u : Table} {limits : Limits} {l l' : List Rule} {q : Request} {outcome : Outcome}

/-- Where the dumps are equal, so is what is found under each key. -/
theorem Shows.query_eq_of_dump_eq (h : t.Shows l) (h' : u.Shows l')
    (nodup : (l.map (·.key)).Nodup) (same : u.dump = t.dump) (k : RuleKey) :
    u.query k = t.query k := by
  rw [h.dump_eq, h'.dump_eq] at same
  have perm := (Rule.ranked_perm l').symm.trans ((List.Perm.of_eq same).trans (Rule.ranked_perm l))
  exact h.query_congr h' nodup perm k

/-- An update is accepted by a table that stands idle. -/
theorem idle_of_accepted (accepted : (t.update (some q)).2 = .ok outcome) :
    t.store.writing = false := by
  rcases hw : t.store.writing with - | -
  · rfl
  · rw [update_result_of_writing hw] at accepted
    cases accepted

namespace Mirrors

theorem outcome_describes (h : t.Mirrors limits l)
    (accepted : (t.update (some q)).2 = .ok outcome) :
    outcome.Describes (t.query q.key) ((t.update (some q)).1.query q.key) := by
  obtain ⟨after, result⟩ := h.update (some q)
  rw [h.shows.query_eq, after.shows.query_eq]
  exact (Ledger.step_update limits l (some q)).describes (result.symm.trans accepted)

theorem update_dump_eq_iff (h : t.Mirrors limits l)
    (accepted : (t.update (some q)).2 = .ok outcome) :
    (t.update (some q)).1.dump = t.dump ↔ outcome = .modified false := by
  obtain ⟨after, result⟩ := h.update (some q)
  constructor
  · intro same
    -- nothing has happened under the key of the request in particular
    have described := h.outcome_describes accepted
    rw [h.shows.query_eq_of_dump_eq after.shows h.keys_nodup same] at described
    exact described.eq_of_same
  · rintro rfl
    have kept := (Ledger.step_update limits l (some q)).eq_of_unchanged h.keys_nodup
      (result.symm.trans accepted)
    rw [after.shows.dump_eq, h.shows.dump_eq, kept]

end Mirrors

end Table

/-! ### The main result -/

namespace Reachable

variable {limits : Limits} {t : Table} {q : Request} {outcome : Outcome}

/-- **The outcome tells whether the table has changed.** For every reachable table and every request
that it accepts: the dump is the same as before exactly if a rule was exchanged with no field
changed; and what is found under the key of the request, before and after, is as the outcome
describes it. -/
theorem outcome_tells_the_change (h : Reachable limits t)
    (accepted : (t.update (some q)).2 = .ok outcome) :
    ((t.update (some q)).1.dump = t.dump ↔ outcome = .modified false) ∧
      outcome.Describes (t.query q.key) ((t.update (some q)).1.query q.key) := by
  obtain ⟨l, mirrors⟩ := h.mirrors (Table.idle_of_accepted accepted)
  exact ⟨mirrors.update_dump_eq_iff accepted, mirrors.outcome_describes accepted⟩

/-- A rule kept under 0 is given again under 255 and nothing has changed; under 7 it moves, without
a change of its fields, and the dump is another. -/
theorem outcome_tells_the_change_of_lowered :
    let t := (Table.new { ruleMax := 2 }).run [.apply (.add { id := 1 })]
    let again : Request := .add { id := 1, precedence := 255 }
    let higher : Request := .add { id := 1, precedence := 7 }
    (t.update (some again)).1.dump = t.dump ∧
      (t.update (some higher)).2 = .ok (.moved 0 false) ∧
      (t.update (some higher)).1.dump ≠ t.dump ∧
      Outcome.Describes (.moved 0 false) (t.query higher.key)
        ((t.update (some higher)).1.query higher.key) := by
  intro t again higher
  have reachable : Reachable { ruleMax := 2 } t := Reachable.new.run _
  have kept : (t.update (some again)).2 = .ok (.modified false) := by decide +kernel
  have moved : (t.update (some higher)).2 = .ok (.moved 0 false) := by decide +kernel
  obtain ⟨same, described⟩ := reachable.outcome_tells_the_change moved
  exact ⟨(reachable.outcome_tells_the_change kept).1.2 rfl, moved, mt same.1 nofun, described⟩

end Reachable

end PacketPriority
