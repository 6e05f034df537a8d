import Mathlib.Data.List.Infix
import Mathlib.Data.List.ReduceOption
import PacketPriority.Proofs.Store.Rounds
import PacketPriority.Proofs.Table.Soundness

/-!
A dump of a table that changes while it is dumped.

A `LiveDump` is a table with a dump under way. Calls of the table and calls of the dump take turns
in any order (`Turn`). What the dump finds in a bucket is what stands there in the turn in which it
reads it (`Found`), and it reads each bucket at one turn only (`Found.unique`).

What it has given is what it has found (`exists_accounts`). Since each of these moments shows a
sound store, the rules that are given are consistent, although the table may never have held them
all at once (`Consistent`). The main result, `dump_consistent`, says so of every reachable table and
all turns.
-/

namespace PacketPriority

/-! ### What a sound store has in a bucket -/

namespace Store

variable {s : Store} {limits : Limits} {l : List Node} {k : RuleKey} {r : Rule} {p : Nat}

theorem Keeps.precedence_of_mem (h : s.Keeps limits l) (hr : r ∈ s.bucketRules p) :
    r.precedence.toNat = p := by
  obtain ⟨n, hn, rfl⟩ := List.mem_map.1 hr
  exact h.sound.precedence_eq p n hn

theorem Keeps.bucketRules_eq (h : s.Keeps limits l) (p : Nat) :
    s.bucketRules p = (l.map (·.rule)).filter fun r => r.precedence.toNat = p := by
  rw [bucketRules, h.bucket_eq, List.filter_map]
  rfl

theorem Keeps.bucketRules_keys_nodup (h : s.Keeps limits l) (p : Nat) :
    ((s.bucketRules p).map (·.key)).Nodup := by
  have keys : ((l.map (·.rule)).map (·.key)).Nodup := by
    simpa [Function.comp_def] using h.keys_nodup
  rw [h.bucketRules_eq]
  exact keys.sublist ((List.filter_sublist (l := l.map (·.rule))).map _)

theorem Keeps.length_bucketRules_le (h : s.Keeps limits l) (p : Nat) :
    (s.bucketRules p).length ≤ limits.ruleMax.toNat := by
  rw [h.bucketRules_eq]
  refine (List.length_filter_le _ _).trans ?_
  rw [List.length_map]
  exact h.length_le

theorem Keeps.precedence_lt (h : s.Keeps limits l) (live : (s.find? k).map (·.rule) = some r) :
    r.precedence.toNat < bucketCount := by
  obtain ⟨n, found, rfl⟩ := Option.map_eq_some_iff.1 live
  rw [← slot_val (h.precedence_ne (h.find?_eq_some_iff.1 found).1)]
  exact (slot n.rule.precedence).isLt

/-- A live rule stands in the bucket of its precedence, alone of its key. -/
theorem Keeps.bucketRules_filter_key (h : s.Keeps limits l)
    (live : (s.find? k).map (·.rule) = some r) (p : Nat) :
    (s.bucketRules p).filter (·.key = k) = if p = r.precedence.toNat then [r] else [] := by
  obtain ⟨n, found, rfl⟩ := Option.map_eq_some_iff.1 live
  obtain ⟨hn, rfl⟩ := h.find?_eq_some_iff.1 found
  have alone : (l.map (·.rule)).filter (·.key = n.rule.key) = [n.rule] := by
    have count : ((l.map (·.rule)).filter (·.key = n.rule.key)).length = 1 := by
      have once := List.count_eq_one_of_mem h.keys_nodup (List.mem_map_of_mem hn)
      rw [← List.countP_eq_length_filter, List.countP_map, ← once, List.count, List.countP_map]
      rfl
    obtain ⟨r, hr⟩ := List.length_eq_one_iff.1 count
    have mem : n.rule ∈ (l.map (·.rule)).filter (·.key = n.rule.key) := by
      simpa using ⟨n, hn, rfl⟩
    rw [hr] at mem ⊢
    rw [List.mem_singleton.1 mem]
  rw [h.bucketRules_eq, List.filter_comm, alone]
  by_cases hp : p = n.rule.precedence.toNat
  · simp [hp]
  · simp [hp, Ne.symm hp]

end Store

/-! ### Turns -/

/-- A call of the table, or one of the dump. -/
inductive Turn where
  | call (op : Operation)
  | next

/-- A table with a dump under way, and what the dump has answered so far. -/
structure LiveDump where
  table : Table
  dump : Dump
  answers : List (Option Rule)

namespace LiveDump

def turn (v : LiveDump) : Turn → LiveDump
  | .call op => { v with table := (v.table.operate op).1 }
  | .next =>
    { v with
      dump := (v.dump.next v.table.store).2
      answers := v.answers ++ [(v.dump.next v.table.store).1] }

def run (v : LiveDump) (turns : List Turn) : LiveDump := turns.foldl turn v

/-- A dump that was begun on a table, after some turns. -/
def after (t : Table) (turns : List Turn) : LiveDump := run ⟨t, .start, []⟩ turns

/-- The rules that the dump has given. -/
def given (v : LiveDump) : List Rule := v.answers.reduceOption

/-- In one of the turns the dump comes to read a bucket, and these rules stand in it then. -/
def Found (t : Table) (turns : List Turn) (p : Nat) (rules : List Rule) : Prop :=
  ∃ before later, turns = before ++ .next :: later ∧
    ¬ (after t before).dump.HasRead p ∧ (after t (before ++ [.next])).dump.HasRead p ∧
    rules = (after t before).table.store.bucketRules p

/-- What a dump has given after some turns is consistent, although the table has changed between
them. -/
structure Consistent (limits : Limits) (t : Table) (turns : List Turn) : Prop where
  /-- Each bucket is read in one turn, or not yet. -/
  read_iff : ∀ p < bucketCount,
    (after t turns).dump.HasRead p ↔ ∃ rules, Found t turns p rules
  /-- What is given of a bucket is, in its order, what stood in it when it was read: all of it once
  the dump has left it, and what the cursor counts while the dump is there. -/
  given_eq : ∀ p rules, Found t turns p rules →
    (after t turns).given.filter (·.precedence.toNat = p) =
      if (after t turns).dump.cursor.precedence? = some p then
        rules.take (after t turns).dump.cursor.offset
      else rules
  /-- Nothing is given of a bucket that has not been read. -/
  unread : ∀ p < bucketCount, ¬ (after t turns).dump.HasRead p →
    (after t turns).given.filter (·.precedence.toNat = p) = []
  falls : (after t turns).given.Pairwise fun r r' => r'.precedence ≤ r.precedence
  nodup : ((after t turns).given.map fun r => (r.key, r.precedence)).Nodup
  /-- A key that is live under one precedence from the start to the end is given once. -/
  once : ∀ k precedence,
    (∀ part, part <+: turns →
      ((after t part).table.query k).map (·.precedence) = some precedence) →
    (after t turns).dump.cursor.done = true →
    (after t turns).given.countP (·.key = k) = 1
  /-- The dump answers with rules until it comes to its end, and with none from then on. -/
  answers_eq : ∃ n,
    (after t turns).answers = (after t turns).given.map some ++ List.replicate n none ∧
    (0 < n ↔ (after t turns).dump.cursor.done = true)
  length_le : (after t turns).given.length ≤ bucketCount * limits.ruleMax.toNat

/-! ### Runs -/

section

variable {limits : Limits} {t : Table} {v : LiveDump} {turns : List Turn} {p : Nat}

theorem after_append (t : Table) (turns turns' : List Turn) :
    after t (turns ++ turns') = (after t turns).run turns' := List.foldl_append

theorem reachable_run (h : Reachable limits v.table) (turns : List Turn) :
    Reachable limits (v.run turns).table := by
  induction turns generalizing v with
  | nil => exact h
  | cons x rest ih =>
    cases x with
    | call op => exact ih (v := v.turn (.call op)) (h.operate op)
    | next => exact ih (v := v.turn .next) h

theorem reachable_after (h : Reachable limits t) (turns : List Turn) :
    Reachable limits (after t turns).table := reachable_run (v := ⟨t, .start, []⟩) h turns

theorem hasRead_run (h : v.dump.HasRead p) (turns : List Turn) : (v.run turns).dump.HasRead p := by
  induction turns generalizing v with
  | nil => exact h
  | cons x rest ih =>
    cases x with
    | call op => exact ih (v := v.turn (.call op)) h
    | next => exact ih (v := v.turn .next) (h.next v.table.store)

theorem given_turn_next (v : LiveDump) :
    (v.turn .next).given = v.given ++ (v.dump.next v.table.store).1.toList := by
  show (v.answers ++ [(v.dump.next v.table.store).1]).reduceOption = _
  rw [List.reduceOption_append]
  cases (v.dump.next v.table.store).1 <;> rfl

/-- The dump answers with rules until it comes to its end, and with none from then on. -/
theorem exists_answers_eq (t : Table) (turns : List Turn) :
    ∃ n, (after t turns).answers = (after t turns).given.map some ++ List.replicate n none ∧
      (0 < n ↔ (after t turns).dump.cursor.done = true) := by
  induction turns using List.reverseRecOn with
  | nil => exact ⟨0, rfl, by simp [after, run, Dump.start, Dump.resume, Cursor.start]⟩
  | append_singleton turns x ih =>
    rw [after_append]
    obtain ⟨n, answers, ended⟩ := ih
    generalize after t turns = v at answers ended ⊢
    cases x with
    | call op => exact ⟨n, answers, ended⟩
    | next =>
      show ∃ n, v.answers ++ [(v.dump.next v.table.store).1] =
          (v.turn .next).given.map some ++ _ ∧
        (0 < n ↔ (v.dump.next v.table.store).2.cursor.done = true)
      have none_iff := (Dump.rounds_next v.table.store v.dump).eq_none_iff
      rw [given_turn_next]
      rcases e : (v.dump.next v.table.store).1 with - | r
      · refine ⟨n + 1, ?_, by simpa [e] using none_iff⟩
        rw [answers, List.replicate_succ']
        simp
      · -- a dump that gives a rule had not come to its end
        rcases hd : v.dump.cursor.done with - | -
        · have none_yet : n = 0 := by simpa [hd] using ended
          refine ⟨0, ?_, by simpa [e] using none_iff⟩
          rw [answers, none_yet]
          simp
        · rw [Dump.next_of_done hd] at e
          cases e

/-! ### Moments -/

namespace Found

variable {rules rules' : List Rule}

theorem concat (h : Found t turns p rules) (x : Turn) : Found t (turns ++ [x]) p rules := by
  obtain ⟨before, later, rfl, moment⟩ := h
  exact ⟨before, later ++ [x], by simp, moment⟩

theorem hasRead (h : Found t turns p rules) : (after t turns).dump.HasRead p := by
  obtain ⟨before, later, rfl, -, read, -⟩ := h
  rw [List.append_cons, after_append]
  exact hasRead_run read later

/-- **A bucket is read once.** -/
theorem unique (h : Found t turns p rules) (h' : Found t turns p rules') : rules = rules' := by
  have not_later : ∀ {before later before' later' : List Turn},
      before ++ .next :: later = before' ++ .next :: later' →
      (after t (before ++ [.next])).dump.HasRead p →
      ¬ (after t before').dump.HasRead p → before' <+: before := by
    -- a turn after the one that reads the bucket is not the first to read it
    intro before later before' later' same read unread
    rcases List.append_eq_append_iff.1 same with ⟨more, rfl, hmore⟩ | ⟨more, rfl, -⟩
    · rcases more with - | ⟨x, more⟩
      · exact ⟨[], by simp⟩
      · obtain ⟨rfl, -⟩ := List.cons_eq_cons.1 hmore
        rw [List.append_cons, after_append] at unread
        exact absurd (hasRead_run read more) unread
    · exact List.prefix_append _ _
  obtain ⟨before, later, rfl, unread, read, rfl⟩ := h
  obtain ⟨before', later', same, unread', read', rfl⟩ := h'
  have before_le := not_later same read unread'
  have le_before := not_later same.symm read' unread
  rw [before_le.eq_of_length_le le_before.length_le]

/-- The moment at which a bucket is read shows a sound store. -/
theorem keeps (h : Found t turns p rules) (reachable : Reachable limits t) :
    ∃ s l, Store.Keeps s limits l ∧ rules = s.bucketRules p := by
  obtain ⟨before, later, -, -, -, rfl⟩ := h
  obtain ⟨-, l, hkeeps⟩ := (reachable_after reachable before).keeps
  exact ⟨_, l, hkeeps, rfl⟩

end Found

/-! ### What is found is given -/

/-- The dump has given what it found, and it has found what stood in the buckets as it read them. -/
structure Accounts (t : Table) (turns : List Turn) (seen : Nat → List Rule) : Prop where
  gave : (after t turns).dump.Gave seen (after t turns).given
  found : ∀ p < bucketCount, (after t turns).dump.HasRead p → Found t turns p (seen p)

/-- **What has been given is decided by what was found**, after all turns. -/
theorem exists_accounts (t : Table) (turns : List Turn) : ∃ seen, Accounts t turns seen := by
  -- on the last turn: what has been found in a bucket is settled in the turn that reads it
  induction turns using List.reverseRecOn with
  | nil =>
    refine ⟨fun _ => [], Dump.gave_start _, fun p hp read => ?_⟩
    rcases read with done | below | ⟨-, held⟩
    · cases done
    · exact absurd below (Nat.not_lt.2 (Nat.le_sub_one_of_lt hp))
    · cases held
  | append_singleton turns x ih =>
    obtain ⟨seen, accounts⟩ := ih
    cases x with
    | call op =>
      refine ⟨seen, ?_, fun p hp read => ?_⟩
      · rw [after_append]
        exact accounts.gave
      · rw [after_append] at read
        exact (accounts.found p hp read).concat _
    | next =>
      refine ⟨(after t turns).dump.finds seen (after t turns).table.store, ?_, fun p hp read => ?_⟩
      · have given := accounts.gave.next (after t turns).table.store
        rw [← given_turn_next] at given
        rw [after_append]
        exact given
      · -- a bucket was read before, or it is read now
        unfold Dump.finds
        by_cases already : (after t turns).dump.HasRead p
        · rw [if_pos already]
          exact (accounts.found p hp already).concat _
        · rw [if_neg already]
          exact ⟨turns, [], rfl, already, read, rfl⟩

theorem Found.lt_bucketCount {rules : List Rule} (h : Found t turns p rules) : p < bucketCount := by
  obtain ⟨before, later, -, unread, -, -⟩ := h
  obtain ⟨seen, accounts⟩ := exists_accounts t before
  have le : p ≤ (after t before).dump.cursor.precedence :=
    Nat.not_lt.1 fun above => unread (.inr (.inl above))
  exact Nat.lt_of_le_of_lt le accounts.gave.precedence_lt

namespace Accounts

variable {seen : Nat → List Rule}

/-- What is given of a bucket is a part of what a sound store had in it at some moment. -/
theorem sublist (h : Accounts t turns seen) (reachable : Reachable limits t)
    (hp : p < bucketCount) :
    ∃ s l, Store.Keeps s limits l ∧
      ((after t turns).dump.behind seen p).Sublist (s.bucketRules p) := by
  by_cases read : (after t turns).dump.HasRead p
  · obtain ⟨s, l, hkeeps, hs⟩ := (h.found p hp read).keeps reachable
    refine ⟨s, l, hkeeps, ?_⟩
    rw [← hs]
    exact Dump.behind_sublist _ seen p
  · obtain ⟨-, l, hkeeps⟩ := reachable.keeps
    rw [h.gave.behind_unread seen read]
    exact ⟨t.store, l, hkeeps, List.nil_sublist _⟩

theorem precedence_eq (h : Accounts t turns seen) (reachable : Reachable limits t)
    (hp : p < bucketCount) : ∀ r ∈ (after t turns).dump.behind seen p, r.precedence.toNat = p := by
  intro r hr
  obtain ⟨s, l, hkeeps, sub⟩ := h.sublist reachable hp
  exact hkeeps.precedence_of_mem (sub.mem hr)

theorem filter_precedence (h : Accounts t turns seen) (reachable : Reachable limits t)
    (hp : p < bucketCount) :
    (after t turns).given.filter (·.precedence.toNat = p) = (after t turns).dump.behind seen p := by
  rw [h.gave.given_eq, filter_stacked, ← stacked_single ((after t turns).dump.behind seen p) hp]
  refine stacked_congr fun q hq => ?_
  have precedence := h.precedence_eq reachable hq
  by_cases here : q = p
  · subst here
    rw [if_pos rfl]
    exact List.filter_eq_self.2 fun r hr => by simp [precedence r hr]
  · rw [if_neg here]
    exact List.filter_eq_nil_iff.2 fun r hr => by simp [precedence r hr, here]

theorem falls (h : Accounts t turns seen) (reachable : Reachable limits t) :
    (after t turns).given.Pairwise fun r r' => r'.precedence ≤ r.precedence := by
  rw [h.gave.given_eq]
  refine pairwise_stacked (fun p hp => ?_) fun p hp q hq r hr r' hr' => ?_
  · refine List.pairwise_of_forall_mem_list fun r hr r' hr' => ?_
    rw [UInt8.le_iff_toNat_le, h.precedence_eq reachable hp r hr,
      h.precedence_eq reachable hp r' hr']
  · rw [UInt8.le_iff_toNat_le, h.precedence_eq reachable hp r hr,
      h.precedence_eq reachable (hq.trans hp) r' hr']
    exact Nat.le_of_lt hq

theorem nodup (h : Accounts t turns seen) (reachable : Reachable limits t) :
    ((after t turns).given.map fun r => (r.key, r.precedence)).Nodup := by
  rw [h.gave.given_eq, map_stacked]
  refine pairwise_stacked (fun p hp => ?_) fun p hp q hq x hx y hy => ?_
  · obtain ⟨s, l, hkeeps, sub⟩ := h.sublist reachable hp
    refine List.Nodup.of_map Prod.fst ?_
    rw [List.map_map]
    exact (hkeeps.bucketRules_keys_nodup p).sublist (sub.map _)
  · -- two buckets have no precedence in common
    obtain ⟨r, hr, rfl⟩ := List.mem_map.1 hx
    obtain ⟨r', hr', rfl⟩ := List.mem_map.1 hy
    intro same
    have equal : r.precedence.toNat = r'.precedence.toNat := congrArg (fun x => x.2.toNat) same
    rw [h.precedence_eq reachable hp r hr, h.precedence_eq reachable (hq.trans hp) r' hr'] at equal
    exact Nat.ne_of_gt hq equal

/-- At the end, a key that was live under one precedence all along has been given once. -/
theorem once (h : Accounts t turns seen) (reachable : Reachable limits t) {k : RuleKey}
    {precedence : UInt8}
    (live : ∀ part, part <+: turns →
      ((after t part).table.query k).map (·.precedence) = some precedence)
    (ended : (after t turns).dump.cursor.done = true) :
    (after t turns).given.countP (·.key = k) = 1 := by
  -- each bucket was read while the key was live
  have moment : ∀ p < bucketCount, ∃ r : Rule,
      (seen p).filter (·.key = k) = if p = precedence.toNat then [r] else [] := by
    intro p hp
    obtain ⟨before, later, hturns, -, -, hseen⟩ := h.found p hp (.inl ended)
    obtain ⟨-, l, hkeeps⟩ := (reachable_after reachable before).keeps
    obtain ⟨r, found, rfl⟩ := Option.map_eq_some_iff.1
      (live before (hturns ▸ List.prefix_append _ _))
    exact ⟨r, hseen ▸ hkeeps.bucketRules_filter_key found p⟩
  have hp : precedence.toNat < bucketCount := by
    obtain ⟨-, l, hkeeps⟩ := reachable.keeps
    obtain ⟨r, found, rfl⟩ := Option.map_eq_some_iff.1 (live [] (List.nil_prefix))
    exact hkeeps.precedence_lt found
  obtain ⟨r, hr⟩ := moment _ hp
  rw [if_pos rfl] at hr
  rw [List.countP_eq_length_filter, h.gave.given_eq, filter_stacked,
    stacked_congr (g := fun p => if p = precedence.toNat then [r] else []), stacked_single _ hp]
  · rfl
  · intro p hp
    rw [Dump.behind_of_left (.inl ended)]
    by_cases here : p = precedence.toNat
    · rw [if_pos here, here, hr]
    · obtain ⟨_, none⟩ := moment p hp
      rw [none, if_neg here, if_neg here]

theorem length_le (h : Accounts t turns seen) (reachable : Reachable limits t) :
    (after t turns).given.length ≤ bucketCount * limits.ruleMax.toNat := by
  rw [h.gave.given_eq]
  refine length_stacked_le fun p hp => ?_
  obtain ⟨s, l, hkeeps, sub⟩ := h.sublist reachable hp
  exact sub.length_le.trans (hkeeps.length_bucketRules_le p)

end Accounts

/-! ### The main result -/

/-- **A dump of a table that changes meanwhile is consistent**, for every reachable table and all
turns. A call of it has one end, and depends on no bucket but those that it is the first to read. -/
theorem dump_consistent (reachable : Reachable limits t) (turns : List Turn) :
    (∀ s d r d', Dump.Rounds s d r d' ↔ d.next s = (r, d')) ∧
    (∀ (s s' : Store) (d : Dump),
      (∀ p, ¬ d.HasRead p → (d.next s).2.HasRead p → s.bucketRules p = s'.bucketRules p) →
      d.next s = d.next s') ∧
    Consistent limits t turns := by
  obtain ⟨seen, accounts⟩ := exists_accounts t turns
  refine ⟨fun s d r d' => Dump.rounds_iff, fun s s' d => Dump.next_congr, ?_⟩
  exact
    { read_iff := fun p hp =>
        ⟨fun read => ⟨seen p, accounts.found p hp read⟩, fun ⟨_, found⟩ => found.hasRead⟩
      given_eq := by
        intro p rules found
        have hp := found.lt_bucketCount
        rw [accounts.filter_precedence reachable hp, Dump.behind_of_hasRead found.hasRead,
          found.unique (accounts.found p hp found.hasRead)]
      unread := fun p hp unread => by
        rw [accounts.filter_precedence reachable hp, accounts.gave.behind_unread seen unread]
      falls := accounts.falls reachable
      nodup := accounts.nodup reachable
      once := fun k precedence => accounts.once reachable
      answers_eq := exists_answers_eq t turns
      length_le := accounts.length_le reachable }

/-- While a dump is in bucket 7, one rule of that bucket is deleted, one comes to it and one is
moved to a bucket below: the first is given all the same, the second is not, and the third is given
twice. -/
theorem dump_consistent_of_changes :
    let t := (Table.new {}).run
      [.apply (.add { id := 1, precedence := 7 }), .apply (.add { id := 2, precedence := 7 }),
        .apply (.add { id := 3, precedence := 7 })]
    let turns : List Turn :=
      [.next, .call (.apply (.delete ⟨2, .sawf⟩)),
        .call (.apply (.add { id := 4, precedence := 7 })),
        .call (.apply (.add { id := 3, precedence := 5 })), .next, .next, .next, .next,
        .call (.apply (.add { id := 5, precedence := 1 })), .next]
    Reachable {} t ∧ Consistent {} t turns ∧
      (after t turns).answers.map (·.map fun r => (r.id.toNat, r.precedence.toNat)) =
        [some (3, 7), some (2, 7), some (1, 7), some (3, 5), none, none] ∧
      (after t turns).given.countP (·.key = ⟨1, .sawf⟩) = 1 := by
  intro t turns
  have reachable : Reachable {} t := Reachable.new.run _
  obtain ⟨-, -, consistent⟩ := dump_consistent reachable turns
  have live : ∀ part ∈ turns.inits,
      ((after t part).table.query ⟨1, .sawf⟩).map (·.precedence) = some 7 := by decide
  have ended : (after t turns).dump.cursor.done = true := by decide
  exact ⟨reachable, consistent, by decide,
    consistent.once ⟨1, .sawf⟩ 7 (fun part hpart => live part ((List.mem_inits _ _).2 hpart)) ended⟩

end

end LiveDump

end PacketPriority
