import PacketPriority.Proofs.Table.BucketOrder
import PacketPriority.Proofs.Table.Paging

/-!
A cursor that is saved, and a table that changes before the dump goes on.

A cursor counts the rules of its bucket that are behind. When a dump goes on from it, it reads that
bucket anew and skips so many, whichever rules they are by then. So the rules of every other bucket
are given once, before or later (`Resumes.elsewhere`), but within the cursor's own bucket it depends
on what has happened in front of a rule: there stand the rules that have come, and of those that
stood there before the ones that stay (`Resumes.ahead_eq`).

That says exactly which rules a dump gives twice and which it never gives, and that it does neither
unless a rule comes to the bucket or one that stood further in front leaves it. The main result is
`Reachable.cursor_resumes`, and `cursor_loses_and_repeats` shows both at work.
-/

namespace PacketPriority

/-! ### Places in a bucket -/

/-- The keys that stand in front of a key. -/
def ahead (ks : List RuleKey) (k : RuleKey) : List RuleKey := ks.takeWhile (· ≠ k)

section

variable {ks : List RuleKey} {k : RuleKey}

theorem ahead_cons (j : RuleKey) (ks : List RuleKey) (k : RuleKey) :
    ahead (j :: ks) k = if j = k then [] else j :: ahead ks k := by
  by_cases h : j = k
  · simp [ahead, h]
  · simp [ahead, h]

theorem ahead_append (h : k ∉ ks) (ks' : List RuleKey) : ahead (ks ++ ks') k = ks ++ ahead ks' k :=
  List.takeWhile_append_of_pos fun _ hj => decide_eq_true (ne_of_mem_of_not_mem hj h)

theorem ahead_filter {keep : RuleKey → Bool} (hk : keep k = true) (ks : List RuleKey) :
    ahead (ks.filter keep) k = (ahead ks k).filter keep := by
  induction ks with
  | nil => rfl
  | cons j ks ih =>
    by_cases hj : j = k
    · subst hj
      rw [List.filter_cons_of_pos hk, ahead_cons, ahead_cons, if_pos rfl, if_pos rfl]
      rfl
    · rcases e : keep j with - | -
      · rw [List.filter_cons_of_neg (by simp [e]), ih, ahead_cons, if_neg hj,
          List.filter_cons_of_neg (by simp [e])]
      · rw [List.filter_cons_of_pos e, ahead_cons, ahead_cons, if_neg hj, if_neg hj, ih,
          List.filter_cons_of_pos e]

theorem mem_take_iff (hk : k ∈ ks) (n : Nat) : k ∈ ks.take n ↔ (ahead ks k).length < n := by
  induction ks generalizing n with
  | nil => cases hk
  | cons j ks ih =>
    rcases n with - | n
    · simp
    · rw [List.take_succ_cons, List.mem_cons, ahead_cons]
      by_cases hj : j = k
      · simp [hj]
      · have later : k ∈ ks := (List.mem_cons.1 hk).resolve_left (Ne.symm hj)
        rw [if_neg hj, List.length_cons, ih later]
        simp [Ne.symm hj]

theorem mem_drop_iff (nodup : ks.Nodup) (hk : k ∈ ks) (n : Nat) :
    k ∈ ks.drop n ↔ n ≤ (ahead ks k).length := by
  rw [← Nat.not_lt, ← mem_take_iff hk]
  rw [← List.take_append_drop n ks] at nodup hk
  have apart := List.disjoint_of_nodup_append nodup
  constructor
  · exact fun behind front => apart front behind
  · exact fun notFront => (List.mem_append.1 hk).resolve_left notFront

end

/-! ### Rules that a dump gives -/

namespace Dump

variable {s : Store} {d : Dump}

/-- On a store that is left alone a dump finds what is there. -/
theorem Gave.take {given : List Rule} (h : d.Gave s.bucketRules given) (n : Nat) :
    (d.take s n).2.Gave s.bucketRules (given ++ (d.take s n).1) := by
  induction n generalizing d given with
  | zero => exact (List.append_nil given).symm ▸ h
  | succ n ih =>
    have step := h.rounds (fun _ _ => rfl) (rounds_next s d)
    rw [Dump.take]
    rcases e : d.next s with ⟨_ | r, d'⟩
    · rw [e] at step
      exact step
    · rw [e] at step
      have later := ih step
      rwa [List.append_assoc] at later

end Dump

namespace Store

variable {s : Store} {limits : Limits} {l : List Node} {k : RuleKey} {p : Nat}

theorem Keeps.bucketKeys_nodup (h : s.Keeps limits l) (p : Nat) : (s.bucketKeys p).Nodup :=
  h.bucketRules_keys_nodup p

/-- A key stands in one bucket only. -/
theorem Keeps.eq_of_mem_bucketKeys (h : s.Keeps limits l) {q : Nat} (hp : k ∈ s.bucketKeys p)
    (hq : k ∈ s.bucketKeys q) : q = p := by
  have live : ∀ {q : Nat} {r : Rule}, r ∈ s.bucketRules q →
      ((s.find? r.key).map (·.rule)).map (·.precedence) = some r.precedence := fun hr =>
    h.mem_bucketKeys_iff.1 (by rw [h.precedence_of_mem hr]; exact List.mem_map_of_mem hr)
  obtain ⟨r, hr, rfl⟩ := List.mem_map.1 hp
  obtain ⟨r', hr', same⟩ := List.mem_map.1 hq
  have live' := live hr'
  rw [same, live hr] at live'
  rw [← h.precedence_of_mem hr, ← h.precedence_of_mem hr', Option.some.inj live']

/-- Of parts of the buckets, only that of a key's own bucket can hold the key. -/
theorem Keeps.mem_stacked_iff (h : s.Keeps limits l) (hk : k ∈ s.bucketKeys p)
    {part : Nat → List Rule} (sub : ∀ q, (part q).Sublist (s.bucketRules q)) (n : Nat) :
    k ∈ (stacked part n).map (·.key) ↔ p < n ∧ k ∈ (part p).map (·.key) := by
  rw [map_stacked, mem_stacked]
  constructor
  · rintro ⟨q, hq, here⟩
    obtain rfl := h.eq_of_mem_bucketKeys hk (((sub q).map _).mem here)
    exact ⟨hq, here⟩
  · rintro ⟨hp, here⟩
    exact ⟨p, hp, here⟩

/-- A rule is behind a dump if its bucket is, or if the cursor counts it. -/
theorem mem_behind_iff (hk : k ∈ s.bucketKeys p) (d : Dump) :
    k ∈ (d.behind s.bucketRules p).map (·.key) ↔
      d.cursor.done = true ∨ d.cursor.precedence < p ∨
        d.cursor.precedence = p ∧ (ahead (s.bucketKeys p) k).length < d.cursor.offset := by
  unfold Dump.behind
  by_cases left : d.cursor.done = true ∨ d.cursor.precedence < p
  · rw [if_pos left, ← or_assoc]
    exact iff_of_true hk (.inl left)
  · rw [if_neg left, ← or_assoc, or_iff_right left]
    by_cases here : d.cursor.precedence = p
    · rw [if_pos here, List.map_take, ← bucketKeys, mem_take_iff hk, and_iff_right here]
    · rw [if_neg here]
      exact iff_of_false (by simp) fun both => here both.1

/-- A rule is there from a place on if its bucket is, or if the place has not counted it. -/
theorem Keeps.mem_restFrom_iff (h : s.Keeps limits l) (hk : k ∈ s.bucketKeys p) (c : Cursor) :
    k ∈ (s.restFrom c).map (·.key) ↔
      c.done = false ∧ (p < c.precedence ∨
        c.precedence = p ∧ c.offset ≤ (ahead (s.bucketKeys p) k).length) := by
  rcases hd : c.done with - | -
  · have whole : s.restFrom c =
        (s.bucketRules c.precedence).drop c.offset ++ stacked s.bucketRules c.precedence := by
      simp [restFrom, Dump.remaining, Dump.resume, hd]
    have below : k ∈ (stacked s.bucketRules c.precedence).map (·.key) ↔ p < c.precedence :=
      (h.mem_stacked_iff hk (fun q => .refl (s.bucketRules q)) c.precedence).trans (and_iff_left hk)
    rw [whole, List.map_append, List.mem_append, below, List.map_drop, ← bucketKeys,
      and_iff_right rfl, or_comm]
    refine or_congr_right ?_
    by_cases here : c.precedence = p
    · rw [here, mem_drop_iff (h.bucketKeys_nodup p) hk, and_iff_right rfl]
    · refine iff_of_false (fun dropped => here ?_) fun both => here both.1
      exact h.eq_of_mem_bucketKeys hk (List.mem_of_mem_drop dropped)
  · simp [restFrom, Dump.remaining, Dump.resume, hd]

theorem lt_bucketCount_of_mem (hk : k ∈ s.bucketKeys p) : p < bucketCount := by
  by_contra high
  rw [bucketKeys, bucketRules, bucket_eq_nil (Nat.le_of_not_lt high)] at hk
  cases hk

end Store

/-! ### The main result -/

theorem Cursor.precedence?_eq_some_iff {c : Cursor} {p : Nat} :
    c.precedence? = some p ↔ c.done = false ∧ c.precedence = p := by
  unfold Cursor.precedence?
  cases c.done <;> simp

/-- How a dump that goes on from a saved cursor treats a key that stays in its bucket: the rules
given before and later, the cursor, the keys of the bucket before and after, and those that stay
there. -/
structure Resumes (k : RuleKey) (p : Nat) (given later : List Rule) (c : Cursor)
    (before after : List RuleKey) (stays : RuleKey → Prop) [DecidablePred stays] : Prop where
  /-- A rule of any bucket but the cursor's is given once, before or later. -/
  elsewhere : c.precedence? ≠ some p → (k ∈ later.map (·.key) ↔ k ∉ given.map (·.key))
  given_iff : c.precedence? = some p →
    (k ∈ given.map (·.key) ↔ (ahead before k).length < c.offset)
  /-- In the cursor's bucket the rules are counted anew. -/
  later_iff : c.precedence? = some p →
    (k ∈ later.map (·.key) ↔ c.offset ≤ (ahead after k).length)
  /-- In front of the key stand those that have come, and of those that stood there before the ones
  that stay. -/
  ahead_eq : ahead after k =
    after.filter (fun j => ¬ stays j) ++ (ahead before k).filter stays
  /-- Unless a key that stood in front of it leaves, a rule that was not given is given later. -/
  not_lost : (∀ j ∈ ahead before k, stays j) →
    k ∉ given.map (·.key) → k ∈ later.map (·.key)
  /-- Unless a key comes to the bucket, a rule that was given is not given again. -/
  not_repeated : (∀ j ∈ after, stays j) →
    k ∈ given.map (·.key) → k ∉ later.map (·.key)

/-- It is enough to know what stands in front of the key, before and after. -/
theorem Resumes.of_places {k : RuleKey} {p : Nat} {given later : List Rule} {c : Cursor}
    {before after : List RuleKey} {stays : RuleKey → Prop} [DecidablePred stays]
    (given_iff : k ∈ given.map (·.key) ↔ c.done = true ∨ c.precedence < p ∨
      c.precedence = p ∧ (ahead before k).length < c.offset)
    (later_iff : k ∈ later.map (·.key) ↔ c.done = false ∧
      (p < c.precedence ∨ c.precedence = p ∧ c.offset ≤ (ahead after k).length))
    (ahead_eq : ahead after k =
      after.filter (fun j => ¬ stays j) ++ (ahead before k).filter stays) :
    Resumes k p given later c before after stays := by
  have elsewhere : c.precedence? ≠ some p →
      (k ∈ later.map (·.key) ↔ k ∉ given.map (·.key)) := by
    intro other
    rw [Ne, Cursor.precedence?_eq_some_iff] at other
    rw [given_iff, later_iff]
    cases hd : c.done with
    | true => simp
    | false =>
      have apart : c.precedence ≠ p := fun here => other ⟨hd, here⟩
      simp only [apart, false_and, or_false, true_and, Bool.false_eq_true, false_or]
      omega
  have here : c.precedence? = some p →
      (k ∈ given.map (·.key) ↔ (ahead before k).length < c.offset) ∧
        (k ∈ later.map (·.key) ↔ c.offset ≤ (ahead after k).length) := by
    intro at_p
    obtain ⟨hd, rfl⟩ := Cursor.precedence?_eq_some_iff.1 at_p
    rw [given_iff, later_iff, hd]
    simp
  refine ⟨elsewhere, fun at_p => (here at_p).1, fun at_p => (here at_p).2, ahead_eq,
    fun kept notGiven => ?_, fun kept given => ?_⟩
  · -- all that stood in front of the key still stands there
    by_cases at_p : c.precedence? = some p
    · obtain ⟨hgiven, hlater⟩ := here at_p
      rw [hgiven] at notGiven
      rw [hlater, ahead_eq, List.filter_eq_self.2 fun j hj => decide_eq_true (kept j hj),
        List.length_append]
      omega
    · exact (elsewhere at_p).2 notGiven
  · -- nothing stands in front of the key that has not stood there before
    by_cases at_p : c.precedence? = some p
    · obtain ⟨hgiven, hlater⟩ := here at_p
      have old : after.filter (fun j => ¬ stays j) = [] :=
        List.filter_eq_nil_iff.2 fun j hj => by simpa using kept j hj
      have fewer := List.length_filter_le (fun j => decide (stays j)) (ahead before k)
      rw [hgiven] at given
      rw [hlater, ahead_eq, old, List.nil_append]
      omega
    · exact fun again => (elsewhere at_p).1 again given

namespace Reachable

variable {limits : Limits} {t : Table} {k : RuleKey} {precedence : UInt8}

/-- What stands in a bucket after a run: those that have come, and those that stay. -/
theorem bucketKeys_run (h : Reachable limits t) (ops : List Operation) (precedence : UInt8) :
    (t.run ops).store.bucketKeys precedence.toNat =
      ((t.run ops).store.bucketKeys precedence.toNat).filter
        (fun k => ¬ t.Stays ops precedence k) ++
      (t.store.bucketKeys precedence.toNat).filter (t.Stays ops precedence) := by
  have single : ∀ op ∈ ops.flatMap Operation.calls, ∀ qs, op ≠ .load qs := by
    intro op hop qs
    obtain ⟨whole, -, hop⟩ := List.mem_flatMap.1 hop
    cases whole with
    | load rs =>
      obtain ⟨q, -, rfl⟩ := List.mem_map.1 hop
      exact Operation.noConfusion
    | _ => exact List.mem_singleton.1 hop ▸ Operation.noConfusion
  obtain ⟨newcomers, new, keys⟩ := h.exists_newcomers single precedence.toNat
  rw [t.run_flatMap_calls] at keys
  simp only [h.stays_iff, Table.moments]
  have none : ((t.store.bucketKeys precedence.toNat).filter
      (Stands (t.met (ops.flatMap Operation.calls)) precedence.toNat)).filter
        (fun k => ¬ Stands (t.met (ops.flatMap Operation.calls)) precedence.toNat k) = [] :=
    List.filter_eq_nil_iff.2 fun k hk => by simpa using (List.mem_filter.1 hk).2
  rw [keys, List.filter_append, List.filter_eq_self.2 fun k hk => decide_eq_true (new k hk), none,
    List.append_nil]

/-- **How a dump goes on after the table has changed**, for every reachable table, any number of
rules that have been given, any run, and every rule whose key stays live under one precedence. -/
theorem cursor_resumes (h : Reachable limits t) (n : Nat) (ops : List Operation)
    (stays : t.Stays ops precedence k) :
    let saved := t.store.page .start n
    let u := t.run ops
    Resumes k precedence.toNat saved.1 (u.store.dumpFrom saved.2) saved.2
      (t.store.bucketKeys precedence.toNat) (u.store.bucketKeys precedence.toNat)
      (t.Stays ops precedence) := by
  intro saved u
  obtain ⟨-, l, hkeeps⟩ := h.keeps
  obtain ⟨-, l', hkeeps'⟩ := (h.run ops).keeps
  have stands := (h.stays_iff ops precedence k).1 stays
  have before : k ∈ t.store.bucketKeys precedence.toNat := stands t (t.mem_moments ops)
  have after : k ∈ u.store.bucketKeys precedence.toNat := stands u (t.run_mem_moments ops)
  -- what was given is behind the dump
  have gave : (Dump.start.take t.store n).2.Gave t.store.bucketRules saved.1 :=
    (Dump.gave_start t.store.bucketRules).take n
  have given : k ∈ saved.1.map (·.key) ↔ saved.2.done = true ∨
      saved.2.precedence < precedence.toNat ∨ saved.2.precedence = precedence.toNat ∧
        (ahead (t.store.bucketKeys precedence.toNat) k).length < saved.2.offset := by
    rw [gave.given_eq, hkeeps.mem_stacked_iff before (Dump.behind_sublist _ _),
      and_iff_right (Store.lt_bucketCount_of_mem before)]
    exact Store.mem_behind_iff before _
  have later : k ∈ (u.store.dumpFrom saved.2).map (·.key) ↔ saved.2.done = false ∧
      (precedence.toNat < saved.2.precedence ∨ saved.2.precedence = precedence.toNat ∧
        saved.2.offset ≤ (ahead (u.store.bucketKeys precedence.toNat) k).length) := by
    rw [Store.dumpFrom_eq (c := saved.2) gave.precedence_lt]
    exact hkeeps'.mem_restFrom_iff after _
  have ahead_eq : ahead (u.store.bucketKeys precedence.toNat) k =
      (u.store.bucketKeys precedence.toNat).filter (fun j => ¬ t.Stays ops precedence j) ++
        (ahead (t.store.bucketKeys precedence.toNat) k).filter (t.Stays ops precedence) := by
    have new : k ∉ (u.store.bucketKeys precedence.toNat).filter
        fun j => ¬ t.Stays ops precedence j := fun hk =>
      of_decide_eq_true (List.mem_filter.1 hk).2 stays
    rw [← ahead_filter (decide_eq_true stays), ← ahead_append new]
    exact congrArg (ahead · k) (h.bucketKeys_run ops precedence)
  exact .of_places given later ahead_eq

/-- While the dump is in bucket 7, a rule comes to it and another one goes: behind both, one rule is
given before and one later, as it should be. -/
theorem cursor_resumes_of_exchange :
    let t := (Table.new {}).run
      [.apply (.add { id := 1, precedence := 7 }), .apply (.add { id := 2, precedence := 7 }),
        .apply (.add { id := 3, precedence := 7 })]
    let ops : List Operation := [.load [.add { id := 4, precedence := 7 }, .delete ⟨3, .sawf⟩]]
    let saved := t.store.page .start 2
    let u := t.run ops
    t.Stays ops 7 ⟨1, .sawf⟩ ∧
      Resumes ⟨1, .sawf⟩ 7 saved.1 (u.store.dumpFrom saved.2) saved.2 (t.store.bucketKeys 7)
        (u.store.bucketKeys 7) (t.Stays ops 7) ∧
      saved.1.map (·.id.toNat) = [3, 2] ∧
      (u.store.dumpFrom saved.2).map (·.id.toNat) = [1] := by
  intro t ops saved u
  have stays : t.Stays ops 7 ⟨1, .sawf⟩ := by decide
  exact ⟨stays, (Reachable.new.run _).cursor_resumes 2 ops stays, by decide, by decide +kernel⟩

end Reachable

/-- **A cursor may lose a rule or repeat one that nobody has touched.** One of three rules has been
given when the cursor is saved. If that rule is deleted, the next one is never given; if another
rule is added in front of it, it is given again. -/
theorem cursor_loses_and_repeats :
    let t := (Table.new {}).run
      [.apply (.add { id := 1, precedence := 10 }), .apply (.add { id := 2, precedence := 10 }),
        .apply (.add { id := 3, precedence := 10 })]
    let saved := t.store.page .start 1
    let deletes : List Operation := [.apply (.delete ⟨3, .sawf⟩)]
    let adds : List Operation := [.apply (.add { id := 4, precedence := 10 })]
    saved.1.map (·.id.toNat) = [3] ∧
      t.Stays deletes 10 ⟨2, .sawf⟩ ∧
      ((t.run deletes).store.dumpFrom saved.2).map (·.id.toNat) = [1] ∧
      t.Stays adds 10 ⟨3, .sawf⟩ ∧
      ((t.run adds).store.dumpFrom saved.2).map (·.id.toNat) = [3, 2, 1] := by
  decide +kernel

end PacketPriority
