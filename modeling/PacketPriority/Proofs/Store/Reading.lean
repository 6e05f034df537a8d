import Mathlib.Data.List.Induction
import PacketPriority.Store.Cursor

/-!
The two ways to read a store agree.

A store is scanned bucket by bucket, and it is dumped rule by rule through a cursor. Both walk from
the highest precedence down. `stacked f n` puts the lists `f (n - 1)`, …, `f 0` one behind the
other, so that both are seen to read the same list: `rules_eq_stacked` for the scan, `dump_eq_rules`
for the dump. Between them stands `Dump.remaining`, what a dump has still to give as long as the
store is left alone: one call of `next` takes its first rule, `n` calls take its first `n`.
-/

namespace PacketPriority

variable {α β : Type}

/-! ### Stacked lists -/

/-- The lists `f (n - 1)`, …, `f 0`, one behind the other. -/
def stacked (f : Nat → List α) : Nat → List α
  | 0 => []
  | n + 1 => f n ++ stacked f n

theorem stacked_congr {f g : Nat → List α} {n : Nat} (h : ∀ p < n, f p = g p) :
    stacked f n = stacked g n := by
  induction n with
  | zero => rfl
  | succ n ih =>
    rw [stacked, stacked, h n n.lt_succ_self, ih fun p hp => h p (Nat.lt_succ_of_lt hp)]

theorem stacked_eq_nil {f : Nat → List α} {n : Nat} (h : ∀ p < n, f p = []) : stacked f n = [] := by
  induction n with
  | zero => rfl
  | succ n ih => rw [stacked, h n n.lt_succ_self, ih fun p hp => h p (Nat.lt_succ_of_lt hp)]; rfl

theorem mem_stacked {f : Nat → List α} {n : Nat} {a : α} :
    a ∈ stacked f n ↔ ∃ p < n, a ∈ f p := by
  induction n with
  | zero => simp [stacked]
  | succ n ih =>
    rw [stacked, List.mem_append, ih]
    constructor
    · rintro (h | ⟨p, hp, h⟩)
      · exact ⟨n, n.lt_succ_self, h⟩
      · exact ⟨p, Nat.lt_succ_of_lt hp, h⟩
    · rintro ⟨p, hp, h⟩
      rcases Nat.lt_succ_iff_lt_or_eq.1 hp with hlt | rfl
      · exact .inr ⟨p, hlt, h⟩
      · exact .inl h

theorem map_stacked (g : α → β) (f : Nat → List α) (n : Nat) :
    (stacked f n).map g = stacked (fun p => (f p).map g) n := by
  induction n with
  | zero => rfl
  | succ n ih => rw [stacked, List.map_append, ih, stacked]

/-- One more element in front of a list of the stack, all lists above it empty. -/
theorem stacked_cons {f : Nat → List α} {q n : Nat} (a : α) (hq : q < n)
    (above : ∀ p, q < p → f p = []) :
    stacked (fun p => if p = q then a :: f p else f p) n = a :: stacked f n := by
  induction n with
  | zero => omega
  | succ n ih =>
    rcases Nat.lt_succ_iff_lt_or_eq.1 hq with hlt | rfl
    · rw [stacked, stacked, ih hlt, above n hlt, if_neg (by omega)]
      rfl
    · have rest : stacked (fun p => if p = q then a :: f p else f p) q = stacked f q :=
        stacked_congr fun p hp => if_neg (by omega)
      rw [stacked, stacked, rest, if_pos rfl]
      rfl

/-- One more element behind a list of the stack, all lists below it empty. -/
theorem stacked_concat {f : Nat → List α} {q n : Nat} (a : α) (hq : q < n)
    (below : ∀ p < q, f p = []) :
    stacked (fun p => if p = q then f p ++ [a] else f p) n = stacked f n ++ [a] := by
  induction n with
  | zero => omega
  | succ n ih =>
    rcases Nat.lt_succ_iff_lt_or_eq.1 hq with hlt | rfl
    · rw [stacked, stacked, ih hlt, if_neg (by omega), List.append_assoc]
    · have rest : stacked (fun p => if p = q then f p ++ [a] else f p) q = stacked f q :=
        stacked_congr fun p hp => if_neg (by omega)
      rw [stacked, stacked, rest, stacked_eq_nil below, if_pos rfl]
      simp

/-- All lists of the stack but one empty. -/
theorem stacked_single {q n : Nat} (l : List α) (hq : q < n) :
    stacked (fun p => if p = q then l else []) n = l := by
  induction n with
  | zero => omega
  | succ n ih =>
    rcases Nat.lt_succ_iff_lt_or_eq.1 hq with hlt | rfl
    · rw [stacked, ih hlt, if_neg (by omega)]
      rfl
    · rw [stacked, stacked_eq_nil fun p hp => if_neg (by omega), if_pos rfl, List.append_nil]

theorem filter_stacked (P : α → Bool) (f : Nat → List α) (n : Nat) :
    (stacked f n).filter P = stacked (fun p => (f p).filter P) n := by
  induction n with
  | zero => rfl
  | succ n ih => rw [stacked, List.filter_append, ih, stacked]

/-- A stack is in order if its lists are, and the elements of each stand before those further down.
-/
theorem pairwise_stacked {R : α → α → Prop} {f : Nat → List α} {n : Nat}
    (own : ∀ p < n, (f p).Pairwise R)
    (across : ∀ p < n, ∀ q < p, ∀ a ∈ f p, ∀ b ∈ f q, R a b) : (stacked f n).Pairwise R := by
  induction n with
  | zero => exact .nil
  | succ n ih =>
    rw [stacked, List.pairwise_append]
    refine ⟨own n n.lt_succ_self, ih (fun p hp => own p (Nat.lt_succ_of_lt hp))
      (fun p hp => across p (Nat.lt_succ_of_lt hp)), fun a ha b hb => ?_⟩
    obtain ⟨q, hq, hb⟩ := mem_stacked.1 hb
    exact across n n.lt_succ_self q hq a ha b hb

theorem length_stacked_le {f : Nat → List α} {n m : Nat} (h : ∀ p < n, (f p).length ≤ m) :
    (stacked f n).length ≤ n * m := by
  induction n with
  | zero => simp [stacked]
  | succ n ih =>
    have top := h n n.lt_succ_self
    have rest := ih fun p hp => h p (Nat.lt_succ_of_lt hp)
    rw [stacked, List.length_append, Nat.succ_mul]
    omega

/-- Lists in their usual order, last one first, are stacked lists. -/
theorem flatten_reverse_eq_stacked (ls : List (List α)) :
    ls.reverse.flatten = stacked (fun p => ls.getD p []) ls.length := by
  -- by the last list, which comes first on both sides
  induction ls using List.reverseRecOn with
  | nil => rfl
  | append_singleton ls l ih =>
    have last : (ls ++ [l]).getD ls.length [] = l := by
      simp [List.getD]
    have below : stacked (fun p => (ls ++ [l]).getD p []) ls.length =
        stacked (fun p => ls.getD p []) ls.length :=
      stacked_congr fun p hp => by simp [List.getD, List.getElem?_append_left hp]
    rw [List.length_append, List.length_singleton, stacked, last, below, ← ih]
    simp

namespace Store

variable {s : Store}

/-! ### The scan -/

theorem nodes_eq_stacked (s : Store) : s.nodes = stacked s.bucket bucketCount := by
  have h := flatten_reverse_eq_stacked s.buckets.toList
  rwa [Vector.length_toList] at h

theorem rules_eq_stacked (s : Store) : s.rules = stacked s.bucketRules bucketCount := by
  rw [rules, nodes_eq_stacked, map_stacked]
  rfl

theorem bucket_eq_nil {p : Nat} (h : bucketCount ≤ p) : s.bucket p = [] := by
  have hlen : s.buckets.toList.length ≤ p := by rwa [Vector.length_toList]
  simp [bucket, List.getD, List.getElem?_eq_none hlen]

theorem mem_nodes {n : Node} : n ∈ s.nodes ↔ ∃ p, n ∈ s.bucket p := by
  rw [nodes_eq_stacked, mem_stacked]
  constructor
  · rintro ⟨p, -, h⟩
    exact ⟨p, h⟩
  · rintro ⟨p, h⟩
    refine ⟨p, ?_, h⟩
    by_contra hp
    rw [bucket_eq_nil (Nat.le_of_not_lt hp)] at h
    cases h

end Store

/-! ### The dump -/

namespace Dump

variable {s : Store}

/-- What a dump has still to give, if the store stays as it is. -/
def remaining (s : Store) (d : Dump) : List Rule :=
  if d.cursor.done then []
  else
    (d.held.getD (s.bucketRules d.cursor.precedence)).drop d.cursor.offset
      ++ stacked s.bucketRules d.cursor.precedence

theorem remaining_start (s : Store) : start.remaining s = s.rules := by
  rw [Store.rules_eq_stacked]
  rfl

/-- Below a used-up bucket the dump goes on with the first rule further down. -/
theorem descend_eq (s : Store) (p offset : Nat) :
    (descend s p offset).1 = (stacked s.bucketRules p).head? ∧
      (descend s p offset).2.remaining s = (stacked s.bucketRules p).tail := by
  induction p generalizing offset with
  | zero => exact ⟨rfl, rfl⟩
  | succ p ih =>
    rcases e : s.bucketRules p with - | ⟨r, rest⟩
    · rw [descend, e, stacked, e]
      exact ih 0
    · rw [descend, e, stacked, e]
      exact ⟨rfl, rfl⟩

/-- One call gives the first rule that remains, and leaves the others. -/
theorem next_eq (s : Store) (d : Dump) :
    (d.next s).1 = (d.remaining s).head? ∧ (d.next s).2.remaining s = (d.remaining s).tail := by
  rcases hd : d.cursor.done with - | -
  · -- the dump is on its way: its bucket has a rule left, or it goes on below;
    -- what matters is the bucket as it was read, not as it is now
    rw [next, remaining, hd]
    simp only [Bool.false_eq_true, if_false]
    generalize hb : d.held.getD (s.bucketRules d.cursor.precedence) = bucket
    rcases e : bucket[d.cursor.offset]? with - | r
    · have used : bucket.drop d.cursor.offset = [] :=
        List.drop_eq_nil_of_le (List.getElem?_eq_none_iff.1 e)
      rw [used]
      exact descend_eq s d.cursor.precedence d.cursor.offset
    · obtain ⟨hlt, rfl⟩ := List.getElem?_eq_some_iff.1 e
      refine ⟨by rw [List.drop_eq_getElem_cons hlt]; rfl, ?_⟩
      rw [List.drop_eq_getElem_cons hlt, List.cons_append, List.tail_cons, remaining, hd]
      rfl
  · simp [next, remaining, hd]

/-- So many calls give so many of the rules that remain. -/
theorem take_eq (s : Store) (n : Nat) (d : Dump) :
    (d.take s n).1 = (d.remaining s).take n := by
  induction n generalizing d with
  | zero => rfl
  | succ n ih =>
    obtain ⟨hfst, hsnd⟩ := next_eq s d
    rw [take]
    rcases e : d.next s with ⟨_ | r, d'⟩
    · rw [e] at hfst
      rw [List.head?_eq_none_iff.1 hfst.symm]
      rfl
    · rw [e] at hfst hsnd
      -- the head of what remains is given, and the other calls go through its tail
      obtain ⟨rest, hrest⟩ := List.head?_eq_some_iff.1 hfst.symm
      rw [hrest, List.tail_cons] at hsnd
      simp only [hrest, List.take_succ_cons, ← hsnd, ← ih d']

end Dump

/-- The rules read one by one are all the rules, in the order of the scan. -/
theorem Store.dump_eq_rules (s : Store) : s.dump = s.rules := by
  rw [dump, Dump.drain, Dump.take_eq, Dump.remaining_start, List.take_of_length_le]
  simp [rules]

end PacketPriority
