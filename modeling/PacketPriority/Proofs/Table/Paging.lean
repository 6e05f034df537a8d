import Mathlib.Data.List.SplitLengths
import Mathlib.Data.List.TakeDrop
import PacketPriority.Proofs.Store.Rounds
import PacketPriority.Proofs.Table.Soundness

/-!
Reading a table page by page.

A page ends with a cursor, and the next page is read by a new dump from there, which holds no bucket
yet. As long as the store is left alone that makes no difference: what a dump holds is then what
stands in the bucket (`Dump.UpToDate`), so that the new dump has still to give what the old one had
(`Dump.UpToDate.remaining_resume`). Pages of any sizes cut the dump of the table into parts of these
sizes, and the cursor comes to its end when more is asked for than there is (`Store.pages_eq`). The
main result is `Reachable.pages_cut_dump`.
-/

namespace PacketPriority

namespace Dump

variable {s : Store} {d : Dump}

/-! ### Dumps of a store that is left alone -/

/-- The dump holds no bucket, or holds it as it is. -/
def UpToDate (d : Dump) (s : Store) : Prop := d.bucket s = s.bucketRules d.cursor.precedence

theorem upToDate_resume (s : Store) (c : Cursor) : (resume c).UpToDate s := rfl

/-- What a dump has still to give depends on its cursor alone. -/
theorem UpToDate.remaining_resume (h : d.UpToDate s) :
    (resume d.cursor).remaining s = d.remaining s := by
  unfold UpToDate bucket at h
  rw [remaining, remaining, h]
  rfl

theorem UpToDate.rounds (h : d.UpToDate s) {r : Option Rule} {d' : Dump}
    (rounds : Rounds s d r d') : d'.UpToDate s := by
  induction rounds with
  | done _ => exact h
  | found _ _ => exact h
  | used _ _ _ ih =>
    refine ih ?_
    rw [UpToDate, bucket, held_leave]
    rfl

theorem UpToDate.take (h : d.UpToDate s) (n : Nat) : (d.take s n).2.UpToDate s := by
  induction n generalizing d with
  | zero => exact h
  | succ n ih =>
    have later : (d.next s).2.UpToDate s := h.rounds (rounds_next s d)
    rw [Dump.take]
    rcases e : d.next s with ⟨_ | r, d'⟩
    · rwa [e] at later
    · rw [e] at later
      exact ih later

/-! ### What some calls leave -/

theorem remaining_of_done (h : d.cursor.done = true) : d.remaining s = [] := if_pos h

/-- So many calls leave all but so many of the rules. -/
theorem remaining_take (s : Store) (d : Dump) (n : Nat) :
    (d.take s n).2.remaining s = (d.remaining s).drop n := by
  induction n generalizing d with
  | zero => rfl
  | succ n ih =>
    obtain ⟨-, rest⟩ := next_eq s d
    have none_iff := (rounds_next s d).eq_none_iff
    rw [take]
    rcases e : d.next s with ⟨_ | r, d'⟩
    · rw [e] at rest none_iff
      have empty : d'.remaining s = [] := remaining_of_done (none_iff.1 rfl)
      rw [empty] at rest
      rw [← List.drop_one] at rest
      rw [empty, Nat.add_comm, ← List.drop_drop, ← rest, List.drop_nil]
    · rw [e] at rest
      rw [ih d', rest, ← List.drop_one, List.drop_drop, Nat.add_comm]

/-- A dump comes to its end when it is asked for more than there is. -/
theorem done_take_iff (s : Store) (d : Dump) (n : Nat) :
    (d.take s n).2.cursor.done = true ↔ d.cursor.done = true ∨ (d.remaining s).length < n := by
  induction n generalizing d with
  | zero => simp [take]
  | succ n ih =>
    obtain ⟨first, rest⟩ := next_eq s d
    have none_iff := (rounds_next s d).eq_none_iff
    rw [take]
    rcases e : d.next s with ⟨_ | r, d'⟩
    · rw [e] at first none_iff
      have empty : d.remaining s = [] := List.head?_eq_none_iff.1 first.symm
      have ended : d'.cursor.done = true := none_iff.1 rfl
      simp [ended, empty]
    · -- a dump that gives a rule has not come to its end
      rw [e] at first rest none_iff
      obtain ⟨tail, whole⟩ := List.head?_eq_some_iff.1 first.symm
      have going : ¬ d.cursor.done = true := fun hd => by rw [next_of_done hd] at e; cases e
      have going' : ¬ d'.cursor.done = true := fun hd => by simpa using none_iff.2 hd
      rw [whole, List.tail_cons] at rest
      simp only [ih d', rest, whole, going, going', List.length_cons, Nat.add_lt_add_iff_right]

end Dump

/-! ### Pages -/

namespace Store

/-- Pages of some sizes, each read from where the one before it stopped, and the place behind the
last of them. -/
def pages (s : Store) (c : Cursor) : List Nat → List (List Rule) × Cursor
  | [] => ([], c)
  | n :: sizes =>
    let (rules, c) := s.page c n
    let (rest, c) := s.pages c sizes
    (rules :: rest, c)

/-- What there is from a place on. -/
def restFrom (s : Store) (c : Cursor) : List Rule := (Dump.resume c).remaining s

theorem restFrom_start (s : Store) : s.restFrom .start = s.dump := by
  rw [dump_eq_rules]
  exact Dump.remaining_start s

theorem length_stacked_mono {α : Type} (f : Nat → List α) {m n : Nat} (h : m ≤ n) :
    (stacked f m).length ≤ (stacked f n).length := by
  induction h with
  | refl => exact Nat.le_refl _
  | step _ ih =>
    rw [stacked, List.length_append]
    omega

/-- All rules from a place on, read one by one. -/
def dumpFrom (s : Store) (c : Cursor) : List Rule := (Dump.resume c).drain s

/-- What is read from a place in the store is what there is. -/
theorem dumpFrom_eq {c : Cursor} (h : c.precedence < bucketCount) (s : Store) :
    s.dumpFrom c = s.restFrom c := by
  have upTo : (s.restFrom c).length ≤ (stacked s.bucketRules (c.precedence + 1)).length := by
    rw [restFrom, Dump.remaining]
    split
    · exact Nat.zero_le _
    · rw [stacked, List.length_append, List.length_append, List.length_drop]
      exact Nat.add_le_add_right (Nat.sub_le _ _) _
  rw [dumpFrom, Dump.drain, Dump.take_eq, ← restFrom, List.take_of_length_le]
  calc (s.restFrom c).length
      ≤ (stacked s.bucketRules (c.precedence + 1)).length := upTo
    _ ≤ (stacked s.bucketRules bucketCount).length := length_stacked_mono _ h
    _ = s.nodes.length := by rw [← rules_eq_stacked, rules, List.length_map]

/-- A page is the beginning of what there is, the place behind it that of the rest. -/
theorem page_eq (s : Store) (c : Cursor) (n : Nat) :
    (s.page c n).1 = (s.restFrom c).take n ∧
      s.restFrom (s.page c n).2 = (s.restFrom c).drop n ∧
      ((s.page c n).2.done = true ↔ c.done = true ∨ (s.restFrom c).length < n) := by
  have current := (Dump.upToDate_resume s c).take n
  refine ⟨Dump.take_eq s n _, ?_, Dump.done_take_iff s _ n⟩
  exact current.remaining_resume.trans (Dump.remaining_take s _ n)

/-- **Pages cut what there is into parts of their sizes**, and leave what is behind them all. -/
theorem pages_eq (s : Store) (c : Cursor) (sizes : List Nat) :
    (s.pages c sizes).1 = sizes.splitLengths (s.restFrom c) ∧
      s.restFrom (s.pages c sizes).2 = (s.restFrom c).drop sizes.sum ∧
      ((s.pages c sizes).2.done = true ↔
        c.done = true ∨ (s.restFrom c).length < sizes.sum) := by
  induction sizes generalizing c with
  | nil => exact ⟨rfl, rfl, by simp [pages]⟩
  | cons n sizes ih =>
    obtain ⟨first, rest, ended⟩ := s.page_eq c n
    obtain ⟨parts, later, ended'⟩ := ih (s.page c n).2
    refine ⟨?_, ?_, ?_⟩
    · rw [pages, List.splitLengths_cons, ← first, ← rest, ← parts]
    · rw [pages, List.sum_cons, ← List.drop_drop, ← rest, ← later]
    · rw [pages, List.sum_cons]
      refine ended'.trans ?_
      rw [ended, rest, List.length_drop, or_assoc]
      exact or_congr_right (by omega)

theorem flatten_splitLengths_eq_take {α : Type} (sizes : List Nat) (l : List α) :
    (sizes.splitLengths l).flatten = l.take sizes.sum := by
  induction sizes generalizing l with
  | nil => rfl
  | cons n sizes ih =>
    rw [List.splitLengths_cons, List.flatten_cons, ih, List.sum_cons, List.take_add]

end Store

/-! ### The main result -/

namespace Reachable

variable {limits : Limits} {t : Table}

theorem length_dump (h : Reachable limits t) : t.dump.length = t.count.toNat := by
  obtain ⟨-, nodes, hkeeps⟩ := h.keeps
  rw [Table.dump, Store.dump_eq_rules, Store.rules, List.length_map, hkeeps.nodes_perm.length_eq]
  exact hkeeps.count_eq.symm

/-- **Paging is the same as one dump.** On a reachable table that is left alone, pages of any sizes,
read one after another from the start, cut the dump into parts of these sizes. Together they are the
dump up to the sum of the sizes, hence all of it as soon as the sizes come to the number of rules.
Behind a cursor that has come that far there is nothing, and it says that it is done as soon as more
has been asked for than there is, never while a rule is left. -/
theorem pages_cut_dump (h : Reachable limits t) (sizes : List Nat) :
    let read := t.store.pages .start sizes
    read.1 = sizes.splitLengths t.dump ∧
    read.1.flatten = t.dump.take sizes.sum ∧
    (t.count.toNat ≤ sizes.sum → read.1.flatten = t.dump) ∧
    (read.1.flatten = t.dump → ∀ later, (t.store.pages read.2 later).1.flatten = []) ∧
    (read.2.done = true ↔ t.count.toNat < sizes.sum) ∧
    (read.2.done = true → read.1.flatten = t.dump) := by
  intro read
  obtain ⟨parts, rest, ended⟩ := t.store.pages_eq .start sizes
  rw [t.store.restFrom_start, ← Table.dump] at parts rest ended
  have given : read.1.flatten = t.dump.take sizes.sum := by
    rw [parts]
    exact Store.flatten_splitLengths_eq_take sizes t.dump
  have all : t.count.toNat ≤ sizes.sum → read.1.flatten = t.dump := fun enough => by
    rw [given, List.take_of_length_le (h.length_dump.trans_le enough)]
  have done_iff : read.2.done = true ↔ t.count.toNat < sizes.sum := by
    rw [← h.length_dump]
    exact ended.trans (by simp [Cursor.start])
  refine ⟨parts, given, all, fun whole later => ?_, done_iff, fun done => ?_⟩
  · -- the dump is as long as its beginning, so nothing stands behind that
    have enough : t.dump.length ≤ sizes.sum := by
      rw [← List.take_eq_self_iff, ← given, whole]
    obtain ⟨parts', -, -⟩ := t.store.pages_eq read.2 later
    rw [parts', rest, List.drop_eq_nil_of_le enough, Store.flatten_splitLengths_eq_take,
      List.take_nil]
  · exact all (Nat.le_of_lt (done_iff.1 done))

/-- Two rules of one precedence and one far below, in pages that end within a precedence, behind it
and nowhere. -/
theorem pages_cut_dump_of_three :
    let t := (Table.new {}).run
      [.apply (.add { id := 1, precedence := 9 }), .apply (.add { id := 2, precedence := 9 }),
        .apply (.add { id := 3 })]
    let read := t.store.pages .start [1, 0, 1, 2]
    read.1.flatten = t.dump ∧ read.2.done = true ∧
      read.1.map (·.map (·.id.toNat)) = [[2], [], [1], [3]] ∧
      (t.store.pages .start [1, 0, 1, 1]).2.done = false := by
  intro t read
  obtain ⟨-, -, all, -, done_iff, -⟩ := (Reachable.new.run _).pages_cut_dump (t := t) [1, 0, 1, 2]
  have count : t.count = 3 := rfl
  exact ⟨all (by rw [count]; decide), done_iff.2 (by rw [count]; decide), by decide, by decide⟩

end Reachable

end PacketPriority
