import PacketPriority.Proofs.Classify.Independence
import PacketPriority.Proofs.Ledger.Batch

/-!
The order of independent additions does not matter.

Requests that add under keys of their own leave the same rules in every order, as long as the table
has room for all of them (`Ledger.load_perm`); only which of two rules of one precedence stands in
front depends on the order. `Table.SameUpToTies` is what two tables have in common that keep the
same rules. A search from the highest precedence down finds the match of the highest precedence, so
it finds the same one in both unless two matches tie (`Rule.find?_ranked_congr`), and a classifier
makes no more than such searches.

The main result is `Reachable.adds_commute`.
-/

namespace PacketPriority

open FirstMatch

/-! ### Rankings of the same rules -/

namespace Rule

variable {l l' : List Rule}

theorem ranked_congr (perm : l'.Perm l) : (ranked l').Perm (ranked l) :=
  ((ranked_perm l').trans perm).trans (ranked_perm l).symm

theorem pairwise_ranked (l : List Rule) :
    (ranked l).Pairwise fun r s => s.precedence ≤ r.precedence := by
  refine List.Pairwise.imp of_decide_eq_true (List.pairwise_mergeSort ?_ ?_ l)
  · intro r s u hrs hsu
    exact decide_eq_true (UInt8.le_trans (of_decide_eq_true hsu) (of_decide_eq_true hrs))
  · intro r s
    simpa using UInt8.le_total s.precedence r.precedence

/-- Rankings of the same rules go through the same precedences. -/
theorem precedences_ranked_congr (perm : l'.Perm l) :
    (ranked l').map (·.precedence) = (ranked l).map (·.precedence) := by
  have sorted (l : List Rule) : ((ranked l).map (·.precedence)).Pairwise fun a b => b ≤ a :=
    List.pairwise_map.2 (pairwise_ranked l)
  exact List.Perm.eq_of_pairwise (fun a b _ _ hab hba => UInt8.le_antisymm hba hab)
    (sorted l') (sorted l) ((ranked_congr perm).map _)

/-- **Where no two matches tie, rankings of the same rules have the same first match.** -/
theorem find?_ranked_congr {P : Rule → Bool} (perm : l'.Perm l)
    (untied : ∀ r ∈ l, ∀ s ∈ l, P r = true → P s = true → r.precedence = s.precedence → r = s) :
    (ranked l').find? P = (ranked l).find? P := by
  have same : (ranked l').Perm (ranked l) := ranked_congr perm
  rcases hr : (ranked l).find? P with - | r
  · exact List.find?_eq_none.2 fun s hs => List.find?_eq_none.1 hr s (same.mem_iff.1 hs)
  · rcases hs : (ranked l').find? P with - | s
    · have hmem := same.mem_iff.2 (List.mem_of_find?_eq_some hr)
      exact absurd (List.find?_some hr) (List.find?_eq_none.1 hs r hmem)
    · -- each is a match in the other list too, and so neither is ranked above the other
      rw [find?_ranked] at hr hs
      have same : (l'.filter P).Perm (l.filter P) := perm.filter P
      have hr' := List.argmax_mem hr
      have hs' := same.mem_iff.1 (List.argmax_mem hs)
      have above := List.le_of_mem_argmax hs' hr
      have below := List.le_of_mem_argmax (same.mem_iff.2 hr') hs
      obtain ⟨hr₁, hr₂⟩ := List.mem_filter.1 hr'
      obtain ⟨hs₁, hs₂⟩ := List.mem_filter.1 hs'
      have level : s.precedence = r.precedence := UInt8.toNat_inj.1 (Nat.le_antisymm above below)
      rw [untied s hs₁ r hr₁ hs₂ hr₂ level]

end Rule

/-! ### Tables that keep the same rules -/

/-- No two rules that a classifier tries in one pass are of one precedence. -/
def Untied (rules : List Rule) (p : Packet) (flavor : Flavor) : Prop :=
  ∀ r ∈ rules, ∀ s ∈ rules, Rivals p r s flavor → r.precedence = s.precedence → r = s

namespace Table

/-- Two tables show the same rules to every reader, but rules of one precedence may stand in another
order. -/
structure SameUpToTies (t u : Table) : Prop where
  query_eq : ∀ k, u.query k = t.query k
  count_eq : u.count = t.count
  stats_eq : u.stats = t.stats
  dump_perm : u.dump.Perm t.dump
  /-- Only rules of one precedence have changed places. -/
  precedences_eq : u.dump.map (·.precedence) = t.dump.map (·.precedence)
  /-- A decision in which no two rules tie is the same. -/
  decides : ∀ p flavor, Untied t.dump p flavor → t.DecidesAlike u p flavor

end Table

namespace Reachable

variable {limits : Limits} {t u : Table} {l l' : List Rule}

/-- **Tables that keep the same rules show the same up to ties.** -/
theorem sameUpToTies (h : Reachable limits t) (h' : Reachable limits u) (shows : t.Shows l)
    (shows' : u.Shows l') (nodup : (l.map (·.key)).Nodup) (perm : l'.Perm l) :
    t.SameUpToTies u where
  query_eq := shows.query_congr shows' nodup perm
  count_eq := shows.count_congr shows' perm
  stats_eq := shows.stats_congr shows' perm
  dump_perm := by
    rw [shows.dump_eq, shows'.dump_eq]
    exact Rule.ranked_congr perm
  precedences_eq := by
    rw [shows.dump_eq, shows'.dump_eq]
    exact Rule.precedences_ranked_congr perm
  decides p flavor untied := by
    have mem_dump : ∀ r ∈ l, r ∈ t.dump := fun r hr => by
      rw [shows.dump_eq]
      exact (Rule.ranked_perm l).mem_iff.2 hr
    refine h.decidesAlike h' (selected_congr_of_rivals fun P hP => ?_) fun _ => ?_
    · rw [shows.dump_eq, shows'.dump_eq]
      exact Rule.find?_ranked_congr perm fun r hr s hs hPr hPs =>
        untied r (mem_dump r hr) s (mem_dump s hs) (hP r s hPr hPs)
    · rw [← List.length_eq_zero_iff, ← List.length_eq_zero_iff, shows.dump_eq, shows'.dump_eq,
        (Rule.ranked_perm l).length_eq, (Rule.ranked_perm l').length_eq, perm.length_eq]

end Reachable

/-! ### Batches -/

namespace Table

variable {t : Table} {limits : Limits} {l : List Rule} {qs : List Request}

/-- Where a batch fits each of its requests succeeds. -/
theorem Mirrors.apply_of_fits (h : t.Mirrors limits l) (fits : Ledger.Fits limits l qs)
    {q : Request} (hq : q ∈ qs) :
    (t.apply q).2 = .ok (Ledger.place l (Ledger.lowered q.rule)).2 := by
  rw [apply, (h.update (some q)).2, fits.update_eq hq]

/-- Where a batch fits each of its requests reports what it would report alone. -/
theorem Mirrors.results_of_fits (h : t.Mirrors limits l) (fits : Ledger.Fits limits l qs) :
    (t.load qs).2 = qs.map fun q => (q.key, (t.apply q).2) := by
  rw [(h.load qs).2, (Ledger.load_fits fits h.keys_nodup).2]
  exact List.map_congr_left fun q hq => by rw [h.apply_of_fits fits hq]

/-- A writer at work refuses the whole batch. -/
theorem results_of_writing (hw : t.store.writing = true) (qs : List Request) :
    (t.load qs).2 = qs.map fun q => (q.key, (t.apply q).2) := by
  simp only [apply, update_result_of_writing hw, load_results_of_writing hw]

end Table

/-! ### The main result -/

namespace Reachable

variable {limits : Limits} {t : Table}

/-- **The order of independent additions does not matter.** For all reachable tables and all batches
of requests that add under keys of their own, with outputs that the table takes and room for all of
them: in any two orders each request reports what it would report alone, and the tables that are
left show the same rules up to ties. If no writer is at work, each request succeeds. -/
theorem adds_commute (h : Reachable limits t) {qs qs' : List Request}
    (adds : ∀ q ∈ qs, q.command = .add) (codes : ∀ q ∈ qs, q.rule.treatment.output ≤ 9)
    (keys : (qs.map Request.key).Nodup)
    (room : t.count.toNat + qs.length ≤ limits.ruleMax.toNat) (order : qs'.Perm qs) :
    (t.store.writing = false → ∀ q ∈ qs, ∃ outcome, (t.apply q).2 = .ok outcome) ∧
      ((t.load qs).2 = qs.map fun q => (q.key, (t.apply q).2)) ∧
      ((t.load qs').2 = qs'.map fun q => (q.key, (t.apply q).2)) ∧
      (t.load qs).1.SameUpToTies (t.load qs').1 := by
  obtain ⟨hlimits, nodes, hkeeps⟩ := h.keeps
  have first : Reachable limits (t.load qs).1 := h.operate (.load qs)
  have second : Reachable limits (t.load qs').1 := h.operate (.load qs')
  rcases hw : t.store.writing with - | -
  · have mirrors : t.Mirrors limits (nodes.map (·.rule)) := ⟨hlimits, hw, nodes, hkeeps, rfl⟩
    have fits : Ledger.Fits limits (nodes.map (·.rule)) qs :=
      { adds := adds
        codes := fun q hq => PrioritySource.le_maxCode_iff.1 (codes q hq)
        keys_nodup := keys
        room := by rwa [mirrors.shows.count_eq] at room }
    refine ⟨fun _ q hq => ⟨_, mirrors.apply_of_fits fits hq⟩, mirrors.results_of_fits fits,
      mirrors.results_of_fits (fits.perm order), ?_⟩
    exact first.sameUpToTies second (mirrors.load qs).1.shows (mirrors.load qs').1.shows
      (mirrors.load qs).1.keys_nodup (Ledger.load_perm fits mirrors.keys_nodup order)
  · -- beside a writer at work both orders leave the table as it was
    have kept : ∀ qs : List Request, (t.load qs).1.store.Keeps limits nodes := by
      intro qs
      rw [(Table.load_sameRules hw qs).store]
      exact hkeeps
    have nodup : ((nodes.map (·.rule)).map (·.key)).Nodup := by
      rw [List.map_map]
      exact hkeeps.keys_nodup
    refine ⟨nofun, Table.results_of_writing hw qs, Table.results_of_writing hw qs', ?_⟩
    exact first.sameUpToTies second (.of_keeps (kept qs)) (.of_keeps (kept qs')) nodup (.refl _)

/-- A batch that changes a rule at its place, moves one and adds one, and fills the table. The rule
that is moved and the one that is added tie, and stand in the order in which they came. -/
theorem adds_commute_of_tie :
    let t := (Table.new { ruleMax := 5 }).run
      [.apply (.add { id := 1, precedence := 3 }), .apply (.add { id := 2, precedence := 5 })]
    let qs : List Request :=
      [.add { id := 1, precedence := 3, treatment := { output := 4 } },
        .add { id := 2, precedence := 7 }, .add { id := 3, precedence := 7, kind := .mesh }]
    ((t.load qs).2 = qs.map fun q => (q.key, (t.apply q).2)) ∧
      ((t.load qs).2.map fun result => result.2) =
        [.ok (.modified true), .ok (.moved 5 false), .ok .added] ∧
      (t.load qs).1.SameUpToTies (t.load qs.reverse).1 ∧
      (t.load qs).1.dump ≠ (t.load qs.reverse).1.dump := by
  intro t qs
  have reachable : Reachable { ruleMax := 5 } t := Reachable.new.run _
  have commute := reachable.adds_commute (by decide) (by decide) (by decide) (by decide +kernel)
    (List.reverse_perm qs)
  exact ⟨commute.2.1, by decide +kernel, commute.2.2.2, by decide +kernel⟩

end Reachable

end PacketPriority
