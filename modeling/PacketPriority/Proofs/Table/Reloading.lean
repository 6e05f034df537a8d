import PacketPriority.Proofs.Ledger.Batch
import PacketPriority.Proofs.RuleFile.Loading
import PacketPriority.Proofs.Table.Soundness

/-!
Loading a batch again changes nothing.

A first pass may place rules, exchange them, move them and be cut short anywhere as the table fills
up. Whatever became of a request, it is settled afterwards, and stays so while the others are
served, as they have other keys (`Ledger.settled_load`); so the second pass finds nothing to do
(`Ledger.load_settled`). `Table.Reloads` says what readers and callers see of that, and the main
result is `Reachable.loading_again_changes_nothing`. The requests of a rule file have keys of their
own, so that it holds of every file that deletes nothing.
-/

namespace PacketPriority

/-- After a second pass a table shows what it showed after the first, and the second pass accepts
nothing that it would change. -/
structure Table.Reloads (t : Table) (qs : List Request) : Prop where
  dump_eq : ((t.load qs).1.load qs).1.dump = (t.load qs).1.dump
  query_eq : ∀ k, ((t.load qs).1.load qs).1.query k = (t.load qs).1.query k
  count_eq : ((t.load qs).1.load qs).1.count = (t.load qs).1.count
  stats_eq : ((t.load qs).1.load qs).1.stats = (t.load qs).1.stats
  results : List.Forall₂ Ledger.Repeats (t.load qs).2 ((t.load qs).1.load qs).2

namespace Table

variable {t : Table} {limits : Limits} {l : List Rule} {qs : List Request}

theorem Mirrors.reloads (h : t.Mirrors limits l) (adds : ∀ q ∈ qs, q.command = .add)
    (keys : (qs.map Request.key).Nodup) : t.Reloads qs := by
  obtain ⟨first, results⟩ := h.load qs
  obtain ⟨second, results'⟩ := first.load qs
  have settled := Ledger.settled_load limits l adds keys
  rw [Ledger.load_settled first.keys_nodup adds settled] at second results'
  exact
    { dump_eq := second.shows.dump_eq.trans first.shows.dump_eq.symm
      query_eq := first.shows.query_congr second.shows first.keys_nodup (.refl _)
      count_eq := first.shows.count_congr second.shows (.refl _)
      stats_eq := first.shows.stats_congr second.shows (.refl _)
      results := by
        rw [results, results']
        exact Ledger.repeats_settled first.keys_nodup adds settled }

/-- A writer at work refuses both passes. -/
theorem reloads_of_writing (hw : t.store.writing = true) (qs : List Request) : t.Reloads qs := by
  have first := t.load_sameRules hw qs
  have hw' : (t.load qs).1.store.writing = true := by rw [first.store, hw]
  have same : ((t.load qs).1.load qs).1.store = (t.load qs).1.store :=
    (load_sameRules hw' qs).store
  exact
    { dump_eq := congrArg Store.dump same
      query_eq := fun k => congrArg (fun s => (s.find? k).map (·.rule)) same
      count_eq := congrArg Store.count same
      stats_eq := congrArg Store.stats same
      results := by
        rw [load_results_of_writing hw, load_results_of_writing hw', List.forall₂_map_left_iff,
          List.forall₂_map_right_iff]
        exact List.forall₂_same.2 fun q _ => ⟨rfl, nofun⟩ }

end Table

namespace Reachable

variable {limits : Limits} {t : Table}

/-- **Loading a batch again changes nothing.** For all reachable tables, full or not, and all
batches of requests that add under keys of their own, among them all that are parsed from a text and
delete nothing. -/
theorem loading_again_changes_nothing (h : Reachable limits t) :
    (∀ qs, (∀ q ∈ qs, q.command = .add) → (qs.map Request.key).Nodup → t.Reloads qs) ∧
      ∀ max text source qs, RuleFile.parse max text source = .ok qs →
        (∀ q ∈ qs, q.command = .add) → t.Reloads qs := by
  have batch : ∀ qs : List Request, (∀ q ∈ qs, q.command = .add) → (qs.map Request.key).Nodup →
      t.Reloads qs := by
    intro qs adds keys
    obtain ⟨hlimits, nodes, hkeeps⟩ := h.keeps
    rcases hw : t.store.writing with - | -
    · have mirrors : t.Mirrors limits (nodes.map (·.rule)) := ⟨hlimits, hw, nodes, hkeeps, rfl⟩
      exact mirrors.reloads adds keys
    · exact Table.reloads_of_writing hw qs
  exact ⟨batch, fun max text source qs parsed adds =>
    batch qs adds (RuleFile.parse_keys_nodup parsed)⟩

/-- A batch that moves a rule under 255 and has room for one rule only. The first pass fills the
table, and the second is refused from the first request on. -/
theorem loading_again_changes_nothing_of_cut :
    let t := (Table.new { ruleMax := 2 }).run [.apply (.add { id := 1, precedence := 3 })]
    let qs : List Request :=
      [.add { id := 1, precedence := 255 }, .add { id := 2 }, .add { id := 3 }]
    (t.load qs).2.map (·.2) = [.ok (.moved 3 false), .ok .added, .error .tableFull] ∧
      ((t.load qs).1.load qs).2.map (·.2) =
        [.error .tableFull, .error .tableFull, .error .tableFull] ∧
      t.Reloads qs := by
  intro t qs
  have reachable : Reachable { ruleMax := 2 } t := Reachable.new.run _
  exact ⟨by decide +kernel, by decide +kernel,
    reachable.loading_again_changes_nothing.1 qs (by decide) (by decide)⟩

end Reachable

end PacketPriority
