import Mathlib.Data.List.Pairwise
import PacketPriority.Proofs.Rule.Masking
import PacketPriority.Proofs.Rule.Slots
import PacketPriority.Proofs.Table.Reloading

/-!
The order of edits, and the masks among them.

Edits that store in different slots can be applied in either order (`Edit.apply_comm`): what they
share are the two flag words, to which each adds its bits. So a list of edits none of which stores
where another does builds the same rule in every order (`Rule.build_perm`), although a mask has to
do with the address that it belongs to; it is applied at the end.

The main result `Rule.build_canonical` puts this beside what masks do to the rule that is built, to
its comparisons and to a table that is given two such rules.
-/

namespace PacketPriority

/-! ### Edits in another order -/

namespace Edit

/-- Two edits store their values in different slots. -/
def Apart (ed ed' : Edit) : Prop := ∀ x ∈ ed.slots, x ∉ ed'.slots

instance : DecidableRel Apart := fun ed ed' =>
  inferInstanceAs (Decidable (∀ x ∈ ed.slots, x ∉ ed'.slots))

/-- Where one edit stores and another does not, it does not matter whether the other comes after. -/
theorem apply_apply_agreesAt {ed ed' : Edit} {x : Slot} (r : Rule) (stores : x ∈ ed.slots)
    (leaves : x ∉ ed'.slots) : (ed'.apply (ed.apply r)).AgreesAt (ed.apply (ed'.apply r)) x :=
  (apply_agreesAt_of_notMem _ leaves).trans (apply_agreesAt_of_mem stores r (ed'.apply r))

/-- **Edits that store in different slots** can be applied in either order. -/
theorem apply_comm {ed ed' : Edit} (apart : Apart ed ed') (r : Rule) :
    ed'.apply (ed.apply r) = ed.apply (ed'.apply r) := by
  refine Rule.eq_of_agreesAt ?_ ?_ ?_ fun x => ?_
  · simp only [apply_id]
  · refine Flags.ext fun bit => ?_
    simp only [has_apply, Bool.or_right_comm]
  · refine Flags.ext fun bit => ?_
    simp only [has_flowFlags_apply, Bool.or_right_comm]
  · by_cases stores : x ∈ ed.slots
    · exact apply_apply_agreesAt r stores (apart x stores)
    · by_cases stores' : x ∈ ed'.slots
      · exact (apply_apply_agreesAt r stores' stores).symm
      · -- neither of them stores there
        have left := (apply_agreesAt_of_notMem (ed.apply r) stores').trans
          (apply_agreesAt_of_notMem r stores)
        have right := (apply_agreesAt_of_notMem (ed'.apply r) stores).trans
          (apply_agreesAt_of_notMem r stores')
        exact left.trans right.symm

end Edit

namespace Rule

variable {eds eds' : List Edit}

/-- Edits none of which stores where another does can be applied in every order. -/
theorem edited_perm (r : Rule) (apart : eds.Pairwise Edit.Apart) (order : eds.Perm eds') :
    r.edited eds = r.edited eds' := by
  let Commutes (ed ed' : Edit) : Prop := ∀ r, ed'.apply (ed.apply r) = ed.apply (ed'.apply r)
  have : Std.Symm Commutes := { symm _ _ h r := (h r).symm }
  have commutes : eds.Pairwise Commutes := apart.imp fun h r => Edit.apply_comm h r
  exact order.foldl_eq'
    (fun _ mem _ mem' z => commutes.forall_of_forall (fun _ _ _ => rfl) mem mem' z) r

theorem build_perm (id : UInt32) (apart : eds.Pairwise Edit.Apart) (order : eds.Perm eds') :
    build id eds = build id eds' :=
  congrArg canonical (edited_perm _ apart order)

end Rule

/-! ### Adding a rule again -/

/-- A rule that is added again at once modifies nothing, if there is still room for it. -/
theorem Reachable.modified_of_added_again {limits : Limits} {t : Table} (h : Reachable limits t)
    {r : Rule} {outcome : Outcome}
    (accepted : ((t.update (some (.add r))).1.update (some (.add r))).2 = .ok outcome) :
    outcome = .modified false := by
  rcases hw : t.store.writing with - | -
  · obtain ⟨l, mirrors⟩ := h.mirrors hw
    obtain ⟨first, -⟩ := mirrors.update (some (.add r))
    obtain ⟨-, result⟩ := first.update (some (.add r))
    rw [result] at accepted
    have settled := Ledger.settled_update limits l (q := .add r) rfl
    have again := (settled.update_eq first.keys_nodup rfl).2 (Ledger.output_of_ok rfl accepted)
    rcases again with modified | full
    · rw [modified] at accepted
      cases accepted
      rfl
    · rw [full] at accepted
      cases accepted
  · -- a writer at work refuses both
    rw [Table.update_of_writing hw] at accepted
    rw [Table.update_of_writing (by rw [(t.settle_sameRules _ _).store, hw])] at accepted
    cases accepted

/-! ### The main result -/

namespace Rule

/-- **The rule that edits build** does not show their order, if none of them stores where another
does. Of an address given with its mask, in either order, it stores the bits that the mask selects,
and if a flow edit gives the address, it compares them. To reduce it again changes nothing. Bits
that a mask leaves out do not show in it, so that a table to which it is added once more, with other
bits there, is not modified. -/
theorem build_canonical (id : UInt32) (eds eds' : List Edit) :
    (eds.Pairwise Edit.Apart → eds.Perm eds' → build id eds = build id eds') ∧
      (∀ f a m, Edit.Gives eds f a m →
        (build id eds).criteria.address f = f.mask a m ∧
          (f.edit a ∈ eds → (build id eds).ComparesMasked f a m)) ∧
      (build id eds).canonical = build id eds ∧
      (List.Forall₂ (Edit.AlikeUnder (Edit.masks eds)) eds eds' →
        build id eds = build id eds' ∧
          ∀ limits t outcome, Reachable limits t →
            ((t.update (some (.add (build id eds)))).1.update
              (some (.add (build id eds')))).2 = .ok outcome →
            outcome = .modified false) := by
  refine ⟨build_perm id, fun f a m given => ?_, canonical_canonical _, fun alike => ?_⟩
  · exact ⟨address_build_of_gives id given, comparesMasked_build id given⟩
  · have same := build_congr_of_alike id alike
    refine ⟨same, fun limits t outcome reachable accepted => ?_⟩
    rw [← same] at accepted
    exact reachable.modified_of_added_again accepted

/-- The mask has a hole, and the second address differs from the first in bits outside of it. -/
theorem build_canonical_of_holes :
    let a : Ipv4 := ⟨10, 20, 30, 40⟩
    let b : Ipv4 := ⟨10, 99, 30, 41⟩
    let m : Ipv4 := ⟨255, 0, 255, 254⟩
    let eds : List Edit := [.srcIpv4 a, .output 5, .srcIpv4Mask m, .alwaysTrue]
    let turned : List Edit := [.alwaysTrue, .srcIpv4Mask m, .output 5, .srcIpv4 a]
    let other : List Edit := [.srcIpv4 b, .output 5, .srcIpv4Mask m, .alwaysTrue]
    let t := Table.new {}
    build 7 eds = build 7 turned ∧ (build 7 eds).criteria.srcIpv4 = ⟨10, 0, 30, 40⟩ ∧
      (build 7 eds).ComparesMasked .srcIpv4 a m ∧ build 7 eds = build 7 other ∧
      ∃ outcome, ((t.update (some (.add (build 7 eds)))).1.update
        (some (.add (build 7 other)))).2 = .ok outcome ∧ outcome = .modified false := by
  intro a b m eds turned other t
  have order : eds.Perm turned := by decide
  have alike : List.Forall₂ (Edit.AlikeUnder (Edit.masks eds)) eds other :=
    .cons (.flow (f := .srcIpv4) (m := m) rfl (by decide))
      (.cons (.same _) (.cons (.same _) (.cons (.same _) .nil)))
  have kept : a.mask m = ⟨10, 0, 30, 40⟩ := by decide
  have masked := (build_canonical 7 eds turned).2.1 .srcIpv4 a m ⟨rfl, rfl⟩
  obtain ⟨same, again⟩ := (build_canonical 7 eds other).2.2.2 alike
  have accepted : ((t.update (some (.add (build 7 eds)))).1.update
      (some (.add (build 7 other)))).2 = .ok (.modified false) := by
    decide +kernel
  exact ⟨(build_canonical 7 eds turned).1 (by decide) order, masked.1.trans kept,
    masked.2 List.mem_cons_self, same, _, accepted, again _ t _ .new accepted⟩

end Rule

end PacketPriority
