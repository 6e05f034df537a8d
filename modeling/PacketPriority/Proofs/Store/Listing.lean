import Mathlib.Data.List.Nodup
import PacketPriority.Proofs.Store.Reading

/-!
A store keeps one list of nodes.

`s.Lists l` says that the store `s` keeps exactly the nodes of `l`, the one placed last first: each
bucket holds the nodes of its precedence in the order of `l`, the index holds each node under its
key, the counter tells the length, and neither a key nor a serial number occurs twice. Each change
of the store is then a change of the list alone:

* `insert` puts a node in front;
* `replace` exchanges a node at its place;
* `relocate` takes a node out and puts another in front;
* `remove` takes a node out;
* `clear` leaves nothing.

A change is handed the node that it takes out. Distinct keys and distinct serial numbers make it the
same to look for that node by either, so that the index, which goes by key, and the buckets, which
go by serial number, stay in step.
-/

namespace PacketPriority

variable {α β : Type}

/-! ### Lists in which a function takes no value twice -/

section Distinct

variable {f : α → β} {l₁ l₂ : List α} {a : α}

/-- The elements around `a` have other values than `a`. -/
theorem ne_of_nodup_middle (h : ((l₁ ++ a :: l₂).map f).Nodup) {b : α} (hb : b ∈ l₁ ++ l₂) :
    f b ≠ f a := by
  have hmid : (f a :: (l₁ ++ l₂).map f).Nodup := by
    rw [List.map_append, List.map_cons] at h
    rw [List.map_append]
    exact List.nodup_middle.1 h
  intro he
  exact (List.nodup_cons.1 hmid).1 (he ▸ List.mem_map_of_mem hb)

theorem sublist_around (l₁ : List α) (a : α) (l₂ : List α) :
    (l₁ ++ l₂).Sublist (l₁ ++ a :: l₂) := (List.sublist_cons_self a l₂).append_left l₁

theorem nodup_around (h : ((l₁ ++ a :: l₂).map f).Nodup) : ((l₁ ++ l₂).map f).Nodup :=
  h.sublist ((sublist_around l₁ a l₂).map f)

variable [DecidableEq β]

/-- Leaving out the value of `a` takes out `a` alone. -/
theorem filter_ne_of_nodup (h : ((l₁ ++ a :: l₂).map f).Nodup) :
    (l₁ ++ a :: l₂).filter (fun b => f b ≠ f a) = l₁ ++ l₂ := by
  have kept : ∀ b ∈ l₁ ++ l₂, decide (f b ≠ f a) = true :=
    fun b hb => decide_eq_true (ne_of_nodup_middle h hb)
  calc (l₁ ++ a :: l₂).filter (fun b => f b ≠ f a)
      = (l₁ ++ l₂).filter (fun b => f b ≠ f a) := by simp
    _ = l₁ ++ l₂ := List.filter_eq_self.2 kept

/-- Exchanging what has the value of `a` exchanges `a` alone. -/
theorem map_exchange_of_nodup (h : ((l₁ ++ a :: l₂).map f).Nodup) (c : α) :
    (l₁ ++ a :: l₂).map (fun b => if f b = f a then c else b) = l₁ ++ c :: l₂ := by
  have same : ∀ l : List α, (∀ b ∈ l, f b ≠ f a) →
      l.map (fun b => if f b = f a then c else b) = l := by
    intro l hl
    exact (List.map_congr_left fun b hb => if_neg (hl b hb)).trans (List.map_id l)
  have h₁ := same l₁ fun b hb => ne_of_nodup_middle h (List.mem_append_left l₂ hb)
  have h₂ := same l₂ fun b hb => ne_of_nodup_middle h (List.mem_append_right l₁ hb)
  rw [List.map_append, List.map_cons, h₁, h₂, if_pos rfl]

end Distinct

/-! ### The relation -/

/-- A node together with the key that the index holds it under. -/
def Node.entry (n : Node) : RuleKey × Node := (n.rule.key, n)

namespace Store

/-- The store keeps exactly the nodes of a list, the one placed last first. -/
structure Lists (s : Store) (l : List Node) : Prop where
  bucket_eq : ∀ p, s.bucket p = l.filter fun n => n.rule.precedence.toNat = p
  index_perm : s.index.Perm (l.map Node.entry)
  count_eq : s.count.toNat = l.length
  keys_nodup : (l.map (·.rule.key)).Nodup
  serials_nodup : (l.map (·.serial)).Nodup
  serial_lt : ∀ n ∈ l, n.serial < s.fresh

variable {s : Store} {l l₁ l₂ : List Node} {old : Node} {r : Rule}

theorem lists_empty : Store.empty.Lists [] where
  bucket_eq p := by
    by_cases hp : p < bucketCount <;> simp [bucket, empty, List.getD, hp]
  index_perm := .refl _
  count_eq := rfl
  keys_nodup := .nil
  serials_nodup := .nil
  serial_lt := by simp

/-! ### What the relation says of readers -/

theorem Lists.precedence_ne (h : s.Lists l) {n : Node} (hn : n ∈ l) :
    n.rule.precedence ≠ 255 := by
  intro he
  have hp : n.rule.precedence.toNat = 255 := by rw [he]; rfl
  have hb := h.bucket_eq 255
  rw [bucket_eq_nil (p := 255) (Nat.le_refl bucketCount)] at hb
  exact List.not_mem_nil (hb ▸ List.mem_filter.2 ⟨hn, decide_eq_true hp⟩)

theorem Lists.mem_nodes (h : s.Lists l) {n : Node} : n ∈ s.nodes ↔ n ∈ l := by
  rw [Store.mem_nodes]
  constructor
  · rintro ⟨p, hn⟩
    rw [h.bucket_eq] at hn
    exact (List.mem_filter.1 hn).1
  · intro hn
    refine ⟨n.rule.precedence.toNat, ?_⟩
    rw [h.bucket_eq]
    exact List.mem_filter.2 ⟨hn, decide_eq_true rfl⟩

theorem Lists.bucket_serials_nodup (h : s.Lists l) (p : Nat) :
    ((s.bucket p).map (·.serial)).Nodup := by
  rw [h.bucket_eq]
  exact h.serials_nodup.sublist (List.filter_sublist.map _)

theorem Lists.index_keys_nodup (h : s.Lists l) : (Keyed.keys s.index).Nodup := by
  have hp : (Keyed.keys s.index).Perm (l.map (·.rule.key)) := by
    simpa [Keyed.keys, Node.entry, Function.comp_def] using h.index_perm.map Prod.fst
  exact hp.nodup_iff.2 h.keys_nodup

/-- The index finds exactly the nodes of the list. -/
theorem Lists.find?_eq_some_iff (h : s.Lists l) {k : RuleKey} {n : Node} :
    s.find? k = some n ↔ n ∈ l ∧ n.rule.key = k := by
  rw [find?, Keyed.get?_eq_some_iff h.index_keys_nodup, h.index_perm.mem_iff]
  simp only [List.mem_map, Node.entry, Prod.mk.injEq]
  constructor
  · rintro ⟨m, hm, hk, rfl⟩
    exact ⟨hm, hk⟩
  · rintro ⟨hn, hk⟩
    exact ⟨n, hn, hk, rfl⟩

theorem Lists.find?_eq_none_iff (h : s.Lists l) {k : RuleKey} :
    s.find? k = none ↔ ∀ n ∈ l, n.rule.key ≠ k := by
  rw [Option.eq_none_iff_forall_ne_some]
  constructor
  · intro hk n hn he
    exact hk n (h.find?_eq_some_iff.2 ⟨hn, he⟩)
  · intro hk n hn
    obtain ⟨hm, he⟩ := h.find?_eq_some_iff.1 hn
    exact hk n hm he

/-- The counter is zero exactly if there is nothing. -/
theorem Lists.count_eq_zero_iff (h : s.Lists l) : s.count = 0 ↔ l = [] := by
  rw [← List.length_eq_zero_iff, ← h.count_eq, ← UInt32.toNat_inj]
  rfl

/-! ### The parts that a change edits -/

theorem bucket_setSlot (s : Store) (i : Fin bucketCount) (ns : List Node) (p : Nat) :
    (s.setSlot i ns).bucket p = if p = i.val then ns else s.bucket p := by
  have hlen : s.buckets.toList.length = bucketCount := Vector.length_toList
  unfold bucket setSlot
  rw [Vector.toList_set]
  by_cases hp : p = i.val
  · subst hp
    simp [List.getD, hlen, i.isLt]
  · simp [List.getD, hp, Ne.symm hp]

theorem slotNodes_eq (s : Store) (i : Fin bucketCount) : s.slotNodes i = s.bucket i.val := by
  have hlen : i.val < s.buckets.toList.length := by rw [Vector.length_toList]; exact i.isLt
  unfold slotNodes bucket
  rw [List.getD, List.getElem?_eq_getElem hlen, Option.getD_some, Vector.getElem_toList]
  rfl

/-- A slot without a node of the list is the slot of the list without the node. -/
theorem Lists.slotWithout_eq (h : s.Lists (l₁ ++ old :: l₂)) (i : Fin bucketCount) :
    s.slotWithout i old = (l₁ ++ l₂).filter fun n => n.rule.precedence.toNat = i.val := by
  rw [slotWithout, slotNodes_eq, h.bucket_eq, ← filter_ne_of_nodup h.serials_nodup,
    List.filter_filter, List.filter_filter]
  exact List.filter_congr fun n _ => Bool.and_comm _ _

/-- The index without a key is the index of the list without the node of that key. -/
theorem Lists.erase_perm (h : s.Lists l) (k : RuleKey) :
    (Keyed.erase k s.index).Perm ((l.filter fun n => n.rule.key ≠ k).map Node.entry) := by
  have hp := h.index_perm.filter fun e => decide (e.1 ≠ k)
  rwa [List.filter_map] at hp

/-- A node that is not of the list leaves all of the list in the index. -/
theorem Lists.put_perm (h : s.Lists l) {n : Node} (hk : ∀ m ∈ l, m.rule.key ≠ n.rule.key) :
    (Keyed.put n.rule.key n s.index).Perm (n.entry :: l.map Node.entry) := by
  have hp := h.erase_perm n.rule.key
  rw [List.filter_eq_self.2 fun m hm => decide_eq_true (hk m hm)] at hp
  exact hp.cons n.entry

/-- A node with the key of a node of the list takes its place in the index. -/
theorem Lists.put_perm_of_key (h : s.Lists (l₁ ++ old :: l₂)) {n : Node}
    (hk : n.rule.key = old.rule.key) :
    (Keyed.put n.rule.key n s.index).Perm (n.entry :: (l₁ ++ l₂).map Node.entry) := by
  have hp := h.erase_perm old.rule.key
  rw [filter_ne_of_nodup (f := fun m : Node => m.rule.key) h.keys_nodup, ← hk] at hp
  exact hp.cons n.entry

/-- The serial number of a new node is unused. -/
theorem Lists.fresh_notMem (h : s.Lists l) : s.fresh ∉ l.map (·.serial) := by
  intro hm
  obtain ⟨n, hn, he⟩ := List.mem_map.1 hm
  exact absurd (h.serial_lt n hn) (by omega)

/-! ### The changes -/

/-- `insert` puts a node in front. -/
theorem Lists.insert (h : s.Lists l) (hr : r.precedence ≠ 255)
    (hk : ∀ n ∈ l, n.rule.key ≠ r.key) (room : l.length + 1 < UInt32.size) :
    (s.insert r).1.Lists (s.nodeFor r :: l) where
  bucket_eq p := by
    show (s.setSlot _ _).bucket p = _
    rw [bucket_setSlot, slotNodes_eq, slot_val hr, h.bucket_eq, h.bucket_eq]
    by_cases hp : p = r.precedence.toNat
    · subst hp
      simp [nodeFor]
    · simp [nodeFor, hp, Ne.symm hp]
  index_perm := h.put_perm (n := s.nodeFor r) hk
  count_eq := by
    show (s.count + 1).toNat = _
    rw [UInt32.toNat_add, h.count_eq, List.length_cons]
    exact Nat.mod_eq_of_lt room
  keys_nodup := by
    refine List.nodup_cons.2 ⟨fun hm => ?_, h.keys_nodup⟩
    obtain ⟨n, hn, he⟩ := List.mem_map.1 hm
    exact hk n hn he
  serials_nodup := List.nodup_cons.2 ⟨h.fresh_notMem, h.serials_nodup⟩
  serial_lt n hn := by
    rcases List.mem_cons.1 hn with rfl | hn
    · exact Nat.lt_succ_self _
    · exact Nat.lt_succ_of_lt (h.serial_lt n hn)

/-- What remains of the list when a node is taken out, with a new node in any place. -/
theorem Lists.serials_exchange (h : s.Lists (l₁ ++ old :: l₂)) (r : Rule) :
    (((s.nodeFor r) :: (l₁ ++ l₂)).map (·.serial)).Nodup ∧
      ∀ n ∈ s.nodeFor r :: (l₁ ++ l₂), n.serial < s.fresh + 1 := by
  have sub : ∀ n ∈ l₁ ++ l₂, n ∈ l₁ ++ old :: l₂ := fun n hn => (sublist_around l₁ old l₂).mem hn
  constructor
  · refine List.nodup_cons.2 ⟨fun hm => ?_, nodup_around h.serials_nodup⟩
    obtain ⟨n, hn, he⟩ := List.mem_map.1 hm
    exact h.fresh_notMem (List.mem_map.2 ⟨n, sub n hn, he⟩)
  · intro n hn
    rcases List.mem_cons.1 hn with rfl | hn
    · exact Nat.lt_succ_self _
    · exact Nat.lt_succ_of_lt (h.serial_lt n (sub n hn))

/-- `replace` exchanges a node at its place. -/
theorem Lists.replace (h : s.Lists (l₁ ++ old :: l₂)) (hk : r.key = old.rule.key)
    (hp : old.rule.precedence = r.precedence) :
    (s.replace old r).1.Lists (l₁ ++ s.nodeFor r :: l₂) where
  bucket_eq p := by
    have hold : old.rule.precedence ≠ 255 := h.precedence_ne (by simp)
    show (s.setSlot _ _).bucket p = _
    rw [bucket_setSlot, slotNodes_eq, slot_val hold, h.bucket_eq, h.bucket_eq]
    by_cases hpp : p = old.rule.precedence.toNat
    · -- the bucket of the node: its slot is a list around the node like the whole list
      subst hpp
      have around : (l₁ ++ old :: l₂).filter
          (fun n => n.rule.precedence.toNat = old.rule.precedence.toNat) =
            l₁.filter (fun n => n.rule.precedence.toNat = old.rule.precedence.toNat) ++
              old :: l₂.filter fun n => n.rule.precedence.toNat = old.rule.precedence.toNat := by
        simp
      have distinct := h.bucket_serials_nodup old.rule.precedence.toNat
      rw [h.bucket_eq, around] at distinct
      rw [if_pos rfl, around, map_exchange_of_nodup distinct]
      simp [nodeFor, hp]
    · simp [nodeFor, hpp, Ne.symm hpp, ← hp]
  index_perm := by
    rw [List.map_append, List.map_cons]
    exact (h.put_perm_of_key (n := s.nodeFor r) hk).trans
      (by rw [List.map_append]; exact List.perm_middle.symm)
  count_eq := by
    show s.count.toNat = _
    rw [h.count_eq]
    simp
  keys_nodup := by
    have he : (s.nodeFor r).rule.key = old.rule.key := hk
    have hnd := h.keys_nodup
    rw [List.map_append, List.map_cons] at hnd ⊢
    rwa [he]
  serials_nodup := (List.perm_middle.map _).nodup_iff.2 (h.serials_exchange r).1
  serial_lt n hn := (h.serials_exchange r).2 n (List.perm_middle.mem_iff.1 hn)

/-- `relocate` takes a node out and puts another in front. -/
theorem Lists.relocate (h : s.Lists (l₁ ++ old :: l₂)) (hk : r.key = old.rule.key)
    (hr : r.precedence ≠ 255) (hp : old.rule.precedence ≠ r.precedence) :
    (s.relocate old r).1.Lists (s.nodeFor r :: (l₁ ++ l₂)) where
  bucket_eq p := by
    have hold : old.rule.precedence ≠ 255 := h.precedence_ne (by simp)
    have hne : old.rule.precedence.toNat ≠ r.precedence.toNat :=
      fun e => hp (UInt8.toNat_inj.1 e)
    show ((s.setSlot _ _).setSlot _ _).bucket p = _
    rw [bucket_setSlot, bucket_setSlot, slotNodes_eq, h.slotWithout_eq, slot_val hr, slot_val hold,
      h.bucket_eq, h.bucket_eq]
    -- two slots are edited, and as they are not the same neither edit hides the other
    by_cases hpr : p = r.precedence.toNat
    · subst hpr
      simp [nodeFor, hne]
    · by_cases hpo : p = old.rule.precedence.toNat
      · subst hpo
        simp [nodeFor, hpr, Ne.symm hpr]
      · simp [nodeFor, hpr, hpo, Ne.symm hpr, Ne.symm hpo]
  index_perm := h.put_perm_of_key (n := s.nodeFor r) hk
  count_eq := by
    -- the counter is left alone, and one node has come for one that went
    show s.count.toNat = _
    rw [h.count_eq]
    simp
    omega
  keys_nodup := by
    have he : (s.nodeFor r).rule.key = old.rule.key := hk
    refine List.nodup_cons.2 ⟨fun hm => ?_, nodup_around h.keys_nodup⟩
    obtain ⟨n, hn, hne⟩ := List.mem_map.1 hm
    exact ne_of_nodup_middle (f := fun m : Node => m.rule.key) h.keys_nodup hn (hne.trans he)
  serials_nodup := (h.serials_exchange r).1
  serial_lt := (h.serials_exchange r).2

/-- `remove` takes a node out. -/
theorem Lists.remove (h : s.Lists (l₁ ++ old :: l₂)) :
    ∃ w, s.remove old.rule.key = some (w, old) ∧ w.Lists (l₁ ++ l₂) := by
  have found : s.find? old.rule.key = some old :=
    h.find?_eq_some_iff.2 ⟨by simp, rfl⟩
  have hold : old.rule.precedence ≠ 255 := h.precedence_ne (by simp)
  refine ⟨_, by rw [Store.remove, found]; rfl, ?_⟩
  constructor
  · intro p
    show (s.setSlot _ _).bucket p = _
    rw [bucket_setSlot, h.slotWithout_eq, slot_val hold, h.bucket_eq]
    by_cases hp : p = old.rule.precedence.toNat
    · rw [if_pos hp, hp]
    · simp [hp, Ne.symm hp]
  · have hp := h.erase_perm old.rule.key
    rwa [filter_ne_of_nodup (f := fun m : Node => m.rule.key) h.keys_nodup] at hp
  · show (s.count - 1).toNat = _
    have hlen := h.count_eq
    rw [List.length_append, List.length_cons] at hlen
    rw [UInt32.toNat_sub_of_le _ _ (by rw [UInt32.le_iff_toNat_le, hlen]; simp; omega), hlen,
      List.length_append]
    rfl
  · exact nodup_around h.keys_nodup
  · exact nodup_around h.serials_nodup
  · intro n hn
    exact h.serial_lt n ((sublist_around l₁ old l₂).mem hn)

/-- A key of no node is not found for removal. -/
theorem Lists.remove_eq_none (h : s.Lists l) {k : RuleKey} (hk : ∀ n ∈ l, n.rule.key ≠ k) :
    s.remove k = none := by
  rw [Store.remove, h.find?_eq_none_iff.2 hk]
  rfl

/-- `clear` leaves nothing, and tells how much there was. -/
theorem Lists.clear (h : s.Lists l) : s.clear.1.Lists [] ∧ s.clear.2.toNat = l.length := by
  refine ⟨?_, h.count_eq⟩
  exact { lists_empty with serial_lt := by simp }

end Store

end PacketPriority
