import PacketPriority.Proofs.Store.Ranking
import PacketPriority.Proofs.Table.Run

/-!
A rule table is one list of rules.

The ledger of a table is a plain list of rules, the one placed last first. What a call does to it
is said here without buckets, index, counter or writer:

* a rule under a new key goes in front, and precedence 255 is kept as 0;
* a rule under a live key takes the place of the old one if the precedence is the same, and goes in
  front with the old one taken out if it is another;
* a deleted key is taken out, and a flush leaves nothing.

`Table.Mirrors` relates a table that stands idle to its ledger, every call keeps the relation and
reports what the ledger says (`Mirrors.operate`), and a table that mirrors a ledger shows it to
every reader (`Mirrors.shows`). The main result puts the two together for whole runs: from the empty
table on, each report is the one of the ledger and each table shows its ledger
(`trace_matches_ledger`).
-/

namespace PacketPriority

/-! ### The ledger -/

namespace Ledger

/-- A rule as it is kept: precedence 255 stands for 0. -/
def lowered (r : Rule) : Rule := if r.precedence = 255 then { r with precedence := 0 } else r

/-- Whether a rule differs in anything but precedence from the one it replaces. -/
def changes (old r : Rule) : Bool := { old with precedence := r.precedence } != r

def rule? (l : List Rule) (k : RuleKey) : Option Rule := l.find? fun r => r.key = k

/-- The rules of other keys. -/
def without (l : List Rule) (k : RuleKey) : List Rule := l.filter fun r => r.key ≠ k

/-- The rules with one of them exchanged at its place. -/
def exchange (l : List Rule) (r : Rule) : List Rule := l.map fun s => if s.key = r.key then r else s

/-- Places a rule. -/
def place (l : List Rule) (r : Rule) : List Rule × Outcome :=
  match rule? l r.key with
  | none => (r :: l, .added)
  | some old =>
    if old.precedence = r.precedence then (exchange l r, .modified (changes old r))
    else (r :: without l r.key, .moved old.precedence (changes old r))

/-- Serves a request, the checks in their order. -/
def serve (limits : Limits) (l : List Rule) (q : Request) :
    Except UpdateError (List Rule × Outcome) :=
  match q.command with
  | .add =>
    if limits.ruleMax.toNat ≤ l.length then .error .tableFull
    else if 10 ≤ q.rule.treatment.output then .error .invalidEntry
    else .ok (place l (lowered q.rule))
  | .delete =>
    if l = [] then .error .tableEmpty
    else if rule? l q.key = none then .error .ruleNotFound
    else .ok (without l q.key, .deleted)
  | .unknown _ => .error .unknownCommand

def update (limits : Limits) (l : List Rule) : Option Request → List Rule × UpdateResult
  | none => (l, .error .nullRequest)
  | some q =>
    match serve limits l q with
    | .error e => (l, .error e)
    | .ok (l', outcome) => (l', .ok outcome)

def load (limits : Limits) (l : List Rule) :
    List Request → List Rule × List (RuleKey × UpdateResult)
  | [] => (l, [])
  | q :: rest =>
    let (l, r) := update limits l (some q)
    let (l, results) := load limits l rest
    (l, (q.key, r) :: results)

/-- The ledger after a call, and what the call reports. -/
def operate (limits : Limits) (l : List Rule) : Operation → List Rule × Report
  | .update q => ((update limits l q).1, .updated (update limits l q).2)
  | .apply q => ((update limits l (some q)).1, .updated (update limits l (some q)).2)
  | .load qs => ((load limits l qs).1, .loaded (load limits l qs).2)
  | .flush | .shutdown => ([], .flushed (.ok l.length))
  | .classify _ | .register _ | .unregister _ | .withdraw _ => (l, .done)

/-- The reports of a list of calls, each with the ledger after the call. -/
def trace (limits : Limits) (l : List Rule) : List Operation → List (Report × List Rule)
  | [] => []
  | op :: rest =>
    ((operate limits l op).2, (operate limits l op).1) :: trace limits (operate limits l op).1 rest

theorem lowered_precedence_ne (r : Rule) : (lowered r).precedence ≠ 255 := by
  unfold lowered
  split
  · show (0 : UInt8) ≠ 255
    decide
  · assumption

theorem stored_eq_lowered (r : Rule) : Store.stored r = lowered r := by
  unfold Store.stored Store.storedPrecedence lowered
  split <;> rfl

/-- Under one key, rules differ in their payload if they differ in anything but precedence. -/
theorem differsInPayload_eq_changes {old r : Rule} (h : old.key = r.key) :
    old.differsInPayload r = changes old r := by
  unfold changes
  rcases hd : old.differsInPayload r with - | -
  · have same := Rule.eq_of_not_differsInPayload
      (r := { old with precedence := r.precedence }) h rfl hd
    simp [same]
  · refine (bne_iff_ne.2 fun e => ?_).symm
    rw [← e] at hd
    simp [Rule.differsInPayload] at hd

end Ledger

/-! ### What a store makes of a request -/

namespace Store

variable {s : Store} {limits : Limits} {l l₁ l₂ : List Node} {old : Node} {r : Rule}

/-- The store keeps a list of nodes that a table with these limits takes. -/
structure Keeps (s : Store) (limits : Limits) (l : List Node) : Prop extends s.Lists l where
  length_le : l.length ≤ limits.ruleMax.toNat
  output_le : ∀ n ∈ l, n.rule.treatment.output ≤ PrioritySource.maxCode

/-- Whether a writer is at work has no part in it. -/
theorem Keeps.setWriting (h : s.Keeps limits l) (b : Bool) :
    { s with writing := b }.Keeps limits l := { h with }

theorem Keeps.beginWrite {w : Store} (h : s.Keeps limits l) (hw : s.beginWrite = some w) :
    w.Keeps limits l := by
  obtain ⟨-, rfl⟩ := beginWrite_eq_some_iff.1 hw
  exact h.setWriting true

theorem Lists.rule?_eq (h : s.Lists l) (k : RuleKey) :
    Ledger.rule? (l.map (·.rule)) k = (s.find? k).map (·.rule) := by
  rw [Ledger.rule?, List.find?_map, h.find?_eq]
  rfl

theorem Lists.rule_keys_nodup (h : s.Lists (l₁ ++ old :: l₂)) :
    ((l₁.map (·.rule) ++ old.rule :: l₂.map (·.rule)).map Rule.key).Nodup := by
  simpa [Function.comp_def] using h.keys_nodup

/-- Exchanging a rule in the ledger exchanges the node of its key. -/
theorem Lists.exchange_eq (h : s.Lists (l₁ ++ old :: l₂)) (hk : r.key = old.rule.key) (n : Nat) :
    Ledger.exchange ((l₁ ++ old :: l₂).map (·.rule)) r =
      (l₁ ++ (⟨n, r⟩ : Node) :: l₂).map (·.rule) := by
  have he := map_exchange_of_nodup h.rule_keys_nodup r
  rw [Ledger.exchange, List.map_append, List.map_cons, hk, he, List.map_append, List.map_cons]

/-- Taking a key out of the ledger takes out the node of that key. -/
theorem Lists.without_eq (h : s.Lists (l₁ ++ old :: l₂)) :
    Ledger.without ((l₁ ++ old :: l₂).map (·.rule)) old.rule.key =
      (l₁ ++ l₂).map (·.rule) := by
  have he := filter_ne_of_nodup h.rule_keys_nodup
  rw [Ledger.without, List.map_append, List.map_cons, he, List.map_append]

/-- The list with a node in front, or exchanged, is one that the table takes. -/
theorem Keeps.of_cons (h : s.Keeps limits l) {l' : List Node} {w : Store} {n : Node}
    (hw : w.Lists l') (hlen : l'.length ≤ limits.ruleMax.toNat)
    (hn : n.rule.treatment.output ≤ PrioritySource.maxCode)
    (hmem : ∀ m ∈ l', m = n ∨ m ∈ l) : w.Keeps limits l' :=
  { hw with
    length_le := hlen
    output_le := fun m hm => by
      rcases hmem m hm with rfl | hm
      · exact hn
      · exact h.output_le m hm }

/-- Placing a rule does to the store what it does to the ledger. -/
theorem Keeps.place (h : s.Keeps limits l) (hr : r.precedence ≠ 255)
    (hout : r.treatment.output ≤ PrioritySource.maxCode) (room : l.length < limits.ruleMax.toNat) :
    ∃ l', (s.place r).store.Keeps limits l' ∧
      Ledger.place (l.map (·.rule)) r = (l'.map (·.rule), (s.place r).outcome) := by
  have hmax : limits.ruleMax.toNat < UInt32.size := limits.ruleMax.toNat_lt
  have hfind := h.rule?_eq r.key
  rcases e : s.find? r.key with - | old
  · -- a new key
    rw [e] at hfind
    have absent := h.find?_eq_none_iff.1 e
    refine ⟨s.nodeFor r :: l, ?_, ?_⟩
    · rw [place_of_new e]
      exact h.of_cons (n := s.nodeFor r) (h.insert hr absent (by omega))
        (by rw [List.length_cons]; omega) hout (by simp)
    · rw [Ledger.place, hfind, place_of_new e]
      rfl
  · -- a live key: its node stands somewhere in the list
    rw [e] at hfind
    obtain ⟨hold, hkey⟩ := h.find?_eq_some_iff.1 e
    obtain ⟨l₁, l₂, rfl⟩ := List.append_of_mem hold
    have hlen : (l₁ ++ old :: l₂).length = (l₁ ++ l₂).length + 1 := by
      simp
      omega
    by_cases hp : old.rule.precedence = r.precedence
    · refine ⟨l₁ ++ s.nodeFor r :: l₂, ?_, ?_⟩
      · rw [place_of_same e hp]
        exact h.of_cons (n := s.nodeFor r) (h.replace hkey.symm hp) (by simpa using h.length_le)
          hout (by simp; tauto)
      · rw [Ledger.place, hfind, place_of_same e hp, Ledger.differsInPayload_eq_changes hkey]
        simp only [Option.map_some, if_pos hp, h.exchange_eq hkey.symm s.fresh]
        rfl
    · refine ⟨s.nodeFor r :: (l₁ ++ l₂), ?_, ?_⟩
      · rw [place_of_other e hp]
        exact h.of_cons (n := s.nodeFor r) (h.relocate hkey.symm hr hp)
          (by rw [List.length_cons]; omega) hout (by simp; tauto)
      · rw [Ledger.place, hfind, place_of_other e hp, Ledger.differsInPayload_eq_changes hkey]
        simp only [Option.map_some, if_neg hp, ← hkey, h.without_eq]
        rfl

/-- **Serving a request does to the store what it does to the ledger.** -/
theorem Keeps.serve (h : s.Keeps limits l) (q : Request) :
    (∃ e, s.serve limits q = .error e ∧ Ledger.serve limits (l.map (·.rule)) q = .error e) ∨
      ∃ c l', s.serve limits q = .ok c ∧ c.store.Keeps limits l' ∧
        Ledger.serve limits (l.map (·.rule)) q = .ok (l'.map (·.rule), c.outcome) := by
  -- store and ledger make the same checks in the same order
  unfold Store.serve Ledger.serve
  cases q.command with
  | add =>
    have hcount : limits.ruleMax ≤ s.count ↔ limits.ruleMax.toNat ≤ (l.map (·.rule)).length := by
      rw [UInt32.le_iff_toNat_le, h.count_eq, List.length_map]
    rcases UInt32.lt_or_le s.count limits.ruleMax with room | full
    · have free := mt hcount.2 (UInt32.not_le.2 room)
      rcases UInt8.lt_or_le q.rule.treatment.output 10 with code | code
      · have payload : (Ledger.lowered q.rule).treatment = q.rule.treatment := by
          unfold Ledger.lowered
          split <;> rfl
        obtain ⟨l', hkeeps, hplace⟩ := h.place (Ledger.lowered_precedence_ne q.rule)
          (by rw [payload]; exact PrioritySource.le_maxCode_iff.2 code)
          (by rw [List.length_map] at free; exact Nat.lt_of_not_le free)
        refine .inr ⟨s.place (stored q.rule), l', add_of_room room code, ?_, ?_⟩
        · rwa [Ledger.stored_eq_lowered]
        · simp only [if_neg free, if_neg (UInt8.not_le.2 code)]
          rw [hplace, Ledger.stored_eq_lowered]
      · exact .inl ⟨.invalidEntry, add_of_code room code, by simp only [if_neg free, if_pos code]⟩
    · exact .inl ⟨.tableFull, add_of_full full, if_pos (hcount.1 full)⟩
  | delete =>
    have hcount : s.count = 0 ↔ l.map (·.rule) = [] := by
      rw [List.map_eq_nil_iff, h.count_eq_zero_iff]
    have hfind := h.rule?_eq q.key
    by_cases hempty : s.count = 0
    · exact .inl ⟨.tableEmpty, delete_of_empty hempty, if_pos (hcount.1 hempty)⟩
    · have nonempty := mt hcount.2 hempty
      rcases e : s.find? q.key with - | old
      · rw [e] at hfind
        have absent := h.remove_eq_none (h.find?_eq_none_iff.1 e)
        refine .inl ⟨.ruleNotFound, delete_of_absent hempty absent, ?_⟩
        simp only [if_neg nonempty, hfind]
        rfl
      · -- a live key: its node stands somewhere in the list
        obtain ⟨hold, hkey⟩ := h.find?_eq_some_iff.1 e
        obtain ⟨l₁, l₂, rfl⟩ := List.append_of_mem hold
        obtain ⟨w, hremove, hlists⟩ := h.toLists.remove
        rw [hkey] at hremove
        rw [e, ← hkey] at hfind
        refine .inr ⟨⟨w, .deleted, ⟨.remove, old.rule⟩⟩, l₁ ++ l₂,
          delete_of_present hempty hremove, ?_, ?_⟩
        · have hlen := h.length_le
          simp only [List.length_append, List.length_cons] at hlen
          refine { hlists with length_le := ?_, output_le := fun n hn => ?_ }
          · rw [List.length_append]
            omega
          · exact h.output_le n ((sublist_around l₁ old l₂).mem hn)
        · simp only [if_neg nonempty, ← hkey, hfind, h.without_eq]
          rfl
  | unknown code => exact .inl ⟨.unknownCommand, rfl, rfl⟩

end Store

/-! ### What a call makes of a table -/

namespace Table

variable {t u : Table} {limits : Limits} {l : List Rule}

/-- The table stands idle, has these limits, and keeps the rules of the ledger. -/
structure Mirrors (t : Table) (limits : Limits) (l : List Rule) : Prop where
  limits_eq : t.limits = limits
  idle : t.store.writing = false
  keeps : ∃ nodes, t.store.Keeps limits nodes ∧ nodes.map (·.rule) = l

namespace Mirrors

theorem new (limits : Limits) : (Table.new limits).Mirrors limits [] where
  limits_eq := rfl
  idle := rfl
  keeps := ⟨[], { Store.lists_empty with length_le := by simp, output_le := by simp }, rfl⟩

theorem of_sameRules (h : t.Mirrors limits l) (same : t.SameRules u) : u.Mirrors limits l where
  limits_eq := by rw [same.limits, h.limits_eq]
  idle := by rw [same.store, h.idle]
  keeps := by rw [same.store]; exact h.keeps

/-- **An update does to the table what it does to the ledger**, whoever is told of it, as long as
they leave the rules alone. -/
theorem updateTelling {tell : Table → Event → Table}
    (told : ∀ {u : Table} (e : Event), u.store.writing = true → u.SameRules (tell u e))
    (h : t.Mirrors limits l) (q : Option Request) :
    (t.updateTelling tell q).1.Mirrors limits (Ledger.update limits l q).1 ∧
      (t.updateTelling tell q).2 = (Ledger.update limits l q).2 := by
  rcases q with - | q
  · exact ⟨h.of_sameRules (t.settle_sameRules _ _), rfl⟩
  · obtain ⟨nodes, hkeeps, rfl⟩ := h.keeps
    have hw := Store.beginWrite_of_idle h.idle
    rcases (hkeeps.beginWrite hw).serve q with ⟨e, hs, hl⟩ | ⟨c, nodes', hs, hkeeps', hl⟩
    · rw [← h.limits_eq] at hs
      rw [updateTelling_of_error tell hw hs, Ledger.update, hl]
      exact ⟨h.of_sameRules (t.settle_sameRules _ _), rfl⟩
    · have published : c.store.writing = true := Store.serve_writing hs
      -- observers have been told by then, and have changed no rule
      have served := commit_sameRules told (t := t) published
      rw [← h.limits_eq] at hs
      rw [updateTelling_of_ok tell hw hs, Ledger.update, hl]
      refine ⟨?_, rfl⟩
      refine of_sameRules ?_ (served.trans ((t.commit tell c).settle_sameRules _ _))
      exact ⟨h.limits_eq, rfl, nodes', hkeeps'.setWriting false, rfl⟩

theorem update (h : t.Mirrors limits l) (q : Option Request) :
    (t.update q).1.Mirrors limits (Ledger.update limits l q).1 ∧
      (t.update q).2 = (Ledger.update limits l q).2 :=
  h.updateTelling (fun e hu => notifyBy_sameRules Observer.reaction hu e) q

theorem load (h : t.Mirrors limits l) (qs : List Request) :
    (t.load qs).1.Mirrors limits (Ledger.load limits l qs).1 ∧
      (t.load qs).2 = (Ledger.load limits l qs).2 := by
  induction qs generalizing t l with
  | nil => exact ⟨h, rfl⟩
  | cons q rest ih =>
    obtain ⟨hfirst, hresult⟩ := h.update (some q)
    obtain ⟨hrest, hresults⟩ := ih hfirst
    refine ⟨hrest, ?_⟩
    show (q.key, (t.update (some q)).2) :: ((t.update (some q)).1.load rest).2 = _
    rw [hresult, hresults]
    rfl

theorem flush (h : t.Mirrors limits l) :
    t.flush.1.Mirrors limits [] ∧ t.flush.2.map UInt32.toNat = .ok l.length := by
  obtain ⟨nodes, hkeeps, rfl⟩ := h.keeps
  have hw := Store.beginWrite_of_idle h.idle
  obtain ⟨hempty, hremoved⟩ := (hkeeps.beginWrite hw).clear
  simp only [Table.flush, hw]
  refine ⟨⟨h.limits_eq, rfl, [], ?_, rfl⟩, ?_⟩
  · exact { hempty with length_le := by simp, output_le := by simp }
  · rw [List.length_map, ← hremoved]
    rfl

/-- **Every call does to the table what it does to the ledger**, and reports the same. -/
theorem operate (h : t.Mirrors limits l) (op : Operation) :
    (t.operate op).1.Mirrors limits (Ledger.operate limits l op).1 ∧
      (t.operate op).2 = (Ledger.operate limits l op).2 := by
  cases op with
  | update q =>
    obtain ⟨hm, hr⟩ := h.update q
    exact ⟨hm, congrArg Report.updated hr⟩
  | apply q =>
    obtain ⟨hm, hr⟩ := h.update (some q)
    exact ⟨hm, congrArg Report.updated hr⟩
  | load qs =>
    obtain ⟨hm, hr⟩ := h.load qs
    exact ⟨hm, congrArg Report.loaded hr⟩
  | flush | shutdown =>
    obtain ⟨hm, hr⟩ := h.flush
    exact ⟨hm, congrArg Report.flushed hr⟩
  | classify p | register o | unregister tag | withdraw number =>
    exact ⟨h.of_sameRules ⟨rfl, rfl⟩, rfl⟩

end Mirrors

/-! ### What a table shows of its ledger -/

/-- Every reader of the table is answered from the ledger. -/
structure Shows (t : Table) (l : List Rule) : Prop where
  dump_eq : t.dump = Rule.ranked l
  query_eq : ∀ k, t.query k = l.find? fun r => r.key = k
  count_eq : t.count.toNat = l.length
  stats_rules : t.stats.rules.toNat = l.length
  stats_perKind : t.stats.perKind = RuleKind.all.map fun k => (k, l.countP (·.kind = k))
  stats_occupiedBuckets : t.stats.occupiedBuckets = (l.map (·.precedence)).dedup.length

theorem Shows.of_keeps {nodes : List Node} (h : t.store.Keeps limits nodes) :
    t.Shows (nodes.map (·.rule)) := by
  have hcount : t.count.toNat = (nodes.map (·.rule)).length := by
    rw [List.length_map, ← h.count_eq]
    rfl
  exact
    { dump_eq := t.store.dump_eq_rules.trans h.rules_eq
      query_eq := fun k => (h.rule?_eq k).symm
      count_eq := hcount
      stats_rules := hcount
      stats_perKind := h.perKind_eq
      stats_occupiedBuckets := h.occupiedBuckets_eq }

theorem Shows.mem_dump_iff (h : t.Shows l) {r : Rule} : r ∈ t.dump ↔ r ∈ l := by
  rw [h.dump_eq]
  exact (Rule.ranked_perm l).mem_iff

theorem Mirrors.shows (h : t.Mirrors limits l) : t.Shows l := by
  obtain ⟨nodes, hkeeps, rfl⟩ := h.keeps
  exact .of_keeps hkeeps

/-! ### Runs -/

theorem Mirrors.trace (h : t.Mirrors limits l) (ops : List Operation) :
    List.Forall₂ (fun seen expected => seen.1 = expected.1 ∧ seen.2.Mirrors limits expected.2)
      (t.trace ops) (Ledger.trace limits l ops) := by
  induction ops generalizing t l with
  | nil => exact .nil
  | cons op rest ih =>
    obtain ⟨hm, hr⟩ := h.operate op
    exact .cons ⟨hr, hm⟩ (ih hm)

/-- **A rule table is one list of rules.** For all limits and all lists of calls, with any
observers, on an empty table: each call reports what the ledger reports, and after each call the
table shows the ledger. -/
theorem trace_matches_ledger (limits : Limits) (ops : List Operation) :
    List.Forall₂ (fun seen expected => seen.1 = expected.1 ∧ seen.2.Shows expected.2)
      ((Table.new limits).trace ops) (Ledger.trace limits [] ops) :=
  ((Mirrors.new limits).trace ops).imp fun _ _ ⟨hr, hm⟩ => ⟨hr, hm.shows⟩

end Table

end PacketPriority
