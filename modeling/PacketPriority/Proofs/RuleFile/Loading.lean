import PacketPriority.Proofs.Ledger.Batch
import PacketPriority.Proofs.RuleFile.EntryRule
import PacketPriority.RuleFile.Load

/-!
What a rule file does to an empty table.

Of the entries of one key the first counts (`firsts`). A file that loads, as `Loads` says, gives the
requests of the entries that count and no others (`load_eq_ok_iff`). They have keys of their own,
and there are no more of them than the table takes; so an entry that adds always adds its rule, and
one that deletes never finds what it is to delete (`outcomes`). This is shown on the ledger of a
table, along the entries (`ledger_load`).
-/

namespace PacketPriority

namespace RuleFile

/-! ### The entries that count -/

/-- The entries that count: of each key the first. -/
def firsts : List Entry → List Entry
  | [] => []
  | e :: rest => e :: (firsts rest).filter fun f => f.key ≠ e.key

/-- Those of them that add a rule. -/
def added (es : List Entry) : List Entry := (firsts es).filter fun e => e.command = .add

variable {es : List Entry}

theorem mem_of_mem_firsts {e : Entry} (h : e ∈ firsts es) : e ∈ es := by
  induction es with
  | nil => exact h
  | cons a rest ih =>
    rcases List.mem_cons.1 h with rfl | h
    · exact List.mem_cons_self
    · exact List.mem_cons_of_mem _ (ih (List.mem_of_mem_filter h))

theorem length_firsts_le (es : List Entry) : (firsts es).length ≤ es.length := by
  induction es with
  | nil => exact Nat.le_refl _
  | cons e rest ih => exact Nat.succ_le_succ ((List.length_filter_le _ _).trans ih)

theorem firsts_keys_nodup (es : List Entry) : ((firsts es).map Entry.key).Nodup := by
  induction es with
  | nil => exact .nil
  | cons e rest ih =>
    rw [firsts, List.map_cons, List.nodup_cons]
    refine ⟨fun hmem => ?_, ih.sublist (List.filter_sublist.map _)⟩
    obtain ⟨f, hf, same⟩ := List.mem_map.1 hmem
    simpa [same] using (List.mem_filter.1 hf).2

section

variable {e : Entry} {rest : List Entry} {seen : List RuleKey}

/-- Of a key that has been seen nothing further down counts either. -/
theorem filter_firsts_of_mem (h : e.key ∈ seen) :
    ((firsts (e :: rest)).filter fun f => f.key ∉ seen) =
      (firsts rest).filter fun f => f.key ∉ seen := by
  rw [firsts, List.filter_cons_of_neg (by simpa using h), List.filter_filter]
  refine List.filter_congr fun f _ => ?_
  by_cases hf : f.key ∈ seen
  · simp [hf]
  · have other : f.key ≠ e.key := fun same => hf (same ▸ h)
    simp [hf, other]

/-- An entry of a new key counts, and from then on its key is one that has been seen. -/
theorem filter_firsts_of_notMem (h : e.key ∉ seen) :
    ((firsts (e :: rest)).filter fun f => f.key ∉ seen) =
      e :: (firsts rest).filter fun f => f.key ∉ e.key :: seen := by
  rw [firsts, List.filter_cons_of_pos (by simpa using h), List.filter_filter]
  refine congrArg _ (List.filter_congr fun f _ => ?_)
  simp [Bool.and_comm]

end

/-! ### The requests of a file -/

/-- **The requests of a file are those of the entries that count**, and no entry is at fault. -/
theorem requestsFrom_eq_ok_iff {seen : List RuleKey} {qs : List Request} :
    requestsFrom seen es = .ok qs ↔ (∀ e ∈ es, ∃ q, e.toRequest = .ok q) ∧
      qs = ((firsts es).filter fun e => e.key ∉ seen).map Entry.request := by
  -- on the entries, for all keys that may have been seen before them
  induction es generalizing seen qs with
  | nil => simp [requestsFrom, firsts, eq_comm]
  | cons e rest ih =>
    rw [requestsFrom, List.forall_mem_cons]
    rcases hq : e.toRequest with fault | q
    · simp
    · obtain ⟨rfl, -⟩ := Entry.toRequest_eq_ok hq
      have accepted : ∃ q, Except.ok (ε := EntryError) e.request = .ok q := ⟨_, rfl⟩
      simp only [Entry.key_request]
      by_cases hseen : e.key ∈ seen
      · rw [if_pos (List.contains_iff_mem.2 hseen), ih, filter_firsts_of_mem hseen]
        simp only [accepted, true_and]
      · rw [if_neg (by simpa using hseen), filter_firsts_of_notMem hseen, List.map_cons]
        constructor
        · intro h
          rcases hrest : requestsFrom (e.key :: seen) rest with fault | qs'
          · rw [hrest] at h
            cases h
          · rw [hrest] at h
            cases h
            obtain ⟨others, rfl⟩ := ih.1 hrest
            exact ⟨⟨accepted, others⟩, rfl⟩
        · rintro ⟨⟨-, others⟩, rfl⟩
          rw [ih.2 ⟨others, rfl⟩]
          rfl

/-- Entries that are accepted name sources of priority. -/
theorem outputs_of_accepted (accepted : ∀ e ∈ es, ∃ q, e.toRequest = .ok q) :
    ∀ e ∈ es, e.command = .add → e.output ≤ PrioritySource.maxCode := by
  intro e he
  obtain ⟨q, hq⟩ := accepted e he
  exact (Entry.toRequest_eq_ok hq).2

theorem requestsFrom_eq_ok {seen : List RuleKey} {qs : List Request}
    (h : requestsFrom seen es = .ok qs) :
    qs = ((firsts es).filter fun e => e.key ∉ seen).map Entry.request ∧
      ∀ e ∈ es, e.command = .add → e.output ≤ PrioritySource.maxCode := by
  obtain ⟨accepted, hqs⟩ := requestsFrom_eq_ok_iff.1 h
  exact ⟨hqs, outputs_of_accepted accepted⟩

/-- **A text is parsed as the requests of the entries that count**, or not at all. -/
theorem parse_eq_ok_iff {max : Nat} {text source : String} {qs : List Request} :
    parse max text source = .ok qs ↔
      ∃ es, decode text = .ok es ∧ es.length ≤ max ∧ (∀ e ∈ es, ∃ q, e.toRequest = .ok q) ∧
        qs = (firsts es).map Entry.request := by
  rcases hd : decode text with e | es
  · simp [parse, hd]
  · have all : requestsFrom [] es = .ok qs ↔
        (∀ e ∈ es, ∃ q, e.toRequest = .ok q) ∧ qs = (firsts es).map Entry.request := by
      have iff : requestsFrom [] es = .ok qs ↔ _ := requestsFrom_eq_ok_iff
      simpa using iff
    simp only [parse, hd, requests]
    by_cases many : max < es.length
    · simp [many]
    · simp [many, all, Nat.not_lt.1 many]

theorem map_key_request (es : List Entry) :
    (es.map Entry.request).map Request.key = es.map Entry.key := by
  rw [List.map_map]
  exact List.map_congr_left fun e _ => e.key_request

/-- No two requests of a text are of one key. -/
theorem parse_keys_nodup {max : Nat} {text source : String} {qs : List Request}
    (h : parse max text source = .ok qs) : (qs.map Request.key).Nodup := by
  obtain ⟨es, -, -, -, rfl⟩ := parse_eq_ok_iff.1 h
  rw [map_key_request]
  exact firsts_keys_nodup es

/-- What stands under a path is a rule file that loads: a text of at most 10 MiB that holds entries,
at most so many, and each of them is accepted. -/
structure Loads (max : Nat) (document : Document) (es : List Entry) : Prop where
  readable : ∃ size text, document = .text size text ∧ size ≤ 10 * 1024 * 1024 ∧
    decode text = .ok es
  few : es.length ≤ max
  accepted : ∀ e ∈ es, ∃ q, e.toRequest = .ok q

/-- A text loads if each of its entries is accepted as the request that it stands for. -/
theorem Loads.of_text {max size : Nat} {text : String} (small : size ≤ 10 * 1024 * 1024)
    (decoded : decode text = .ok es) (few : es.length ≤ max)
    (accepted : ∀ e ∈ es, e.toRequest = .ok e.request) : Loads max (.text size text) es where
  readable := ⟨size, text, rfl, small, decoded⟩
  few := few
  accepted e he := ⟨e.request, accepted e he⟩

/-- **A rule file is loaded as the requests of the entries that count**, or not at all. -/
theorem load_eq_ok_iff {max : Nat} {path : String} {document : Document} {qs : List Request} :
    load max path document = .ok qs ↔
      ∃ es, Loads max document es ∧ qs = (firsts es).map Entry.request := by
  constructor
  · intro h
    rcases document with e | ⟨size, e⟩ | ⟨size, text⟩
    · cases h
    · simp only [load] at h
      split at h <;> cases h
    · simp only [load] at h
      split at h
      · cases h
      · rename_i small
        obtain ⟨es, hd, few, accepted, hqs⟩ := parse_eq_ok_iff.1 h
        exact ⟨es, ⟨⟨size, text, rfl, Nat.not_lt.1 small, hd⟩, few, accepted⟩, hqs⟩
  · rintro ⟨es, ⟨⟨size, text, rfl, small, hd⟩, few, accepted⟩, hqs⟩
    have fits : ¬ maxBytes < size := Nat.not_lt.2 small
    rw [load, if_neg fits]
    exact parse_eq_ok_iff.2 ⟨es, hd, few, accepted, hqs⟩

/-- A file that is loaded is a text, whose entries there are no more of than the table takes. -/
theorem load_eq_ok {max : Nat} {path : String} {document : Document} {qs : List Request}
    (h : load max path document = .ok qs) :
    ∃ size text es, document = .text size text ∧ decode text = .ok es ∧ es.length ≤ max ∧
      requestsFrom [] es = .ok qs := by
  obtain ⟨es, ⟨⟨size, text, hdocument, -, hd⟩, few, accepted⟩, hqs⟩ := load_eq_ok_iff.1 h
  exact ⟨size, text, es, hdocument, hd, few,
    requestsFrom_eq_ok_iff.2 ⟨accepted, by simpa using hqs⟩⟩

/-! ### What becomes of the requests -/

/-- The rule of an entry as a table keeps it. -/
def kept (e : Entry) : Rule := Ledger.lowered e.rule

theorem kept_key (e : Entry) : (kept e).key = e.key := by
  rw [← e.key_rule, kept, Ledger.lowered]
  split <;> rfl

/-- What becomes of the requests of entries with keys of their own, one after another: an entry that
adds does so, and one that deletes finds no rule of its key, or no rule at all. -/
def outcomes (occupied : Bool) : List Entry → List (RuleKey × UpdateResult)
  | [] => []
  | e :: rest =>
    match e.command with
    | .add => (e.key, .ok .added) :: outcomes true rest
    | .delete =>
      (e.key, .error (if occupied then .ruleNotFound else .tableEmpty)) :: outcomes occupied rest

section

variable {limits : Limits} {l : List Rule} {e : Entry}

theorem update_add (hc : e.command = .add) (absent : Ledger.rule? l e.key = none)
    (room : l.length < limits.ruleMax.toNat) (output : e.output ≤ PrioritySource.maxCode) :
    Ledger.update limits l (some e.request) = (kept e :: l, .ok .added) := by
  have request : e.request = .add e.rule := by rw [Entry.request, hc]
  have code : e.rule.treatment.output < 10 := by
    rw [e.rule_head.2.2.2]
    exact PrioritySource.le_maxCode_iff.1 output
  have placed : Ledger.place l (kept e) = (kept e :: l, .added) := by
    rw [Ledger.place, kept_key, absent]
  have served : Ledger.update limits l (some (.add e.rule)) =
      ((Ledger.place l (kept e)).1, .ok (Ledger.place l (kept e)).2) :=
    Ledger.update_of_room rfl room code
  rw [request, served, placed]

/-- A key that is not there cannot be deleted. -/
theorem update_delete (hc : e.command = .delete) (absent : Ledger.rule? l e.key = none) :
    Ledger.update limits l (some e.request) =
      (l, .error (if !l.isEmpty then .ruleNotFound else .tableEmpty)) := by
  have request : e.request = .delete e.key := by rw [Entry.request, hc]
  have refused : Ledger.serve limits l (.delete e.key) =
      .error (if !l.isEmpty then .ruleNotFound else .tableEmpty) := by
    show (if l = [] then _ else if Ledger.rule? l e.key = none then _ else _) = _
    cases l with
    | nil => rfl
    | cons r rest => rw [if_neg (List.cons_ne_nil _ _), if_pos absent]; rfl
  rw [request, Ledger.update, refused]

/-- **Entries of new keys leave a rule each if they add one**, and the last one stands in front. -/
theorem ledger_load {es : List Entry} (nodup : (es.map Entry.key).Nodup)
    (new : ∀ e ∈ es, ∀ r ∈ l, r.key ≠ e.key)
    (outputs : ∀ e ∈ es, e.command = .add → e.output ≤ PrioritySource.maxCode)
    (room : l.length + es.length ≤ limits.ruleMax.toNat) :
    Ledger.load limits l (es.map Entry.request) =
      (((es.filter fun e => e.command = .add).map kept).reverse ++ l,
        outcomes (!l.isEmpty) es) := by
  -- on the entries, for every ledger that has none of their keys
  induction es generalizing l with
  | nil => rfl
  | cons e rest ih =>
    rw [List.map_cons, List.nodup_cons] at nodup
    rw [List.length_cons] at room
    have absent : Ledger.rule? l e.key = none :=
      List.find?_eq_none.2 fun r hr => by simpa using new e List.mem_cons_self r hr
    have others := fun f hf => outputs f (List.mem_cons_of_mem e hf)
    have still : ∀ f ∈ rest, ∀ r ∈ l, r.key ≠ f.key :=
      fun f hf => new f (List.mem_cons_of_mem e hf)
    rw [List.map_cons, Ledger.load_cons, Entry.key_request]
    rcases hc : e.command with - | -
    · -- the rule that is added has the key of the entry, which no later entry has
      have output := outputs e List.mem_cons_self hc
      have after : ∀ f ∈ rest, ∀ r ∈ kept e :: l, r.key ≠ f.key := by
        intro f hf r hr
        rcases List.mem_cons.1 hr with rfl | hr
        · rw [kept_key]
          exact fun same => nodup.1 (same ▸ List.mem_map_of_mem hf)
        · exact still f hf r hr
      have first : Ledger.update limits l (some e.request) = _ :=
        update_add hc absent (by omega) output
      have later := ih nodup.2 after others (by rw [List.length_cons]; omega)
      simp [first, later, outcomes, hc]
    · have first : Ledger.update limits l (some e.request) = _ := update_delete hc absent
      have later := ih nodup.2 still others (by omega)
      simp [first, later, outcomes, hc]

/-- The requests of a file, on an empty table that takes so many, leave the rules of the entries
that add one. -/
theorem load_firsts {es : List Entry}
    (outputs : ∀ e ∈ es, e.command = .add → e.output ≤ PrioritySource.maxCode)
    (room : es.length ≤ limits.ruleMax.toNat) :
    Ledger.load limits [] ((firsts es).map Entry.request) =
      (((added es).map kept).reverse, outcomes false (firsts es)) := by
  have few : ([] : List Rule).length + (firsts es).length ≤ limits.ruleMax.toNat := by
    rw [List.length_nil, Nat.zero_add]
    exact (length_firsts_le es).trans room
  rw [ledger_load (firsts_keys_nodup es) (fun _ _ _ hr => by cases hr)
    (fun e he => outputs e (mem_of_mem_firsts he)) few, List.append_nil, added]
  rfl

end

end RuleFile

end PacketPriority
