import PacketPriority.Proofs.RuleFile.Loading

/-!
A rule file is parsed as a whole or not at all.

Parsing walks along the entries, checks each of them and skips those of a key that it has seen. The
walk stops at the first entry that is invalid on its own (`FirstFault`), even one that would have
been skipped, and the count of the entries is asked for before the walk begins. Where the walk comes
to the end, the entries that count are those that lead, whose key no earlier entry has (`leading`).
They are again a file of their own, and one that is parsed as the same requests.

The main result is `parse_all_or_nothing`.
-/

namespace PacketPriority

namespace RuleFile

variable {es rest : List Entry} {e e' : Entry} {fault : EntryError}

/-! ### The first fault -/

/-- The entry is the first of its file that is invalid on its own, and this is wrong with it. -/
def FirstFault (es : List Entry) (e : Entry) (fault : EntryError) : Prop :=
  ∃ before after, es = before ++ e :: after ∧ (∀ f ∈ before, ∃ q, f.toRequest = .ok q) ∧
    e.toRequest = .error fault

theorem firstFault_nil : ¬ FirstFault [] e fault := by
  rintro ⟨before, after, split, -, -⟩
  exact List.append_ne_nil_of_right_ne_nil before (List.cons_ne_nil e after) split.symm

theorem firstFault_cons_of_error {fault' : EntryError} (h : e.toRequest = .error fault) :
    FirstFault (e :: rest) e' fault' ↔ e' = e ∧ fault' = fault := by
  constructor
  · rintro ⟨before, after, split, valid, invalid⟩
    rcases before with - | ⟨f, before⟩
    · cases split
      exact ⟨rfl, Except.error.inj (invalid.symm.trans h)⟩
    · -- the entry in front would have to be valid
      cases split
      obtain ⟨q, hq⟩ := valid e List.mem_cons_self
      rw [h] at hq
      cases hq
  · rintro ⟨rfl, rfl⟩
    exact ⟨[], rest, rfl, List.forall_mem_nil _, h⟩

theorem firstFault_cons_of_ok {q : Request} (h : e.toRequest = .ok q) :
    FirstFault (e :: rest) e' fault ↔ FirstFault rest e' fault := by
  constructor
  · rintro ⟨before, after, split, valid, invalid⟩
    rcases before with - | ⟨f, before⟩
    · cases split
      rw [h] at invalid
      cases invalid
    · cases split
      exact ⟨before, after, rfl, (List.forall_mem_cons.1 valid).2, invalid⟩
  · rintro ⟨before, after, rfl, valid, invalid⟩
    exact ⟨e :: before, after, rfl, List.forall_mem_cons.2 ⟨⟨q, h⟩, valid⟩, invalid⟩

/-- **The walk fails with the first fault**, whatever keys have been seen before it. -/
theorem requestsFrom_eq_error_iff {seen : List RuleKey} {err : TableError} :
    requestsFrom seen es = .error err ↔
      ∃ e fault, FirstFault es e fault ∧ err = .ruleValidation e.id fault.message := by
  induction es generalizing seen with
  | nil => simp [requestsFrom, firstFault_nil]
  | cons e rest ih =>
    rw [requestsFrom]
    rcases hq : e.toRequest with fault | q
    · simp only [firstFault_cons_of_error hq]
      constructor
      · intro h
        exact ⟨e, fault, ⟨rfl, rfl⟩, (Except.error.inj h).symm⟩
      · rintro ⟨-, -, ⟨rfl, rfl⟩, rfl⟩
        rfl
    · simp only [firstFault_cons_of_ok hq]
      -- whether the key has been seen matters to the requests only
      split
      · exact ih
      · rw [← ih]
        rcases requestsFrom (q.key :: seen) rest with err' | qs <;> simp [Except.map]

theorem exists_firstFault_iff :
    (∃ e fault, FirstFault es e fault) ↔ ∃ e ∈ es, ∃ fault, e.toRequest = .error fault := by
  constructor
  · rintro ⟨e, fault, before, after, rfl, -, invalid⟩
    exact ⟨e, by simp, fault, invalid⟩
  · induction es with
    | nil => simp
    | cons e rest ih =>
      rintro ⟨f, hf, fault, invalid⟩
      rcases hq : e.toRequest with fault' | q
      · exact ⟨e, fault', (firstFault_cons_of_error hq).2 ⟨rfl, rfl⟩⟩
      · have behind : f ∈ rest := by
          rcases List.mem_cons.1 hf with rfl | hf
          · rw [hq] at invalid
            cases invalid
          · exact hf
        obtain ⟨e', fault', first⟩ := ih ⟨f, behind, fault, invalid⟩
        exact ⟨e', fault', (firstFault_cons_of_ok hq).2 first⟩

/-! ### The entries that lead -/

/-- The entries whose key no earlier entry has, in the order of the file. -/
def leading (es : List Entry) : List Entry :=
  ((List.finRange es.length).filter fun i => ∀ j < i, es[j].key ≠ es[i].key).map fun i => es[i]

theorem leading_cons (e : Entry) (rest : List Entry) :
    leading (e :: rest) = e :: (leading rest).filter fun f => f.key ≠ e.key := by
  -- an entry behind the first leads if it has another key than the first and leads the others
  have leads (i : Fin rest.length) :
      (∀ j < i.succ, (e :: rest)[j].key ≠ (e :: rest)[i.succ].key) ↔
        rest[i].key ≠ e.key ∧ ∀ j < i, rest[j].key ≠ rest[i].key := by
    rw [Fin.forall_fin_succ]
    exact and_congr ⟨fun h => (h i.succ_pos).symm, fun h _ => h.symm⟩
      (forall_congr' fun j => imp_congr_left Fin.succ_lt_succ_iff)
  show ((List.finRange (rest.length + 1)).filter _).map _ = _
  rw [List.finRange_succ, List.filter_cons_of_pos, List.map_cons, List.filter_map,
    List.map_map, leading, List.filter_map, List.filter_filter]
  · refine congrArg (e :: ·) (congrArg (List.map _) (List.filter_congr fun i _ => ?_))
    rw [Function.comp_apply, Function.comp_apply, ← Bool.decide_and]
    exact decide_eq_decide.2 (leads i)
  · -- no entry stands before the first one
    exact decide_eq_true fun j hj => absurd hj (Fin.not_lt_zero j)

theorem firsts_eq_leading (es : List Entry) : firsts es = leading es := by
  induction es with
  | nil => rfl
  | cons e rest ih => rw [firsts, leading_cons, ih]

/-- Where no two entries are of one key, all count. -/
theorem firsts_of_nodup (nodup : (es.map Entry.key).Nodup) : firsts es = es := by
  induction es with
  | nil => rfl
  | cons e rest ih =>
    obtain ⟨new, nodup⟩ := List.nodup_cons.1 nodup
    rw [firsts, ih nodup, List.filter_eq_self.2 fun f hf => ?_]
    exact decide_eq_true fun same => new (same ▸ List.mem_map_of_mem hf)

/-! ### Texts -/

variable {max : Nat} {text source : String}

/-- A text with few entries fails with its first fault. -/
theorem parse_eq_error_iff (decoded : decode text = .ok es) (few : es.length ≤ max)
    {err : TableError} : parse max text source = .error err ↔
      ∃ e fault, FirstFault es e fault ∧ err = .ruleValidation e.id fault.message := by
  have parsed : parse max text source = requestsFrom [] es := by
    simp only [parse, decoded, requests, if_neg (Nat.not_lt.2 few)]
  rw [parsed]
  exact requestsFrom_eq_error_iff

theorem parse_of_many (decoded : decode text = .ok es) (many : max < es.length) :
    parse max text source =
      .error (.ruleLoad source s!"too many rules: {es.length} (max {max})") := by
  simp only [parse, decoded, requests, if_pos many]

/-- A text without a fault is parsed as one request for each entry that leads. -/
theorem parse_of_valid (decoded : decode text = .ok es) (few : es.length ≤ max)
    (valid : ∀ e ∈ es, ∃ q, e.toRequest = .ok q) :
    ∃ qs, parse max text source = .ok qs ∧
      List.Forall₂ (fun e q => e.toRequest = .ok q) (leading es) qs := by
  refine ⟨(firsts es).map Entry.request, parse_eq_ok_iff.2 ⟨es, decoded, few, valid, rfl⟩, ?_⟩
  rw [← firsts_eq_leading, List.forall₂_map_right_iff, List.forall₂_same]
  intro e he
  obtain ⟨q, hq⟩ := valid e (mem_of_mem_firsts he)
  rw [hq, (Entry.toRequest_eq_ok hq).1]

/-- The entries that lead are parsed as the requests of the whole text. -/
theorem parse_leading {qs : List Request} {text' source' : String}
    (decoded : decode text = .ok es) (parsed : parse max text source = .ok qs)
    (decoded' : decode text' = .ok (leading es)) : parse max text' source' = .ok qs := by
  obtain ⟨es', same, few, accepted, rfl⟩ := parse_eq_ok_iff.1 parsed
  obtain rfl : es' = es := Except.ok.inj (same.symm.trans decoded)
  rw [← firsts_eq_leading] at decoded'
  refine parse_eq_ok_iff.2 ⟨firsts es', decoded', (length_firsts_le es').trans few, ?_, ?_⟩
  · exact fun e he => accepted e (mem_of_mem_firsts he)
  · rw [firsts_of_nodup (firsts_keys_nodup es')]

/-! ### The main result -/

/-- **Parsing is all or nothing, and keeps the first entry of each key.** For all texts that decode
to entries: if there are more than `max` of them, that is the error. If not, the first entry that is
invalid on its own is, and if there is none, there is one request for each entry that leads, in the
order of the file, and a text of those entries alone is parsed as the same requests. -/
theorem parse_all_or_nothing {text : String} (decoded : decode text = .ok es) (max : Nat)
    (source : String) :
    (parse max text source =
        .error (.ruleLoad source s!"too many rules: {es.length} (max {max})") ↔
      max < es.length) ∧
    (es.length ≤ max →
      (∀ err, parse max text source = .error err ↔
        ∃ e fault, FirstFault es e fault ∧ err = .ruleValidation e.id fault.message) ∧
      ((∃ err, parse max text source = .error err) ↔
        ∃ e ∈ es, ∃ fault, e.toRequest = .error fault) ∧
      ((∀ e ∈ es, ∃ q, e.toRequest = .ok q) → ∃ qs, parse max text source = .ok qs ∧
        List.Forall₂ (fun e q => e.toRequest = .ok q) (leading es) qs ∧
        (qs.map Request.key).Nodup ∧
        ∀ text' source', decode text' = .ok (leading es) → parse max text' source' = .ok qs)) := by
  refine ⟨⟨fun failed => ?_, parse_of_many decoded⟩,
    fun few => ⟨fun err => ?_, ?_, fun valid => ?_⟩⟩
  · -- the other errors are about an entry
    by_contra few
    obtain ⟨e, fault, -, same⟩ := (parse_eq_error_iff decoded (Nat.not_lt.1 few)).1 failed
    cases same
  · exact parse_eq_error_iff decoded few
  · rw [← exists_firstFault_iff]
    simp only [parse_eq_error_iff decoded few]
    constructor
    · rintro ⟨err, e, fault, first, -⟩
      exact ⟨e, fault, first⟩
    · rintro ⟨e, fault, first⟩
      exact ⟨_, e, fault, first, rfl⟩
  · obtain ⟨qs, parsed, requests⟩ := parse_of_valid decoded few valid
    exact ⟨qs, parsed, requests, parse_keys_nodup parsed,
      fun text' source' decoded' => parse_leading decoded parsed decoded'⟩

/-- A text that deletes a key and adds it afterwards keeps the deletion alone, and is refused if the
entry that would be skipped is invalid. -/
theorem parse_all_or_nothing_of_duplicate :
    let text := "[[rules]]\nid = 1\ncommand = 'delete'\n[[rules]]\nid = 1\noutput = 3\n" ++
      "[[rules]]\nid = 2\noutput = 5\n"
    let alone := "[[rules]]\nid = 1\ncommand = 'delete'\n[[rules]]\nid = 2\noutput = 5\n"
    let invalid := "[[rules]]\nid = 1\n[[rules]]\nid = 1\noutput = 10\n"
    let qs : List Request := [.delete ⟨1, .sawf⟩, .add { id := 2, treatment := { output := 5 } }]
    parse 2 text "rules.toml" = .error (.ruleLoad "rules.toml" "too many rules: 3 (max 2)") ∧
      parse 3 text "rules.toml" = .ok qs ∧ parse 3 alone "rules.toml" = .ok qs ∧
      ∃ err, parse 3 invalid "rules.toml" = .error err := by
  intro text alone invalid qs
  have decoded : decode text = .ok [{ id := 1, command := .delete }, { id := 1, output := 3 },
      { id := 2, output := 5 }] := by decide +kernel
  have decoded' : decode invalid = .ok [{ id := 1 }, { id := 1, output := 10 }] := by decide +kernel
  have parsed : parse 3 text "rules.toml" = .ok qs := by decide +kernel
  obtain ⟨qs', same, -, -, others⟩ :=
    ((parse_all_or_nothing decoded 3 "rules.toml").2 (by decide)).2.2 (by
      intro e he
      refine ⟨e.request, ?_⟩
      revert e
      decide +kernel)
  obtain rfl : qs' = qs := Except.ok.inj (same.symm.trans parsed)
  refine ⟨(parse_all_or_nothing decoded 2 "rules.toml").1.2 (by decide), parsed,
    others alone "rules.toml" (by decide +kernel), ?_⟩
  exact ((parse_all_or_nothing decoded' 3 "rules.toml").2 (by decide)).2.1.2
    ⟨{ id := 1, output := 10 }, by decide, .outputOutOfRange 10, by decide +kernel⟩

end RuleFile

end PacketPriority
