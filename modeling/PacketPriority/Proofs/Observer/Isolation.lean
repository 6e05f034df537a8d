import PacketPriority.Proofs.Observer.Conduct

/-!
Observers cannot influence a table.

A `Visit` is what happens when one observer is told of an event: who it is, and what it does, each
action with its answer. The visits of a call account for every line that the call leaves in the log
(`updateBy_log`), so that what they say of observers is what observers were told and answered:

* an update that succeeds visits the observers that are registered when it begins to tell them, each
  once and in the order of registration; an update that fails visits nobody
  (`entries_updateVisits_of_ok`, `updateVisits_of_error`);
* within a visit every request for a change is refused, and every question is answered from the
  table as it is after the update (`updateVisits_answers`).

The main result puts this beside the two facts on conducts: `observers_cannot_interfere`.
-/

namespace PacketPriority

/-- What happened when an observer was told: its registration, the event, and its actions with their
answers. -/
structure Visit where
  entry : Nat × Observer
  event : Event
  deeds : List (Action × Answer)

/-- The lines that a visit leaves in the log, oldest first. -/
def Visit.lines (v : Visit) : List LogEntry :=
  .told v.entry.2.tag v.event :: v.deeds.map fun d => .answered v.entry.2.tag d.2

namespace Table

/-! ### Visits -/

/-- The actions that a reaction takes, with their answers. -/
def deeds (tag : String) (t : Table) : Reaction Action → List (Action × Answer)
  | .done => []
  | .act a next =>
    (a, (t.act a).2) ::
      ((t.act a).1.record (.answered tag (t.act a).2)).deeds tag (next (t.act a).2)

section

variable (conduct : Conduct)

/-- The visits to observers that are told of an event one after another. -/
def notifyVisits (e : Event) (t : Table) : List (Nat × Observer) → List Visit
  | [] => []
  | x :: rest =>
    ⟨x, e, (t.record (.told x.2.tag e)).deeds x.2.tag (conduct x.2 t.log e)⟩ ::
      notifyVisits e (tellBy conduct e t x.2) rest

/-- The change that an update publishes, if it comes to one. -/
def published (t : Table) (q : Option Request) : Option Change :=
  q.bind fun q => t.store.beginWrite.bind fun s => (s.serve t.limits q).toOption

/-- The visits of an update. -/
def updateVisits (t : Table) (q : Option Request) : List Visit :=
  match t.published q with
  | none => []
  | some c => notifyVisits conduct c.event { t with store := c.store } t.registry.entries

/-- Whether an action of an observer has the answer that it is due, where the update that the
observer is told of leads to the table `u`. -/
def Answers (u : Table) : Action → Answer → Prop
  | .apply _, answer => answer = .updated (.error .writerBusy)
  | .flush, answer | .shutdown, answer => answer = .flushed (.error .writerBusy)
  | .count, answer => answer = .counted u.count
  | .query k, answer => answer = .found (u.query k)
  | .dump, answer => answer = .dumped u.dump
  | .classify p, answer => answer = .classified (u.classify p).2
  | .register _, answer => answer = .registered
  | .unregister _, answer => ∃ there, answer = .unregistered there
  | .withdraw _, answer => ∃ there, answer = .unregistered (some there)

/-- The table with nobody registered. -/
def unobserved (t : Table) : Table := { t with registry := {} }

end

/-! ### Single actions -/

section

variable {t u : Table}

/-- An action writes nothing into the log, only its answer is written there. -/
theorem act_log (h : t.store.writing = true) (a : Action) : (t.act a).1.log = t.log := by
  cases a with
  | apply q =>
    show (t.updateTelling _ (some q)).1.log = t.log
    rw [updateTelling_of_writing h]
    exact (t.settle_agrees _ _).log
  | flush | shutdown =>
    show t.flush.1.log = t.log
    rw [flush_of_writing h]
    rfl
  | count | query | dump | classify | register | unregister | withdraw => rfl

/-- While a writer is held, changes are refused, and what is asked is answered as after its end. -/
theorem act_answers (h : t.store.writing = true)
    (ended : ({ t with store := t.store.endWrite } : Table).SameRules u) (a : Action) :
    u.Answers a (t.act a).2 := by
  have hlimits : u.limits = t.limits := ended.limits
  have hstore : u.store = t.store.endWrite := ended.store
  cases a with
  | apply q =>
    show Answer.updated (t.updateTelling _ (some q)).2 = _
    rw [updateTelling_of_writing h]
    rfl
  | flush | shutdown =>
    show Answer.flushed t.flush.2 = _
    rw [flush_of_writing h]
  | count =>
    show Answer.counted t.store.count = Answer.counted u.store.count
    rw [hstore]
    rfl
  | query k =>
    show Answer.found ((t.store.find? k).map _) = Answer.found ((u.store.find? k).map _)
    rw [hstore]
    rfl
  | dump =>
    show Answer.dumped t.store.dump = Answer.dumped u.store.dump
    rw [hstore, Store.dump_eq_rules, Store.dump_eq_rules]
    rfl
  | classify p =>
    -- a classification reads the buckets, the counter and the limits
    obtain ⟨limits, store, registry, meter, log⟩ := u
    obtain rfl : limits = t.limits := hlimits
    obtain rfl : store = t.store.endWrite := hstore
    rfl
  | register o => rfl
  | unregister tag => exact ⟨_, rfl⟩
  | withdraw number => exact ⟨_, rfl⟩

/-- What ends in a table's rules also ends there if the rules are kept until then. -/
theorem SameRules.ended {p : Table} (h : p.SameRules t)
    (ended : ({ p with store := p.store.endWrite } : Table).SameRules u) :
    ({ t with store := t.store.endWrite } : Table).SameRules u :=
  ⟨by rw [ended.limits]; exact h.limits.symm, by rw [ended.store, h.store]⟩

end

/-! ### Reactions -/

section

variable {t u : Table} (tag : String) (reaction : Reaction Action)

/-- The log grows by the answers. -/
theorem perform_log (h : t.store.writing = true) :
    (t.perform tag reaction).log =
      ((t.deeds tag reaction).map fun d => LogEntry.answered tag d.2).reverse ++ t.log := by
  induction reaction generalizing t with
  | done => rfl
  | act a next ih =>
    have same := act_sameRules h a
    have later := ih (t.act a).2 (t := (t.act a).1.record (.answered tag (t.act a).2))
      (by show (t.act a).1.store.writing = true; rw [same.store, h])
    have one : ((t.act a).1.record (.answered tag (t.act a).2)).log =
        .answered tag (t.act a).2 :: t.log := congrArg _ (act_log h a)
    rw [deeds, perform, later, one]
    simp

theorem deeds_answers (h : t.store.writing = true)
    (ended : ({ t with store := t.store.endWrite } : Table).SameRules u) :
    ∀ d ∈ t.deeds tag reaction, u.Answers d.1 d.2 := by
  induction reaction generalizing t with
  | done =>
    intro d hd
    cases hd
  | act a next ih =>
    have step : t.SameRules ((t.act a).1.record (.answered tag (t.act a).2)) :=
      (act_sameRules h a).trans ⟨rfl, rfl⟩
    intro d hd
    rw [deeds] at hd
    rcases List.mem_cons.1 hd with rfl | hd
    · exact act_answers h ended a
    · exact ih _ (by rw [step.store, h]) (step.ended ended) d hd

end

/-! ### Notifications -/

section

variable (conduct : Conduct) {t u : Table} (e : Event)

theorem entries_notifyVisits (xs : List (Nat × Observer)) :
    (t.notifyVisits conduct e xs).map (fun v => (v.entry, v.event)) = xs.map (·, e) := by
  induction xs generalizing t with
  | nil => rfl
  | cons x rest ih =>
    rw [notifyVisits, List.map_cons, ih]
    rfl

theorem tellBy_log (h : t.store.writing = true) (x : Nat × Observer) :
    (tellBy conduct e t x.2).log =
      (Visit.lines ⟨x, e, (t.record (.told x.2.tag e)).deeds x.2.tag
        (conduct x.2 t.log e)⟩).reverse ++ t.log := by
  have done := perform_log x.2.tag (conduct x.2 t.log e) (t := t.record (.told x.2.tag e)) h
  rw [tellBy, done]
  simp [Visit.lines, record]

/-- **The log grows by the visits**, one after another and with nothing between them. -/
theorem foldl_tellBy_log (h : t.store.writing = true) (xs : List (Nat × Observer)) :
    (xs.foldl (fun t x => tellBy conduct e t x.2) t).log =
      ((t.notifyVisits conduct e xs).flatMap Visit.lines).reverse ++ t.log := by
  induction xs generalizing t with
  | nil => rfl
  | cons x rest ih =>
    have first := tellBy_sameRules conduct h e x.2
    have later := ih (t := tellBy conduct e t x.2) (by rw [first.store, h])
    rw [List.foldl_cons, later, tellBy_log conduct e h, notifyVisits, List.flatMap_cons,
      List.reverse_append, List.append_assoc]

theorem notifyVisits_answers (h : t.store.writing = true)
    (ended : ({ t with store := t.store.endWrite } : Table).SameRules u)
    (xs : List (Nat × Observer)) :
    ∀ v ∈ t.notifyVisits conduct e xs, ∀ d ∈ v.deeds, u.Answers d.1 d.2 := by
  induction xs generalizing t with
  | nil =>
    intro v hv
    cases hv
  | cons x rest ih =>
    have step := tellBy_sameRules conduct h e x.2
    intro v hv
    rw [notifyVisits] at hv
    rcases List.mem_cons.1 hv with rfl | hv
    · exact deeds_answers x.2.tag _ (t := t.record (.told x.2.tag e)) h ⟨ended.limits, ended.store⟩
    · exact ih (by rw [step.store, h]) (step.ended ended) v hv

end

/-! ### Updates -/

section

variable (conduct : Conduct) {t : Table} {q : Option Request}

/-- A change is published by the writer that was begun for its request. -/
theorem published_eq_some {c : Change} (h : t.published q = some c) :
    ∃ request, q = some request ∧ t.store.writing = false ∧
      ({ t.store with writing := true } : Store).serve t.limits request = .ok c := by
  rcases q with - | q
  · cases h
  rcases hw : t.store.beginWrite with - | s
  · simp [published, hw] at h
  obtain ⟨idle, rfl⟩ := Store.beginWrite_eq_some_iff.1 hw
  rcases hs : ({ t.store with writing := true } : Store).serve t.limits q with e | c'
  · simp [published, hw, hs, Except.toOption] at h
  · obtain rfl : c' = c := by simpa [published, hw, hs, Except.toOption] using h
    exact ⟨q, rfl, idle, hs⟩

/-- An update comes to a change and succeeds, or it does nothing but be counted. -/
theorem updateTelling_cases (tell : Table → Event → Table) (t : Table) (q : Option Request) :
    (∃ c, t.published q = some c ∧ c.store.writing = true ∧
        t.updateTelling tell q =
          (t.commit tell c).settle (q.map (·.rule.kind)) (.ok c.outcome)) ∨
      ∃ e, t.published q = none ∧
        t.updateTelling tell q = t.settle (q.map (·.rule.kind)) (.error e) := by
  rcases q with - | q
  · exact .inr ⟨.nullRequest, rfl, rfl⟩
  rcases hw : t.store.beginWrite with - | s
  · exact .inr ⟨.writerBusy, by simp [published, hw], updateTelling_of_busy tell hw⟩
  rcases hs : s.serve t.limits q with e | c
  · exact .inr ⟨e, by simp [published, hw, hs, Except.toOption],
      updateTelling_of_error tell hw hs⟩
  · have held : c.store.writing = true := by
      obtain ⟨-, rfl⟩ := Store.beginWrite_eq_some_iff.1 hw
      exact Store.serve_writing hs
    exact .inl ⟨c, by simp [published, hw, hs, Except.toOption], held,
      updateTelling_of_ok tell hw hs⟩

theorem updateBy_cases (conduct : Conduct) (t : Table) (q : Option Request) :
    (∃ c, t.published q = some c ∧ c.store.writing = true ∧
        (t.updateBy conduct q).2 = .ok c.outcome ∧
        (t.commit (notifyBy conduct) c).Agrees (t.updateBy conduct q).1) ∨
      ∃ e, t.published q = none ∧ (t.updateBy conduct q).2 = .error e ∧
        t.Agrees (t.updateBy conduct q).1 := by
  rcases updateTelling_cases (notifyBy conduct) t q with
    ⟨c, hc, published, served⟩ | ⟨e, hc, refused⟩
  · refine .inl ⟨c, hc, published, ?_⟩
    rw [updateBy, served]
    exact ⟨rfl, settle_agrees _ _ _⟩
  · refine .inr ⟨e, hc, ?_⟩
    rw [updateBy, refused]
    exact ⟨rfl, settle_agrees _ _ _⟩

/-- What an update comes to has the rules of its change, with the writer ended, whatever observers
have done since it was published. -/
theorem ended_of_commit {c : Change} {u : Table} (published : c.store.writing = true)
    (same : (t.commit (notifyBy conduct) c).Agrees u) :
    ({ t with store := c.store.endWrite } : Table).SameRules u := by
  have served := commit_sameRules (fun e hu => notifyBy_sameRules conduct hu e) (t := t) published
  exact served.trans same.toSameRules

/-- **An update leaves its visits in the log and nothing else.** -/
theorem updateBy_log (t : Table) (q : Option Request) :
    (t.updateBy conduct q).1.log =
      ((t.updateVisits conduct q).flatMap Visit.lines).reverse ++ t.log := by
  rcases updateBy_cases conduct t q with ⟨c, hc, published, -, same⟩ | ⟨e, hc, -, same⟩
  · have told := foldl_tellBy_log conduct c.event (t := { t with store := c.store }) published
      t.registry.entries
    rw [same.log, updateVisits, hc]
    show (({ t with store := c.store } : Table).notifyBy conduct c.event).log = _
    rw [notifyBy, Registry.observers, List.foldl_map]
    exact told
  · rw [same.log, updateVisits, hc]
    rfl

theorem entries_updateVisits_of_ok {outcome : Outcome}
    (h : (t.updateBy conduct q).2 = .ok outcome) :
    ∃ e, (t.updateVisits conduct q).map (fun v => (v.entry, v.event)) =
      t.registry.entries.map (·, e) := by
  rcases updateBy_cases conduct t q with ⟨c, hc, -, -, -⟩ | ⟨e, -, failed, -⟩
  · refine ⟨c.event, ?_⟩
    rw [updateVisits, hc]
    exact entries_notifyVisits conduct c.event _
  · rw [failed] at h
    cases h

theorem updateVisits_of_error {e : UpdateError} (h : (t.updateBy conduct q).2 = .error e) :
    t.updateVisits conduct q = [] := by
  rcases updateBy_cases conduct t q with ⟨c, -, -, ok, -⟩ | ⟨e', hc, -, -⟩
  · rw [ok] at h
    cases h
  · rw [updateVisits, hc]

theorem updateVisits_answers (t : Table) (q : Option Request) :
    ∀ v ∈ t.updateVisits conduct q, ∀ d ∈ v.deeds, (t.updateBy conduct q).1.Answers d.1 d.2 := by
  rcases updateBy_cases conduct t q with ⟨c, hc, published, -, same⟩ | ⟨e, hc, -, -⟩
  · have ended := ended_of_commit conduct published same
    rw [updateVisits, hc]
    exact notifyVisits_answers conduct c.event (t := { t with store := c.store }) published
      ⟨ended.limits, ended.store⟩ t.registry.entries
  · rw [updateVisits, hc]
    intro v hv
    cases hv

end

/-! ### The main result -/

/-- **Observers cannot influence a table**, whatever they do. A call leads to the same store and
reports the same as it does with nobody registered. Serving a request has one end however updates
may be nested. An update leaves in the log its visits and nothing else: if it succeeds, to each
observer that was registered, once and in the order of registration, and if it fails to nobody.
Within a visit every request for a change is refused, and every question is answered from the table
that the update leads to. -/
theorem observers_cannot_interfere (conduct : Conduct) (t : Table) :
    (∀ op, (t.operateBy conduct op).2 = (t.unobserved.operate op).2 ∧
      (t.operateBy conduct op).1.store = (t.unobserved.operate op).1.store) ∧
    (∀ q u r, Updates conduct t q u r ↔ t.updateBy conduct q = (u, r)) ∧
    ∀ q,
      (t.updateBy conduct q).1.log =
        ((t.updateVisits conduct q).flatMap Visit.lines).reverse ++ t.log ∧
      (∀ outcome, (t.updateBy conduct q).2 = .ok outcome →
        ∃ e, (t.updateVisits conduct q).map (fun v => (v.entry, v.event)) =
          t.registry.entries.map (·, e)) ∧
      (∀ e, (t.updateBy conduct q).2 = .error e → t.updateVisits conduct q = []) ∧
      ∀ v ∈ t.updateVisits conduct q, ∀ d ∈ v.deeds,
        (t.updateBy conduct q).1.Answers d.1 d.2 := by
  refine ⟨fun op => ?_, fun q u r => updates_iff, fun q => ⟨updateBy_log conduct t q,
    fun _ => entries_updateVisits_of_ok conduct, fun _ => updateVisits_of_error conduct,
    updateVisits_answers conduct t q⟩⟩
  have nobody : t.SameRules t.unobserved := ⟨rfl, rfl⟩
  obtain ⟨rules, report⟩ := nobody.operateBy conduct Observer.reaction op
  rw [operateBy_reaction] at rules report
  exact ⟨report, rules.store.symm⟩

/-- Two observers register themselves again and ask for changes: each is told once, and is refused.
-/
theorem observers_cannot_interfere_of_reentry :
    let conduct : Conduct := fun o _ _ => .ofList [.register o, .apply (.add { id := 2 }), .flush]
    let t := (Table.new {}).run [.register (.mk "a" none []), .register (.mk "b" none [])]
    let q := some (Request.add { id := 1 })
    (t.updateBy conduct q).2 = .ok .added ∧
      (∃ e, (t.updateVisits conduct q).map (fun v => (v.entry, v.event)) =
        t.registry.entries.map (·, e)) ∧
      (∀ v ∈ t.updateVisits conduct q, ∀ d ∈ v.deeds,
        (t.updateBy conduct q).1.Answers d.1 d.2) ∧
      (t.updateVisits conduct q).map (·.deeds.length) = [3, 3] ∧
      (t.updateBy conduct q).1.registry.entries.length = 4 := by
  intro conduct t q
  obtain ⟨-, -, visits⟩ := observers_cannot_interfere conduct t
  have added : (t.updateBy conduct q).2 = .ok .added := rfl
  exact ⟨added, (visits q).2.1 _ added, (visits q).2.2.2, rfl, rfl⟩

end Table

end PacketPriority
