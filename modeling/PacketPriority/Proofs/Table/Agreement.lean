import PacketPriority.Proofs.Table.Run

/-!
Nothing that a table does depends on what it has counted.

Two tables agree if they differ in their meters at most. Every call takes agreeing tables to
agreeing tables and reports the same on both (`Agrees.operate`). An observer cannot break this: it
sees the log and the answers to its actions, and neither shows the meter (`Agrees.notifyBy`).
-/

namespace PacketPriority

namespace Table.Agrees

variable {t u v : Table}

/-! ### Agreement as a relation -/

theorem refl (t : Table) : t.Agrees t := ⟨.refl t, rfl, rfl⟩

theorem symm (h : t.Agrees u) : u.Agrees t :=
  ⟨⟨h.limits.symm, h.store.symm⟩, h.registry.symm, h.log.symm⟩

theorem trans (h : t.Agrees u) (h' : u.Agrees v) : t.Agrees v :=
  ⟨h.toSameRules.trans h'.toSameRules, h'.registry.trans h.registry, h'.log.trans h.log⟩

/-- Agreeing tables are one table with two meters. -/
theorem exists_meter (h : t.Agrees u) : ∃ m, u = { t with meter := m } := by
  obtain ⟨⟨hlimits, hstore⟩, hregistry, hlog⟩ := h
  refine ⟨u.meter, ?_⟩
  rw [← hlimits, ← hstore, ← hregistry, ← hlog]

theorem record (h : t.Agrees u) (e : LogEntry) : (t.record e).Agrees (u.record e) :=
  ⟨⟨h.limits, h.store⟩, h.registry, congrArg (e :: ·) h.log⟩

theorem setStore (h : t.Agrees u) (s : Store) :
    ({ t with store := s } : Table).Agrees { u with store := s } :=
  ⟨⟨h.limits, rfl⟩, h.registry, h.log⟩

theorem settle (h : t.Agrees u) (kind : Option RuleKind) (r : UpdateResult) :
    (t.settle kind r).1.Agrees (u.settle kind r).1 :=
  ((t.settle_agrees kind r).symm.trans h).trans (u.settle_agrees kind r)

/-! ### Changes -/

theorem flush (h : t.Agrees u) : t.flush.1.Agrees u.flush.1 ∧ t.flush.2 = u.flush.2 := by
  obtain ⟨m, rfl⟩ := h.exists_meter
  rcases hw : t.store.beginWrite with - | s
  · simp only [Table.flush, hw]
    exact ⟨⟨⟨rfl, rfl⟩, rfl, rfl⟩, trivial⟩
  · simp only [Table.flush, hw]
    exact ⟨⟨⟨rfl, rfl⟩, rfl, rfl⟩, trivial⟩

/-- Taking a change over keeps tables in agreement if telling observers does. -/
theorem commit {tell : Table → Event → Table}
    (told : ∀ e (t u : Table), t.Agrees u → (tell t e).Agrees (tell u e))
    (h : t.Agrees u) (c : Change) : (t.commit tell c).Agrees (u.commit tell c) := by
  have published := told c.event _ _ (h.setStore c.store)
  show ({ tell { t with store := c.store } c.event with
      store := (tell { t with store := c.store } c.event).store.endWrite } : Table).Agrees
    { tell { u with store := c.store } c.event with
      store := (tell { u with store := c.store } c.event).store.endWrite }
  rw [published.store]
  exact published.setStore _

theorem updateTelling {tell : Table → Event → Table}
    (told : ∀ e (t u : Table), t.Agrees u → (tell t e).Agrees (tell u e))
    (h : t.Agrees u) (q : Option Request) :
    (t.updateTelling tell q).1.Agrees (u.updateTelling tell q).1 ∧
      (t.updateTelling tell q).2 = (u.updateTelling tell q).2 := by
  rcases q with - | q
  · exact ⟨h.settle none (.error .nullRequest), rfl⟩
  · rcases hw : t.store.beginWrite with - | s
    · simp only [Table.updateTelling, h.store, hw]
      exact ⟨h.settle _ _, rfl⟩
    · rcases hs : s.serve t.limits q with e | c
      · simp only [Table.updateTelling, h.store, h.limits, hw, hs]
        exact ⟨h.settle _ _, rfl⟩
      · simp only [Table.updateTelling, h.store, h.limits, hw, hs]
        exact ⟨(h.commit told c).settle _ _, rfl⟩

/-! ### Observers -/

/-- No action shows the meter. -/
theorem act (h : t.Agrees u) (a : Action) :
    (t.act a).1.Agrees (u.act a).1 ∧ (t.act a).2 = (u.act a).2 := by
  cases a with
  | apply q =>
    obtain ⟨hu, hr⟩ := h.updateTelling (fun _ _ _ same => same) (some q)
    exact ⟨hu, congrArg Answer.updated hr⟩
  | flush | shutdown =>
    obtain ⟨hu, hr⟩ := h.flush
    exact ⟨hu, congrArg Answer.flushed hr⟩
  | count | query | dump | classify | register | unregister | withdraw =>
    obtain ⟨m, rfl⟩ := h.exists_meter
    exact ⟨⟨⟨rfl, rfl⟩, rfl, rfl⟩, rfl⟩

theorem perform (h : t.Agrees u) (tag : String) (reaction : Reaction Action) :
    (t.perform tag reaction).Agrees (u.perform tag reaction) := by
  induction reaction generalizing t u with
  | done => exact h
  | act a next ih =>
    -- the answer is the same on both sides, and so is the action that it calls for
    obtain ⟨acted, answer⟩ := h.act a
    have step := acted.record (.answered tag (t.act a).2)
    show (((t.act a).1.record _).perform tag (next (t.act a).2)).Agrees
      (((u.act a).1.record (.answered tag (u.act a).2)).perform tag (next (u.act a).2))
    rw [← answer]
    exact ih _ step

theorem tellBy (h : t.Agrees u) (conduct : Conduct) (e : Event) (o : Observer) :
    (Table.tellBy conduct e t o).Agrees (Table.tellBy conduct e u o) := by
  unfold Table.tellBy
  -- what the observer does is chosen by the log
  rw [h.log]
  exact (h.record _).perform o.tag _

/-- **Telling observers keeps tables in agreement**, whoever they are and whatever they do. -/
theorem notifyBy (h : t.Agrees u) (conduct : Conduct) (e : Event) :
    (t.notifyBy conduct e).Agrees (u.notifyBy conduct e) := by
  have all : ∀ (os : List Observer) (t u : Table), t.Agrees u →
      (os.foldl (Table.tellBy conduct e) t).Agrees (os.foldl (Table.tellBy conduct e) u) := by
    intro os
    induction os with
    | nil => exact fun t u same => same
    | cons o os ih => exact fun t u same => ih _ _ (same.tellBy conduct e o)
  unfold Table.notifyBy
  rw [h.registry]
  exact all t.registry.observers t u h

/-! ### Calls -/

theorem update (h : t.Agrees u) (q : Option Request) :
    (t.update q).1.Agrees (u.update q).1 ∧ (t.update q).2 = (u.update q).2 :=
  h.updateTelling (fun e _ _ same => same.notifyBy Observer.reaction e) q

theorem load (h : t.Agrees u) (qs : List Request) :
    (t.load qs).1.Agrees (u.load qs).1 ∧ (t.load qs).2 = (u.load qs).2 := by
  induction qs generalizing t u with
  | nil => exact ⟨h, rfl⟩
  | cons q rest ih =>
    obtain ⟨first, result⟩ := h.update (some q)
    obtain ⟨later, results⟩ := ih first
    refine ⟨later, ?_⟩
    show (q.key, (t.update (some q)).2) :: ((t.update (some q)).1.load rest).2 = _
    rw [result, results]
    rfl

/-- **Every call keeps tables in agreement** and reports the same on both. -/
theorem operate (h : t.Agrees u) (op : Operation) :
    (t.operate op).1.Agrees (u.operate op).1 ∧ (t.operate op).2 = (u.operate op).2 := by
  cases op with
  | update q =>
    obtain ⟨hu, hr⟩ := h.update q
    exact ⟨hu, congrArg Report.updated hr⟩
  | apply q =>
    obtain ⟨hu, hr⟩ := h.update (some q)
    exact ⟨hu, congrArg Report.updated hr⟩
  | load qs =>
    obtain ⟨hu, hr⟩ := h.load qs
    exact ⟨hu, congrArg Report.loaded hr⟩
  | flush | shutdown =>
    obtain ⟨hu, hr⟩ := h.flush
    exact ⟨hu, congrArg (fun r => Report.flushed (Except.map UInt32.toNat r)) hr⟩
  | classify | register | unregister | withdraw =>
    obtain ⟨m, rfl⟩ := h.exists_meter
    exact ⟨⟨⟨rfl, rfl⟩, rfl, rfl⟩, rfl⟩

end Table.Agrees

end PacketPriority
