import PacketPriority.Proofs.Store.Serving

/-!
Operations on a rule table from outside, and the tables they lead to.

An `Operation` is one call that a user of the table can make, whatever observers are registered;
`run` makes a list of calls one after another and `trace` keeps what was reported and the table
after each.

`Reachable limits t` says that `t` can be met at some moment of some use of a table with these
limits: between calls, or inside one, while observers are told of a change that has been published
and whose writer is still held. What observers do in that time is again an operation or a line of
the log (`act_eq_operate`), since they have nothing but the calls of the table; as the writer is
held, none of it reaches the store (`notifyBy_sameRules`).
-/

namespace PacketPriority

/-! ### Operations -/

/-- A call from outside. -/
inductive Operation where
  | update (q : Option Request)
  | apply (q : Request)
  | load (qs : List Request)
  | flush
  | shutdown
  | classify (p : Packet)
  | register (o : Observer)
  | unregister (tag : String)
  | withdraw (number : Nat)

/-- What a call reports of the rules that it changed. -/
inductive Report where
  | updated (r : UpdateResult)
  | loaded (rs : List (RuleKey × UpdateResult))
  | flushed (r : Except UpdateError Nat)
  /-- The call changes no rule. -/
  | done

namespace Table

section

variable (tell : Table → Event → Table)

/-- The table after a call, and what the call reports. Only updates are told. -/
def operateTelling (t : Table) : Operation → Table × Report
  | .update q => ((t.updateTelling tell q).1, .updated (t.updateTelling tell q).2)
  | .apply q => ((t.updateTelling tell (some q)).1, .updated (t.updateTelling tell (some q)).2)
  | .load qs => ((t.loadTelling tell qs).1, .loaded (t.loadTelling tell qs).2)
  | .flush => (t.flush.1, .flushed (t.flush.2.map UInt32.toNat))
  | .shutdown => (t.shutdown.1, .flushed (t.shutdown.2.map UInt32.toNat))
  | .classify p => ((t.classify p).1, .done)
  | .register o => (t.register o, .done)
  | .unregister tag => ((t.unregister tag).1, .done)
  | .withdraw number => ((t.withdraw number).1, .done)

/-- The table after a list of calls. -/
def runTelling (t : Table) (ops : List Operation) : Table :=
  ops.foldl (fun t op => (t.operateTelling tell op).1) t

end

/-- The table after a call, its observers told, and what the call reports. -/
def operate (t : Table) (op : Operation) : Table × Report := t.operateTelling notify op

/-- The table after a list of calls. -/
def run (t : Table) (ops : List Operation) : Table := t.runTelling notify ops

/-- The reports of a list of calls, each with the table after the call. -/
def trace (t : Table) : List Operation → List (Report × Table)
  | [] => []
  | op :: rest => ((t.operate op).2, (t.operate op).1) :: (t.operate op).1.trace rest

theorem run_append (t : Table) (ops ops' : List Operation) :
    t.run (ops ++ ops') = (t.run ops).run ops' := List.foldl_append

theorem trace_append (t : Table) (ops ops' : List Operation) :
    t.trace (ops ++ ops') = t.trace ops ++ (t.run ops).trace ops' := by
  induction ops generalizing t with
  | nil => rfl
  | cons op rest ih => exact congrArg _ (ih (t.operate op).1)

/-! ### Calls that keep the rules -/

/-- Two tables with the same limits and the same store. -/
structure SameRules (t u : Table) : Prop where
  limits : u.limits = t.limits
  store : u.store = t.store

namespace SameRules

variable {t u v : Table}

theorem refl (t : Table) : t.SameRules t := ⟨rfl, rfl⟩

theorem trans (h : t.SameRules u) (h' : u.SameRules v) : t.SameRules v :=
  ⟨h'.limits.trans h.limits, h'.store.trans h.store⟩

end SameRules

/-- Two tables that differ in their meters at most. -/
structure Agrees (t u : Table) : Prop extends t.SameRules u where
  registry : u.registry = t.registry
  log : u.log = t.log

/-- Closing an update only counts it. -/
theorem settle_agrees (t : Table) (kind : Option RuleKind) (r : UpdateResult) :
    t.Agrees (t.settle kind r).1 := by
  unfold settle
  split <;> exact ⟨⟨rfl, rfl⟩, rfl, rfl⟩

theorem settle_sameRules (t : Table) (kind : Option RuleKind) (r : UpdateResult) :
    t.SameRules (t.settle kind r).1 := (t.settle_agrees kind r).toSameRules

/-! ### The ends of an update -/

section

variable {t : Table} {s : Store} {q : Request} {e : UpdateError} {c : Change}
  (tell : Table → Event → Table)

theorem updateTelling_of_busy (hw : t.store.beginWrite = none) :
    t.updateTelling tell (some q) = t.settle (some q.rule.kind) (.error .writerBusy) := by
  simp [updateTelling, hw]

theorem updateTelling_of_error (hw : t.store.beginWrite = some s)
    (hs : s.serve t.limits q = .error e) :
    t.updateTelling tell (some q) = t.settle (some q.rule.kind) (.error e) := by
  simp [updateTelling, hw, hs]

theorem updateTelling_of_ok (hw : t.store.beginWrite = some s)
    (hs : s.serve t.limits q = .ok c) :
    t.updateTelling tell (some q) =
      (t.commit tell c).settle (some q.rule.kind) (.ok c.outcome) := by
  simp [updateTelling, hw, hs]

theorem update_of_error (hw : t.store.beginWrite = some s) (hs : s.serve t.limits q = .error e) :
    t.update (some q) = t.settle (some q.rule.kind) (.error e) :=
  updateTelling_of_error notify hw hs

theorem update_of_ok (hw : t.store.beginWrite = some s) (hs : s.serve t.limits q = .ok c) :
    t.update (some q) = (t.commit notify c).settle (some q.rule.kind) (.ok c.outcome) :=
  updateTelling_of_ok notify hw hs

end

/-! ### Beside a writer at work -/

/-- A writer at work refuses every update, whoever is to be told. -/
theorem updateTelling_of_writing {t : Table} (h : t.store.writing = true)
    (tell : Table → Event → Table) (q : Request) :
    t.updateTelling tell (some q) = t.settle (some q.rule.kind) (.error .writerBusy) :=
  updateTelling_of_busy tell (by simp [Store.beginWrite, h])

theorem update_of_writing {t : Table} (h : t.store.writing = true) (q : Request) :
    t.update (some q) = t.settle (some q.rule.kind) (.error .writerBusy) :=
  updateTelling_of_writing h notify q

/-- A writer at work refuses every flush. -/
theorem flush_of_writing {t : Table} (h : t.store.writing = true) :
    t.flush = (t.measure .writerBusy, .error .writerBusy) := by
  simp [flush, Store.beginWrite, h]

/-- **What an observer does is what anybody could do.** While a writer is at work, the table after
an action is the same table or that after a call from outside. -/
theorem act_eq_operate {t : Table} (h : t.store.writing = true) (a : Action) :
    (t.act a).1 = t ∨ ∃ op, (t.act a).1 = (t.operate op).1 := by
  cases a with
  | apply q =>
    -- the two differ in how observers are told, and it does not come to that
    refine .inr ⟨.apply q, ?_⟩
    show (t.updateTelling _ (some q)).1 = (t.updateTelling notify (some q)).1
    rw [updateTelling_of_writing h, updateTelling_of_writing h]
  | flush => exact .inr ⟨.flush, rfl⟩
  | shutdown => exact .inr ⟨.shutdown, rfl⟩
  | count => exact .inl rfl
  | query k => exact .inl rfl
  | dump => exact .inl rfl
  | classify p => exact .inr ⟨.classify p, rfl⟩
  | register o => exact .inr ⟨.register o, rfl⟩
  | unregister tag => exact .inr ⟨.unregister tag, rfl⟩
  | withdraw number => exact .inr ⟨.withdraw number, rfl⟩

/-! ### Calls beside a writer at work -/

theorem load_sameRules {t : Table} (h : t.store.writing = true) (qs : List Request) :
    t.SameRules (t.load qs).1 := by
  induction qs generalizing t with
  | nil => exact .refl t
  | cons q rest ih =>
    have first : t.SameRules (t.update (some q)).1 := by
      rw [update_of_writing h]
      exact t.settle_sameRules _ _
    exact first.trans (ih (by rw [first.store, h]))

theorem update_result_of_writing {t : Table} (h : t.store.writing = true) (q : Request) :
    (t.update (some q)).2 = .error .writerBusy := by
  rw [update_of_writing h]
  rfl

theorem load_results_of_writing {t : Table} (h : t.store.writing = true) (qs : List Request) :
    (t.load qs).2 = qs.map fun q => (q.key, .error .writerBusy) := by
  induction qs generalizing t with
  | nil => rfl
  | cons q rest ih =>
    have first : t.SameRules (t.update (some q)).1 := load_sameRules h [q]
    show (q.key, (t.update (some q)).2) :: ((t.update (some q)).1.load rest).2 = _
    rw [update_result_of_writing h, ih (by rw [first.store, h]), List.map_cons]

/-- **A writer at work keeps the rules from every other call.** -/
theorem operate_sameRules {t : Table} (h : t.store.writing = true) (op : Operation) :
    t.SameRules (t.operate op).1 := by
  cases op with
  | update q =>
    cases q with
    | none => exact t.settle_sameRules none (.error .nullRequest)
    | some q => exact load_sameRules h [q]
  | apply q => exact load_sameRules h [q]
  | load qs => exact load_sameRules h qs
  | flush | shutdown =>
    show t.SameRules t.flush.1
    rw [flush_of_writing h]
    exact ⟨rfl, rfl⟩
  | classify | register | unregister | withdraw => exact ⟨rfl, rfl⟩

/-! ### Telling observers keeps the rules -/

/-- No action of an observer reaches the store: what would change it is refused. -/
theorem act_sameRules {t : Table} (h : t.store.writing = true) (a : Action) :
    t.SameRules (t.act a).1 := by
  rcases act_eq_operate h a with e | ⟨op, e⟩
  · rw [e]
    exact .refl t
  · rw [e]
    exact operate_sameRules h op

theorem perform_sameRules (tag : String) {t : Table} (h : t.store.writing = true)
    (reaction : Reaction Action) : t.SameRules (t.perform tag reaction) := by
  induction reaction generalizing t with
  | done => exact .refl t
  | act a next ih =>
    have step : t.SameRules ((t.act a).1.record (.answered tag (t.act a).2)) :=
      (act_sameRules h a).trans ⟨rfl, rfl⟩
    exact step.trans (ih _ (by rw [step.store, h]))

theorem tellBy_sameRules (conduct : Conduct) {t : Table} (h : t.store.writing = true) (e : Event)
    (o : Observer) : t.SameRules (tellBy conduct e t o) := by
  have told : t.SameRules (t.record (.told o.tag e)) := ⟨rfl, rfl⟩
  exact told.trans (perform_sameRules o.tag (by rw [told.store, h]) _)

/-- What is done to a table in turn keeps its rules if each turn does, as long as the writer is
held. -/
theorem foldl_sameRules {α : Type} {step : Table → α → Table}
    (hstep : ∀ {u : Table} (a : α), u.store.writing = true → u.SameRules (step u a)) (as : List α)
    {t : Table} (h : t.store.writing = true) : t.SameRules (as.foldl step t) := by
  induction as generalizing t with
  | nil => exact .refl t
  | cons a as ih =>
    have first := hstep a h
    exact first.trans (ih (by rw [first.store, h]))

/-- **Telling observers keeps the rules**, whoever they are and whatever they do. -/
theorem notifyBy_sameRules (conduct : Conduct) {t : Table} (h : t.store.writing = true)
    (e : Event) : t.SameRules (t.notifyBy conduct e) :=
  -- the observers to be told are fixed at the beginning, the tables they meet are not
  foldl_sameRules (fun o hu => tellBy_sameRules conduct hu e o) t.registry.observers h

/-- What an observer keeps with every action, and the log with every line, all observers keep. -/
theorem notifyBy_keeps (conduct : Conduct) {P : Table → Prop}
    (hact : ∀ {u : Table} (a : Action), u.store.writing = true → P u → P (u.act a).1)
    (hrecord : ∀ {u : Table} (line : LogEntry), P u → P (u.record line))
    {t : Table} (h : t.store.writing = true) (ht : P t) (e : Event) :
    P (t.notifyBy conduct e) := by
  have performed : ∀ (tag : String) (reaction : Reaction Action) {u : Table},
      u.store.writing = true → P u → P (u.perform tag reaction) := by
    intro tag reaction
    induction reaction with
    | done => exact fun _ hu => hu
    | act a next ih =>
      intro u hw hu
      have same := act_sameRules hw a
      exact ih _ (by show (u.act a).1.store.writing = true; rw [same.store, hw])
        (hrecord _ (hact a hw hu))
  have told : ∀ (os : List Observer) {u : Table}, u.store.writing = true → P u →
      P (os.foldl (tellBy conduct e) u) := by
    intro os
    induction os with
    | nil => exact fun _ hu => hu
    | cons o os ih =>
      intro u hw hu
      have same := tellBy_sameRules conduct hw e o
      exact ih (by rw [same.store, hw]) (performed _ _ hw (hrecord _ hu))
  exact told _ h ht

/-- What is taken over is the change, with the writer ended, if telling observers keeps the rules.
-/
theorem commit_sameRules {tell : Table → Event → Table}
    (told : ∀ {u : Table} (e : Event), u.store.writing = true → u.SameRules (tell u e))
    {t : Table} {c : Change} (h : c.store.writing = true) :
    ({ t with store := c.store.endWrite } : Table).SameRules (t.commit tell c) := by
  have kept := told (u := { t with store := c.store }) c.event h
  refine ⟨kept.limits, ?_⟩
  show (tell { t with store := c.store } c.event).store.endWrite = _
  rw [kept.store]

/-! ### Refused updates -/

/-- **A refused update does nothing but be counted.** -/
theorem update_of_result_error {t : Table} {q : Option Request} {e : UpdateError}
    (h : (t.update q).2 = .error e) : t.update q = t.settle (q.map (·.rule.kind)) (.error e) := by
  rcases q with - | q
  · cases h
    rfl
  · rcases hw : t.store.beginWrite with - | s
    · have busy : t.store.writing = true := by simpa [Store.beginWrite] using hw
      rw [update_of_writing busy] at h ⊢
      cases h
      rfl
    · rcases hs : s.serve t.limits q with e' | c
      · rw [update_of_error hw hs] at h ⊢
        cases h
        rfl
      · rw [update_of_ok hw hs] at h
        cases h

end Table

/-! ### Reachable tables -/

/-- The tables that can be met while a table with some limits is used: between calls, when a change
has been published and its writer is not yet ended, and as observers are told of the change. -/
inductive Reachable (limits : Limits) : Table → Prop
  | new : Reachable limits (.new limits)
  | operate {t : Table} (op : Operation) : Reachable limits t → Reachable limits (t.operate op).1
  | publish {t : Table} {s : Store} {q : Request} {c : Change} : Reachable limits t →
      t.store.beginWrite = some s → s.serve t.limits q = .ok c →
      Reachable limits { t with store := c.store }
  | record {t : Table} (e : LogEntry) : Reachable limits t → Reachable limits (t.record e)

namespace Reachable

variable {limits : Limits} {t : Table}

theorem run (h : Reachable limits t) (ops : List Operation) : Reachable limits (t.run ops) := by
  induction ops generalizing t with
  | nil => exact h
  | cons op rest ih => exact ih (h.operate op)

/-- Telling observers leads to reachable tables, whatever the observers do. -/
theorem notify (h : Reachable limits t) (hw : t.store.writing = true) (conduct : Conduct)
    (e : Event) : Reachable limits (t.notifyBy conduct e) := by
  refine Table.notifyBy_keeps conduct (fun {u} a hu reached => ?_)
    (fun line reached => reached.record line) hw h e
  rcases Table.act_eq_operate hu a with same | ⟨op, same⟩
  · rwa [same]
  · rw [same]
    exact reached.operate op

end Reachable

end PacketPriority
