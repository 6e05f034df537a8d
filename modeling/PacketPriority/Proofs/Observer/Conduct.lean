import PacketPriority.Proofs.Table.Run

/-!
Observers of any conduct.

An observer carries its reaction inside. It can register others, which register others, to any
depth, but never itself. Here the reactions come from outside: a `Conduct` says what each observer
does, and the observers are no more than names for it. Under a conduct an observer may register
itself and two observers may register each other. `operateBy conduct` is a call in which observers
follow a conduct; the calls of a table are those in which each follows its own reaction
(`operateBy_reaction`).

Serving a request is a recursion without an evident end: an observer that is told may ask for an
update, which would tell observers, which may ask for updates. `Updates` is this recursion with
nothing cut short. Two facts are shown of it:

* it has exactly one end, the one that `updateBy` computes without any nesting (`updates_iff`): the
  writer is held while observers are told, so that an update asked for by one of them ends at once;
* store and result of a call are the same under every conduct and whoever is registered
  (`SameRules.operateBy`).
-/

namespace PacketPriority

namespace Table

/-! ### Calls under a conduct -/

section

variable (conduct : Conduct)

/-- Serves a request, if one is given and no writer is at work. -/
def updateBy (t : Table) (q : Option Request) : Table × UpdateResult :=
  t.updateTelling (notifyBy conduct) q

/-- Serves requests one after another, whatever becomes of each. -/
def loadBy (t : Table) (qs : List Request) : Table × List (RuleKey × UpdateResult) :=
  t.loadTelling (notifyBy conduct) qs

/-- The table after a call, and what the call reports. -/
def operateBy (t : Table) (op : Operation) : Table × Report :=
  t.operateTelling (notifyBy conduct) op

/-- The table after a list of calls. -/
def runBy (t : Table) (ops : List Operation) : Table := t.runTelling (notifyBy conduct) ops

end

/-- Observers that follow their own reactions follow a conduct. -/
theorem operateBy_reaction (t : Table) (op : Operation) :
    t.operateBy Observer.reaction op = t.operate op := rfl

theorem runBy_append (conduct : Conduct) (t : Table) (ops ops' : List Operation) :
    t.runBy conduct (ops ++ ops') = (t.runBy conduct ops).runBy conduct ops' := List.foldl_append

/-- A batch is its requests, one after another. -/
theorem loadBy_eq_runBy (conduct : Conduct) (t : Table) (qs : List Request) :
    (t.loadBy conduct qs).1 = t.runBy conduct (qs.map .apply) := by
  induction qs generalizing t with
  | nil => rfl
  | cons q rest ih => exact ih (t.updateBy conduct (some q)).1

/-! ### No conduct reaches the rules -/

namespace SameRules

variable {t u : Table}

/-- **Whoever is told of an update and whatever they do, its result is the same**, and so are the
rules. -/
theorem updateBy (h : t.SameRules u) (conduct conduct' : Conduct) (q : Option Request) :
    (t.updateBy conduct q).1.SameRules (u.updateBy conduct' q).1 ∧
      (t.updateBy conduct q).2 = (u.updateBy conduct' q).2 := by
  have settled : ∀ {v w : Table}, v.SameRules w → ∀ kind r,
      (v.settle kind r).1.SameRules (w.settle kind r).1 := by
    intro v w hvw kind r
    have before := v.settle_sameRules kind r
    have after := w.settle_sameRules kind r
    exact ⟨by rw [after.limits, hvw.limits, before.limits],
      by rw [after.store, hvw.store, before.store]⟩
  rcases q with - | q
  · exact ⟨settled h none _, rfl⟩
  rcases hw : t.store.beginWrite with - | s
  · simp only [Table.updateBy, updateTelling, h.store, hw]
    exact ⟨settled h _ _, rfl⟩
  rcases hs : s.serve t.limits q with e | c
  · simp only [Table.updateBy, updateTelling, h.store, h.limits, hw, hs]
    exact ⟨settled h _ _, rfl⟩
  · -- observers are told on both sides, and leave the store of the change as it is
    obtain ⟨-, rfl⟩ := Store.beginWrite_eq_some_iff.1 hw
    have published : c.store.writing = true := Store.serve_writing hs
    have first := commit_sameRules (fun e hv => notifyBy_sameRules conduct hv e) (t := t) published
    have second := commit_sameRules (fun e hv => notifyBy_sameRules conduct' hv e) (t := u)
      published
    have same : (t.commit (notifyBy conduct) c).SameRules (u.commit (notifyBy conduct') c) :=
      ⟨by rw [first.limits, second.limits]; exact h.limits, by rw [first.store, second.store]⟩
    simp only [Table.updateBy, updateTelling, h.store, h.limits, hw, hs]
    exact ⟨settled same _ _, rfl⟩

theorem loadBy (h : t.SameRules u) (conduct conduct' : Conduct) (qs : List Request) :
    (t.loadBy conduct qs).1.SameRules (u.loadBy conduct' qs).1 ∧
      (t.loadBy conduct qs).2 = (u.loadBy conduct' qs).2 := by
  induction qs generalizing t u with
  | nil => exact ⟨h, rfl⟩
  | cons q rest ih =>
    obtain ⟨first, result⟩ := h.updateBy conduct conduct' (some q)
    obtain ⟨later, results⟩ := ih first
    refine ⟨later, ?_⟩
    show (q.key, (t.updateBy conduct (some q)).2) ::
      ((t.updateBy conduct (some q)).1.loadBy conduct rest).2 = _
    rw [result, results]
    rfl

theorem flush (h : t.SameRules u) : t.flush.1.SameRules u.flush.1 ∧ t.flush.2 = u.flush.2 := by
  rcases hw : t.store.beginWrite with - | s
  · simp only [Table.flush, h.store, hw]
    exact ⟨⟨h.limits, h.store⟩, trivial⟩
  · simp only [Table.flush, h.store, hw]
    exact ⟨⟨h.limits, rfl⟩, trivial⟩

/-- **Store and report of a call are the same under every conduct**, whoever is registered. -/
theorem operateBy (h : t.SameRules u) (conduct conduct' : Conduct) (op : Operation) :
    (t.operateBy conduct op).1.SameRules (u.operateBy conduct' op).1 ∧
      (t.operateBy conduct op).2 = (u.operateBy conduct' op).2 := by
  cases op with
  | update q =>
    obtain ⟨hm, hr⟩ := h.updateBy conduct conduct' q
    exact ⟨hm, congrArg Report.updated hr⟩
  | apply q =>
    obtain ⟨hm, hr⟩ := h.updateBy conduct conduct' (some q)
    exact ⟨hm, congrArg Report.updated hr⟩
  | load qs =>
    obtain ⟨hm, hr⟩ := h.loadBy conduct conduct' qs
    exact ⟨hm, congrArg Report.loaded hr⟩
  | flush | shutdown =>
    obtain ⟨hm, hr⟩ := h.flush
    exact ⟨hm, congrArg (fun r => Report.flushed (Except.map UInt32.toNat r)) hr⟩
  | classify | register | unregister | withdraw => exact ⟨⟨h.limits, h.store⟩, rfl⟩

end SameRules

/-! ### The recursion as it stands -/

section

variable (conduct : Conduct)

mutual

/-- Serving a request on a table ends with a table and a result. -/
inductive Updates : Table → Option Request → Table → UpdateResult → Prop
  | null {t : Table} :
      Updates t none (t.settle none (.error .nullRequest)).1 (.error .nullRequest)
  | busy {t : Table} {q : Request} : t.store.beginWrite = none →
      Updates t (some q) (t.settle (some q.rule.kind) (.error .writerBusy)).1 (.error .writerBusy)
  | refused {t : Table} {q : Request} {s : Store} {e : UpdateError} :
      t.store.beginWrite = some s → s.serve t.limits q = .error e →
      Updates t (some q) (t.settle (some q.rule.kind) (.error e)).1 (.error e)
  | served {t u : Table} {q : Request} {s : Store} {c : Change} :
      t.store.beginWrite = some s → s.serve t.limits q = .ok c →
      Tells c.event { t with store := c.store } t.registry.observers u →
      Updates t (some q)
        (({ u with store := u.store.endWrite } : Table).settle (some q.rule.kind)
          (.ok c.outcome)).1
        (.ok c.outcome)

/-- Telling observers of an event, one after another, ends with a table. -/
inductive Tells : Event → Table → List Observer → Table → Prop
  | nil {e : Event} {t : Table} : Tells e t [] t
  | cons {e : Event} {t u v : Table} {o : Observer} {os : List Observer} :
      Performs o.tag (t.record (.told o.tag e)) (conduct o t.log e) u → Tells e u os v →
      Tells e t (o :: os) v

/-- Carrying out a reaction ends with a table. An update asked for is an update like any other. -/
inductive Performs : String → Table → Reaction Action → Table → Prop
  | done {tag : String} {t : Table} : Performs tag t .done t
  | apply {tag : String} {t u v : Table} {q : Request} {r : UpdateResult}
      {next : Answer → Reaction Action} :
      Updates t (some q) u r →
      Performs tag (u.record (.answered tag (.updated r))) (next (.updated r)) v →
      Performs tag t (.act (.apply q) next) v
  | act {tag : String} {t v : Table} {a : Action} {next : Answer → Reaction Action} :
      (∀ q, a ≠ .apply q) →
      Performs tag ((t.act a).1.record (.answered tag (t.act a).2)) (next (t.act a).2) v →
      Performs tag t (.act a next) v

end

variable {conduct}

/-- Beside a writer at work an update is refused, and nobody is told. -/
theorem updates_iff_of_writing {t u : Table} (h : t.store.writing = true) {q : Request}
    {r : UpdateResult} :
    Updates conduct t (some q) u r ↔
      (u, r) = t.settle (some q.rule.kind) (.error .writerBusy) := by
  have busy : t.store.beginWrite = none := by simp [Store.beginWrite, h]
  constructor
  · intro hu
    cases hu with
    | busy _ => rfl
    | refused hw _ => rw [busy] at hw; cases hw
    | served hw _ _ => rw [busy] at hw; cases hw
  · intro hu
    cases hu
    exact .busy busy

/-- To carry out an action is what carrying out a reaction begins with, a nested update included. -/
theorem performs_act_iff {tag : String} {t u : Table} (h : t.store.writing = true) {a : Action}
    {next : Answer → Reaction Action} :
    Performs conduct tag t (.act a next) u ↔
      Performs conduct tag ((t.act a).1.record (.answered tag (t.act a).2))
        (next (t.act a).2) u := by
  by_cases asked : ∃ q, a = .apply q
  · obtain ⟨q, rfl⟩ := asked
    -- the nested update is refused, and that is the answer of `act`
    have answer : t.act (.apply q) =
        ((t.settle (some q.rule.kind) (.error .writerBusy)).1, .updated (.error .writerBusy)) := by
      show ((t.updateTelling _ (some q)).1, Answer.updated (t.updateTelling _ (some q)).2) = _
      rw [updateTelling_of_writing h]
      rfl
    rw [answer]
    constructor
    · intro hp
      cases hp with
      | apply hu hrest =>
        have ended := (updates_iff_of_writing h).1 hu
        cases ended
        exact hrest
      | act other _ => exact absurd rfl (other q)
    · exact .apply ((updates_iff_of_writing h).2 rfl)
  · constructor
    · intro hp
      cases hp with
      | apply _ _ => exact absurd ⟨_, rfl⟩ asked
      | act _ hrest => exact hrest
    · exact .act fun q hq => asked ⟨q, hq⟩

theorem performs_iff {tag : String} {t u : Table} (h : t.store.writing = true)
    {reaction : Reaction Action} :
    Performs conduct tag t reaction u ↔ u = t.perform tag reaction := by
  induction reaction generalizing t with
  | done =>
    constructor
    · intro hp
      cases hp
      rfl
    · rintro rfl
      exact .done
  | act a next ih =>
    have held : ((t.act a).1.record (.answered tag (t.act a).2)).store.writing = true := by
      have same := act_sameRules h a
      show (t.act a).1.store.writing = true
      rw [same.store, h]
    rw [performs_act_iff h]
    exact ih _ held

theorem tells_iff {e : Event} {t u : Table} (h : t.store.writing = true) {os : List Observer} :
    Tells conduct e t os u ↔ u = os.foldl (tellBy conduct e) t := by
  induction os generalizing t with
  | nil =>
    constructor
    · intro ht
      cases ht
      rfl
    · rintro rfl
      exact .nil
  | cons o os ih =>
    have held : (tellBy conduct e t o).store.writing = true := by
      rw [(tellBy_sameRules conduct h e o).store, h]
    have one : ∀ v, Performs conduct o.tag (t.record (.told o.tag e)) (conduct o t.log e) v ↔
        v = tellBy conduct e t o := fun v => performs_iff (t := t.record (.told o.tag e)) h
    constructor
    · intro ht
      cases ht with
      | cons hp hrest =>
        obtain rfl := (one _).1 hp
        exact (ih held).1 hrest
    · intro hu
      exact .cons ((one _).2 rfl) ((ih held).2 hu)

/-- **Serving a request has exactly one end**, and it is reached without any nesting. -/
theorem updates_iff {t u : Table} {q : Option Request} {r : UpdateResult} :
    Updates conduct t q u r ↔ t.updateBy conduct q = (u, r) := by
  -- observers are told of a change that is published, with its writer held
  have told : ∀ {s : Store} {q : Request} {c : Change} {v : Table},
      t.store.beginWrite = some s → s.serve t.limits q = .ok c →
      (Tells conduct c.event { t with store := c.store } t.registry.observers v ↔
        v = ({ t with store := c.store } : Table).notifyBy conduct c.event) := by
    intro s q c v hw hs
    obtain ⟨-, rfl⟩ := Store.beginWrite_eq_some_iff.1 hw
    exact tells_iff (t := { t with store := c.store }) (Store.serve_writing hs)
  constructor
  · intro hu
    cases hu with
    | null => rfl
    | busy hw => exact updateTelling_of_busy _ hw
    | refused hw hs => exact updateTelling_of_error _ hw hs
    | served hw hs ht =>
      obtain rfl := (told hw hs).1 ht
      exact updateTelling_of_ok _ hw hs
  · intro hu
    rcases q with - | q
    · cases hu
      exact .null
    rcases hw : t.store.beginWrite with - | s
    · rw [updateBy, updateTelling_of_busy _ hw] at hu
      cases hu
      exact .busy hw
    rcases hs : s.serve t.limits q with e | c
    · rw [updateBy, updateTelling_of_error _ hw hs] at hu
      cases hu
      exact .refused hw hs
    · rw [updateBy, updateTelling_of_ok _ hw hs] at hu
      cases hu
      exact .served hw hs ((told hw hs).2 rfl)

end

end Table

end PacketPriority
