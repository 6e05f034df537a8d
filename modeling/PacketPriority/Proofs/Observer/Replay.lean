import PacketPriority.Proofs.Ledger
import PacketPriority.Proofs.Observer.Registration

/-!
The events that an observer is told reproduce the table.

A reader who knows the live rules once and is told of every event afterwards can keep them up to
date without looking at the table again: `Event.replay` sets the key of the rule that an event
carries, or erases it. One request is the heart of it (`Store.serve_replay`): what it publishes and
what it tells are the same change, and the event fits the rules that were live before
(`Event.Fits`).

An observer hears of an update once if it is registered when the update begins, and hears nothing of
an update that fails (`Table.Watched.update_cases`). As long as nobody flushes the table, no rule
changes in any other way. The main result, `Table.events_reproduce_rules`, says so of every observer
that stays registered, after every part of every run.
-/

namespace PacketPriority

open Relation

/-! ### Replaying events -/

namespace Event

/-- The live rules after an event, from those before it. -/
def replay (live : RuleKey → Option Rule) (e : Event) : RuleKey → Option Rule :=
  Function.update live e.rule.key
    (match e.kind with
      | .add | .modify => some e.rule
      | .remove => none)

/-- Whether an event can be told of rules: a key is added that was not live, and modified or removed
if it was; what is removed is the rule as it was stored last. -/
def Fits (live : RuleKey → Option Rule) (e : Event) : Prop :=
  match e.kind with
  | .add => live e.rule.key = none
  | .modify => ∃ old, live e.rule.key = some old
  | .remove => live e.rule.key = some e.rule

/-- The live rules after some events, told one after another. -/
def replayAll (live : RuleKey → Option Rule) (es : List Event) : RuleKey → Option Rule :=
  es.foldl replay live

theorem replayAll_append (live : RuleKey → Option Rule) (es es' : List Event) :
    replayAll live (es ++ es') = replayAll (replayAll live es) es' := List.foldl_append

end Event

/-! ### One request -/

namespace Store

variable {s : Store} {limits : Limits} {l : List Node} {c : Change}

/-- The live rules of a store, by key. -/
def live (s : Store) (k : RuleKey) : Option Rule := (s.find? k).map (·.rule)

theorem live_place (s : Store) (r : Rule) :
    (s.place r).store.live = Function.update s.live r.key (some r) := by
  funext k
  -- the three ways to place a rule put the same node into the index
  have put : (s.place r).store.find? k = Keyed.get? k (s.index.put r.key (s.nodeFor r)) := by
    rcases e : s.find? r.key with - | old
    · rw [place_of_new e]
      rfl
    · by_cases hp : old.rule.precedence = r.precedence
      · rw [place_of_same e hp]
        rfl
      · rw [place_of_other e hp]
        rfl
  rw [live, put, Keyed.get?_put]
  by_cases hk : r.key = k
  · subst hk
    simp [nodeFor]
  · rw [if_neg hk, Function.update_of_ne (Ne.symm hk)]
    rfl

theorem live_remove {w : Store} {k : RuleKey} {n : Node} (h : s.remove k = some (w, n)) :
    w.live = Function.update s.live k none := by
  obtain ⟨m, -, hw⟩ := Option.map_eq_some_iff.1 h
  cases hw
  funext j
  show (Keyed.get? j (s.index.erase k)).map _ = _
  rw [Keyed.get?_erase]
  by_cases hk : k = j
  · subst hk
    simp
  · rw [if_neg hk, Function.update_of_ne (Ne.symm hk)]
    rfl

theorem place_replay (s : Store) (r : Rule) :
    (s.place r).store.live = (s.place r).event.replay s.live ∧ (s.place r).event.Fits s.live := by
  rw [live_place]
  rcases e : s.find? r.key with - | old
  · have free : s.live r.key = none := by rw [live, e]; rfl
    rw [place_of_new e]
    exact ⟨rfl, free⟩
  · have taken : s.live r.key = some old.rule := by rw [live, e]; rfl
    by_cases hp : old.rule.precedence = r.precedence
    · rw [place_of_same e hp]
      exact ⟨rfl, old.rule, taken⟩
    · rw [place_of_other e hp]
      exact ⟨rfl, old.rule, taken⟩

/-- **What a request publishes and what it tells are one change**, and the event fits the rules
before it. -/
theorem Lists.serve_replay (h : s.Lists l) {q : Request} (hc : s.serve limits q = .ok c) :
    c.store.live = c.event.replay s.live ∧ c.event.Fits s.live := by
  obtain ⟨-, -, -, rfl⟩ | ⟨-, -, w, n, hr, rfl⟩ := serve_ok_cases hc
  · exact place_replay s _
  · -- the index leads from a key to a rule of that key
    have found := (remove_some hr).1
    have hkey : n.rule.key = q.key := (h.find?_eq_some_iff.1 found).2
    rw [← hkey] at hr found
    refine ⟨live_remove hr, ?_⟩
    show s.live n.rule.key = some n.rule
    rw [live, found]
    rfl

end Store

/-! ### What an observer hears -/

/-- The events that the observer of a number is told in some visits. -/
def heard (n : Nat) (vs : List Visit) : List Event :=
  (vs.filter fun v => v.entry.1 = n).map (·.event)

theorem heard_append (n : Nat) (vs ws : List Visit) :
    heard n (vs ++ ws) = heard n vs ++ heard n ws := by
  simp [heard]

namespace Table

section

variable (conduct : Conduct)

/-- The visits of a batch. -/
def loadVisits (t : Table) : List Request → List Visit
  | [] => []
  | q :: rest =>
    t.updateVisits conduct (some q) ++ (t.updateBy conduct (some q)).1.loadVisits rest

/-- The visits of a call. -/
def operateVisits (t : Table) : Operation → List Visit
  | .update q => t.updateVisits conduct q
  | .apply q => t.updateVisits conduct (some q)
  | .load qs => t.loadVisits conduct qs
  | _ => []

/-- The visits of a list of calls. -/
def runVisits (t : Table) : List Operation → List Visit
  | [] => []
  | op :: rest => t.operateVisits conduct op ++ (t.operateBy conduct op).1.runVisits rest

/-- No call of a list reports that it has flushed the table. -/
def Unflushed (t : Table) : List Operation → Prop
  | [] => True
  | op :: rest =>
    (∀ removed, (t.operateBy conduct op).2 ≠ .flushed (.ok removed)) ∧
      (t.operateBy conduct op).1.Unflushed rest

/-- The tables that calls under a conduct lead to. -/
def ReachedBy (limits : Limits) (t : Table) : Prop :=
  ∃ ops, (Table.new limits).runBy conduct ops = t

end

section

variable {conduct : Conduct} {limits : Limits} {t : Table} {n : Nat}

theorem loadVisits_eq_runVisits (conduct : Conduct) (t : Table) (qs : List Request) :
    t.loadVisits conduct qs = t.runVisits conduct (qs.map .apply) := by
  induction qs generalizing t with
  | nil => rfl
  | cons q rest ih => exact congrArg _ (ih (t.updateBy conduct (some q)).1)

/-- **The visits of a run are all that it leaves in the log.** -/
theorem runBy_log (conduct : Conduct) (t : Table) (ops : List Operation) :
    (t.runBy conduct ops).log =
      ((t.runVisits conduct ops).flatMap Visit.lines).reverse ++ t.log := by
  -- it is so of runs as soon as it is so of each call, for batches too
  have along : ∀ (ops : List Operation), (∀ op ∈ ops, ∀ t : Table, (t.operateBy conduct op).1.log =
        ((t.operateVisits conduct op).flatMap Visit.lines).reverse ++ t.log) →
      ∀ t : Table, (t.runBy conduct ops).log =
        ((t.runVisits conduct ops).flatMap Visit.lines).reverse ++ t.log := by
    intro ops
    induction ops with
    | nil => exact fun _ _ => rfl
    | cons op rest ih =>
      intro each t
      have first := each op List.mem_cons_self t
      have later := ih (fun op hop => each op (List.mem_cons_of_mem _ hop))
        (t.operateBy conduct op).1
      show ((t.operateBy conduct op).1.runBy conduct rest).log = _
      rw [later, first, runVisits, List.flatMap_append, List.reverse_append, List.append_assoc]
  refine along ops (fun op _ t => ?_) t
  cases op with
  | update q => exact updateBy_log conduct t q
  | apply q => exact updateBy_log conduct t (some q)
  | load qs =>
    show (t.loadBy conduct qs).1.log = ((t.loadVisits conduct qs).flatMap _).reverse ++ _
    rw [loadBy_eq_runBy, loadVisits_eq_runVisits]
    refine along _ (fun op hop t => ?_) t
    obtain ⟨q, -, rfl⟩ := List.mem_map.1 hop
    exact updateBy_log conduct t (some q)
  | flush | shutdown =>
    show t.flush.1.log = _
    unfold flush
    split <;> rfl
  | classify | register | unregister | withdraw => rfl

end

/-! ### One update, and an observer of it -/

/-- A table between calls, with the observer of a number registered. -/
structure Watched (limits : Limits) (n : Nat) (t : Table) : Prop where
  mirrors : ∃ l, t.Mirrors limits l
  sound : t.registry.Sound
  registered : n ∈ t.registry.numbers

section

variable {conduct : Conduct} {limits : Limits} {t u : Table} {l : List Rule} {n : Nat}

theorem Mirrors.operateBy (h : t.Mirrors limits l) (conduct : Conduct) (op : Operation) :
    ∃ l', (t.operateBy conduct op).1.Mirrors limits l' := by
  -- the rules are those that the observers' own reactions would lead to
  obtain ⟨rules, -⟩ := (SameRules.refl t).operateBy Observer.reaction conduct op
  rw [operateBy_reaction] at rules
  exact ⟨_, (h.operate op).1.of_sameRules rules⟩

theorem Mirrors.published_replay (h : t.Mirrors limits l) {q : Option Request} {c : Change}
    (hc : t.published q = some c) :
    c.store.live = c.event.replay t.query ∧ c.event.Fits t.query := by
  obtain ⟨nodes, hkeeps, rfl⟩ := h.keeps
  obtain ⟨q, rfl, -, served⟩ := published_eq_some hc
  exact (hkeeps.setWriting true).toLists.serve_replay served

/-- An observer that is registered is told of an event once. -/
theorem heard_notifyVisits (sound : t.registry.Sound) (hn : n ∈ t.registry.numbers) (u : Table)
    (e : Event) : heard n (u.notifyVisits conduct e t.registry.entries) = [e] := by
  have told := entries_notifyVisits conduct (t := u) e t.registry.entries
  -- of a visit, only its number and its event count
  have count : heard n (u.notifyVisits conduct e t.registry.entries) =
      (t.registry.numbers.filter (· = n)).map fun _ => e := by
    have all : (u.notifyVisits conduct e t.registry.entries).map (fun v => (v.entry.1, v.event)) =
        t.registry.numbers.map (·, e) := by
      have := congrArg (List.map fun x => (x.1.1, x.2)) told
      simpa [Registry.numbers, Function.comp_def] using this
    have kept := congrArg (fun xs => (xs.filter (·.1 = n)).map Prod.snd) all
    simpa [heard, List.filter_map, Function.comp_def] using kept
  rw [count, List.filter_eq, List.count_eq_one_of_mem sound.nodup hn]
  rfl

/-- **One update, and what an observer hears of it**: if it succeeds, one event that fits the rules
before and makes of them the rules after; if it fails, nothing, and no rule has changed. -/
theorem Watched.update_cases (h : Watched limits n t) (conduct : Conduct) (q : Option Request) :
    (∃ outcome e, (t.updateBy conduct q).2 = .ok outcome ∧
        heard n (t.updateVisits conduct q) = [e] ∧ e.Fits t.query ∧
        (t.updateBy conduct q).1.query = e.replay t.query) ∨
      ∃ e, (t.updateBy conduct q).2 = .error e ∧ heard n (t.updateVisits conduct q) = [] ∧
        (t.updateBy conduct q).1.query = t.query := by
  obtain ⟨l, hm⟩ := h.mirrors
  rcases updateBy_cases conduct t q with ⟨c, hc, published, ok, same⟩ | ⟨e, hc, failed, same⟩
  · obtain ⟨replay, fits⟩ := hm.published_replay hc
    refine .inl ⟨c.outcome, c.event, ok, ?_, fits, ?_⟩
    · rw [updateVisits, hc]
      exact heard_notifyVisits h.sound h.registered _ _
    · have ended := ended_of_commit conduct published same
      rw [← replay]
      show (t.updateBy conduct q).1.store.live = _
      rw [ended.store]
      rfl
  · refine .inr ⟨e, failed, ?_, ?_⟩
    · rw [updateVisits, hc]
      rfl
    · show (t.updateBy conduct q).1.store.live = _
      rw [same.store]
      rfl

/-- The events that an observer hears of an update make of the rules before the rules after. -/
theorem Watched.update_replay (h : Watched limits n t) (q : Option Request) :
    Event.replayAll t.query (heard n (t.updateVisits conduct q)) =
      (t.updateBy conduct q).1.query := by
  rcases h.update_cases conduct q with ⟨-, e, -, heard, -, after⟩ | ⟨-, -, heard, after⟩
  · rw [heard, after]
    rfl
  · rw [heard, after]
    rfl

/-! ### Runs -/

theorem Watched.operateBy (h : Watched limits n t) (op : Operation)
    (stays : n ∈ (t.operateBy conduct op).1.registry.numbers) :
    Watched limits n (t.operateBy conduct op).1 where
  mirrors := by
    obtain ⟨l, hm⟩ := h.mirrors
    exact hm.operateBy conduct op
  sound := h.sound.steps (t.operateBy_registry conduct op)
  registered := stays

/-- An observer that is registered later has been so in between. -/
theorem Watched.registered_between (h : Watched limits n t) {v : Table}
    (before : ReflTransGen Registry.Step t.registry u.registry)
    (after : ReflTransGen Registry.Step u.registry v.registry)
    (stays : n ∈ v.registry.numbers) : n ∈ u.registry.numbers := by
  have known : n < t.registry.fresh := h.sound.lt_fresh n h.registered
  have numbered := (Registry.numbers_of_steps before).1
  exact (Registry.numbers_of_steps after).2 n (Nat.lt_of_lt_of_le known numbered) stays

theorem Watched.load_replay (h : Watched limits n t) (qs : List Request)
    (stays : n ∈ (t.loadBy conduct qs).1.registry.numbers) :
    Event.replayAll t.query (heard n (t.loadVisits conduct qs)) =
      (t.loadBy conduct qs).1.query := by
  induction qs generalizing t with
  | nil => rfl
  | cons q rest ih =>
    have still := h.registered_between (t.updateBy_registry conduct (some q))
      (loadBy_registry conduct _ rest) stays
    rw [loadVisits, heard_append, Event.replayAll_append, h.update_replay]
    exact ih (h.operateBy (.apply q) still) stays

/-- The events that an observer hears of a call make of the rules before the rules after, unless the
table is flushed. -/
theorem Watched.operate_replay (h : Watched limits n t) {op : Operation}
    (unflushed : ∀ removed, (t.operateBy conduct op).2 ≠ .flushed (.ok removed))
    (stays : n ∈ (t.operateBy conduct op).1.registry.numbers) :
    Event.replayAll t.query (heard n (t.operateVisits conduct op)) =
      (t.operateBy conduct op).1.query := by
  cases op with
  | update q => exact h.update_replay q
  | apply q => exact h.update_replay (some q)
  | load qs => exact h.load_replay qs stays
  | flush | shutdown =>
    -- between calls no writer is at work, so that a flush succeeds
    obtain ⟨l, hm⟩ := h.mirrors
    exact absurd (congrArg Report.flushed hm.flush.2) (unflushed _)
  | classify | register | unregister | withdraw => rfl

theorem Watched.run_replay (h : Watched limits n t) {ops : List Operation}
    (unflushed : t.Unflushed conduct ops) (stays : n ∈ (t.runBy conduct ops).registry.numbers) :
    Event.replayAll t.query (heard n (t.runVisits conduct ops)) = (t.runBy conduct ops).query := by
  induction ops generalizing t with
  | nil => rfl
  | cons op rest ih =>
    -- the observer is there in the end, so it is there when the rest of the run begins
    have still := h.registered_between (t.operateBy_registry conduct op)
      (runBy_registry conduct _ rest) stays
    rw [runVisits, heard_append, Event.replayAll_append, h.operate_replay unflushed.1 still]
    exact ih (h.operateBy op still) unflushed.2 stays

theorem Unflushed.of_append {ops ops' : List Operation} (h : t.Unflushed conduct (ops ++ ops')) :
    t.Unflushed conduct ops := by
  induction ops generalizing t with
  | nil => exact trivial
  | cons op rest ih => exact ⟨h.1, ih h.2⟩

/-- A table that calls have led to mirrors a ledger, and numbers its observers apart. -/
theorem ReachedBy.watched (h : ReachedBy conduct limits t) (hn : n ∈ t.registry.numbers) :
    Watched limits n t := by
  obtain ⟨ops, rfl⟩ := h
  have mirrors : ∀ (ops : List Operation) {t : Table} {l : List Rule}, t.Mirrors limits l →
      ∃ l', (t.runBy conduct ops).Mirrors limits l' := by
    intro ops
    induction ops with
    | nil => exact fun hm => ⟨_, hm⟩
    | cons op rest ih =>
      intro t l hm
      obtain ⟨l', hm'⟩ := hm.operateBy conduct op
      exact ih hm'
  exact ⟨mirrors ops (Mirrors.new limits), registry_sound_of_run conduct limits ops, hn⟩

/-! ### The main result -/

/-- **The events that an observer is told reproduce the table**, whatever it and all others do. Of
an update that fails it hears nothing; of one that succeeds it hears one event, which fits the rules
before. And if it stays registered while the table is not flushed, the rules after each part of a
run are those that its events make of the rules before; what it hears in a run is what the log says.
-/
theorem events_reproduce_rules (conduct : Conduct) {limits : Limits} {t : Table} {n : Nat}
    (reached : ReachedBy conduct limits t) (registered : n ∈ t.registry.numbers) :
    (∀ q,
      (∀ outcome, (t.updateBy conduct q).2 = .ok outcome →
        ∃ e, heard n (t.updateVisits conduct q) = [e] ∧ e.Fits t.query) ∧
      ∀ e, (t.updateBy conduct q).2 = .error e → heard n (t.updateVisits conduct q) = []) ∧
    ∀ ops, t.Unflushed conduct ops → n ∈ (t.runBy conduct ops).registry.numbers →
      ∀ part, part <+: ops →
        (t.runBy conduct part).log =
          ((t.runVisits conduct part).flatMap Visit.lines).reverse ++ t.log ∧
        Event.replayAll t.query (heard n (t.runVisits conduct part)) =
          (t.runBy conduct part).query := by
  have h := reached.watched registered
  refine ⟨fun q => ⟨fun outcome ok => ?_, fun e failed => ?_⟩, ?_⟩
  · rcases h.update_cases conduct q with ⟨-, e, -, told, fits, -⟩ | ⟨e, failed, -, -⟩
    · exact ⟨e, told, fits⟩
    · rw [failed] at ok
      cases ok
  · rcases h.update_cases conduct q with ⟨outcome, -, ok, -, -, -⟩ | ⟨-, -, told, -⟩
    · rw [ok] at failed
      cases failed
    · exact told
  · rintro ops unflushed stays part ⟨rest, rfl⟩
    have still : n ∈ (t.runBy conduct part).registry.numbers := by
      rw [runBy_append] at stays
      exact h.registered_between (t.runBy_registry conduct part)
        (runBy_registry conduct _ rest) stays
    exact ⟨runBy_log conduct t part, h.run_replay unflushed.of_append still⟩

/-- A rule is added under precedence 255, moved, refused and removed, with one observer that
registers itself again at every event: it hears of three changes, under the precedences that were
stored. -/
theorem events_reproduce_rules_of_move :
    let conduct : Conduct := fun o _ _ => .ofList [.register o, .flush]
    let t := (Table.new {}).runBy conduct [.register (.mk "a" none [])]
    let ops : List Operation :=
      [.apply (.add { id := 1, precedence := 255 }), .update none,
        .load [.add { id := 1, precedence := 7 }, .add { id := 2, treatment := { output := 10 } }],
        .apply (.delete ⟨1, .sawf⟩)]
    ReachedBy conduct {} t ∧ 0 ∈ t.registry.numbers ∧ t.Unflushed conduct ops ∧
      0 ∈ (t.runBy conduct ops).registry.numbers ∧
      Event.replayAll t.query (heard 0 (t.runVisits conduct ops)) = (t.runBy conduct ops).query ∧
      heard 0 (t.runVisits conduct ops) =
        [⟨.add, { id := 1 }⟩, ⟨.modify, { id := 1, precedence := 7 }⟩,
          ⟨.remove, { id := 1, precedence := 7 }⟩] := by
  intro conduct t ops
  have reached : ReachedBy conduct {} t := ⟨_, rfl⟩
  have registered : 0 ∈ t.registry.numbers := List.mem_cons_self
  have unflushed : t.Unflushed conduct ops := by
    refine ⟨?_, ?_, ?_, ?_, trivial⟩ <;>
      · intro _ h
        cases h
  have stays : 0 ∈ (t.runBy conduct ops).registry.numbers := by decide
  obtain ⟨-, runs⟩ := events_reproduce_rules conduct reached registered
  exact ⟨reached, registered, unflushed, stays,
    (runs ops unflushed stays ops List.prefix_rfl).2, by decide⟩

end

end Table

end PacketPriority
