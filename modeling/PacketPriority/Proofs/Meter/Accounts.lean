import PacketPriority.Proofs.Meter.Totals
import PacketPriority.Proofs.Observer.Audience

/-!
Every call is counted, whoever makes it.

A call reports how many updates it made, how often it was refused beside a writer and how many
flushes it came to; `Table.Accounts` says that a meter has counted just that, under the names that
stand for it. It is so of the end of an update (`settle_accounts`) and of a flush. The calls of an
audience are made beside a writer: each is counted too, and none as a success
(`Table.Calls.beside`). So an update is counted together with all the calls that are made while it
is told (`Audience.update_accounts`), and what is counted as a success is its own
(`Audience.update_count`).
-/

namespace PacketPriority

/-- Counting an event leaves the counters of other series. -/
theorem Meter.count_increment_of_ne (m : Meter) {s s' : Series} (h : s ≠ s') :
    (m.increment s).count s' = m.count s' := by
  rw [count_increment, if_neg h, Nat.add_zero]

/-! ### What is counted of a call -/

/-- Whether a call has been refused because a writer is at work. -/
def isBusy {α : Type} : Except UpdateError α → Bool
  | .error .writerBusy => true
  | _ => false

namespace Report

/-- The number of updates of a call. -/
def updates : Report → Nat
  | updated _ => 1
  | loaded rs => rs.length
  | flushed _ | done => 0

/-- How many times a call was refused because a writer is at work. -/
def busy : Report → Nat
  | updated r => (isBusy r).toNat
  | loaded rs => rs.countP (isBusy ·.2)
  | flushed r => (isBusy r).toNat
  | done => 0

/-- The number of flushes that a call has come to. -/
def flushes : Report → Nat
  | flushed (.ok _) => 1
  | _ => 0

end Report

/-- From one meter to another so many updates, refusals beside a writer and flushes are counted. -/
structure Meter.Counts (m : Meter) (updates busy flushes : Nat) (m' : Meter) : Prop where
  distinct : m.Distinct → m'.Distinct
  updates_eq : m.Distinct → m'.total "spm_mapdb_updates_total" [] =
    m.total "spm_mapdb_updates_total" [] + updates
  busy_eq : m.Distinct → m'.total "spm_mapdb_writer_busy_total" [] =
    m.total "spm_mapdb_writer_busy_total" [] + busy
  flushes_eq : m.Distinct → m'.total "spm_mapdb_flushes_total" [] =
    m.total "spm_mapdb_flushes_total" [] + flushes

namespace Meter.Counts

variable {m m' m'' : Meter} {n b f n' b' f' : Nat}

theorem refl (m : Meter) : m.Counts 0 0 0 m := ⟨id, fun _ => rfl, fun _ => rfl, fun _ => rfl⟩

theorem trans (h : m.Counts n b f m') (h' : m'.Counts n' b' f' m'') :
    m.Counts (n + n') (b + b') (f + f') m'' where
  distinct hm := h'.distinct (h.distinct hm)
  updates_eq hm := by rw [h'.updates_eq (h.distinct hm), h.updates_eq hm, Nat.add_assoc]
  busy_eq hm := by rw [h'.busy_eq (h.distinct hm), h.busy_eq hm, Nat.add_assoc]
  flushes_eq hm := by rw [h'.flushes_eq (h.distinct hm), h.flushes_eq hm, Nat.add_assoc]

/-- The gauge is no counter. -/
theorem setRules (h : m.Counts n b f m') (rules : UInt32) : m.Counts n b f (m'.setRules rules) :=
  ⟨h.distinct, h.updates_eq, h.busy_eq, h.flushes_eq⟩

/-- An event is counted under the name of its series. -/
theorem increment (m : Meter) (s : Series) :
    m.Counts (if s.name = "spm_mapdb_updates_total" then 1 else 0)
      (if s.name = "spm_mapdb_writer_busy_total" then 1 else 0)
      (if s.name = "spm_mapdb_flushes_total" then 1 else 0) (m.increment s) := by
  have once : ∀ (hm : m.Distinct) (name : String),
      (m.increment s).total name [] = m.total name [] + if s.name = name then 1 else 0 := by
    intro hm name
    rw [total_increment hm]
    simp
  exact ⟨fun hm => hm.increment s, fun hm => once hm _, fun hm => once hm _, fun hm => once hm _⟩

end Meter.Counts

namespace Table

/-- Between two tables some calls are counted, each for what it reports. -/
def Accounts (t : Table) (calls : List Report) (u : Table) : Prop :=
  t.meter.Counts (calls.map Report.updates).sum (calls.map Report.busy).sum
    (calls.map Report.flushes).sum u.meter

variable {t u v : Table} {rs rs' : List Report}

theorem Accounts.append (h : t.Accounts rs u) (h' : u.Accounts rs' v) :
    t.Accounts (rs ++ rs') v := by
  unfold Accounts
  simp only [List.map_append, List.sum_append]
  exact Meter.Counts.trans h h'

theorem accounts_singleton {r : Report} :
    t.Accounts [r] u ↔ t.meter.Counts r.updates r.busy r.flushes u.meter := by
  simp [Accounts]

theorem settle_accounts (t : Table) (kind : Option RuleKind) (r : UpdateResult) :
    t.Accounts [.updated r] (t.settle kind r).1 := by
  have last : ∀ m : Meter, m.Counts 1 0 0
      ((m.increment (.updates (.ofResult r) kind)).setRules t.store.count) :=
    fun m => (Meter.Counts.increment m (.updates (.ofResult r) kind)).setRules _
  rw [accounts_singleton]
  unfold settle
  split
  · exact (Meter.Counts.increment t.meter .writerBusy).trans (last _)
  · next other =>
    have granted : isBusy r = false := by
      unfold isBusy
      split
      · exact absurd rfl other
      · rfl
    rw [Report.busy, granted]
    exact last t.meter

theorem flush_accounts (t : Table) :
    t.Accounts [.flushed (t.flush.2.map UInt32.toNat)] t.flush.1 := by
  rw [accounts_singleton]
  unfold flush
  split
  · exact Meter.Counts.increment t.meter .writerBusy
  · exact (Meter.Counts.increment t.meter .flushes).setRules 0

/-- A batch is counted as its requests are. -/
theorem Accounts.loaded {k : RuleKey} {r : UpdateResult} {results : List (RuleKey × UpdateResult)}
    (h : t.Accounts [.updated r, .loaded results] u) :
    t.Accounts [.loaded ((k, r) :: results)] u := by
  have busy : (Report.loaded ((k, r) :: results)).busy =
      (Report.updated r).busy + (Report.loaded results).busy := by
    cases e : isBusy r <;> simp [Report.busy, e, Nat.add_comm]
  have updates : (Report.loaded ((k, r) :: results)).updates =
      (Report.updated r).updates + (Report.loaded results).updates :=
    Nat.add_comm results.length 1
  rw [accounts_singleton, busy, updates]
  simpa [Accounts, Report.flushes] using h

/-! ### Beside a writer at work -/

/-- Calls beside a writer at work are counted, and none of them as a success. -/
structure Beside (t : Table) (calls : List Report) (u : Table) : Prop where
  accounts : t.Accounts calls u
  count_eq : ∀ label kind, (∀ e, label ≠ .refused e) →
    u.meter.count (.updates label kind) = t.meter.count (.updates label kind)

namespace Beside

theorem refl (t : Table) : t.Beside [] t := ⟨.refl t.meter, fun _ _ _ => rfl⟩

theorem append (h : t.Beside rs u) (h' : u.Beside rs' v) : t.Beside (rs ++ rs') v where
  accounts := h.accounts.append h'.accounts
  count_eq label kind success := by
    rw [h'.count_eq label kind success, h.count_eq label kind success]

/-- A call that touches no meter and reports nothing. -/
theorem of_meter_eq (same : u.meter = t.meter) : t.Beside [.done] u where
  accounts := by
    rw [accounts_singleton, same]
    exact .refl t.meter
  count_eq label kind _ := by rw [same]

theorem classification (t : Table) (flavor : Flavor) (hit : Bool) :
    t.Beside [] (t.measure (.classifications flavor hit)) where
  accounts := .increment t.meter (.classifications flavor hit)
  count_eq _ _ _ := t.meter.count_increment_of_ne nofun

end Beside

theorem classify_beside (t : Table) (p : Packet) : t.Beside [.done] (t.classify p).1 :=
  -- each way to classify is counted, and then the call is over
  ((((Beside.classification t _ _).append (.classification _ _ _)).append
    (.classification _ _ _)).append (.classification _ _ _)).append
      ((Beside.classification _ _ _).append (.of_meter_eq rfl))

theorem settle_count (t : Table) (kind kind' : Option RuleKind) (r : UpdateResult)
    (label : UpdateLabel) :
    (t.settle kind r).1.meter.count (.updates label kind') =
      t.meter.count (.updates label kind') +
        if Series.updates (.ofResult r) kind = .updates label kind' then 1 else 0 := by
  have last : ∀ m : Meter,
      (m.increment (.updates (.ofResult r) kind)).count (.updates label kind') =
        m.count (.updates label kind') +
          if Series.updates (.ofResult r) kind = .updates label kind' then 1 else 0 :=
    fun m => m.count_increment _ _
  unfold settle
  split
  · have busy : (t.meter.increment .writerBusy).count (.updates label kind') =
        t.meter.count (.updates label kind') := t.meter.count_increment_of_ne nofun
    rw [← busy]
    exact last (t.meter.increment .writerBusy)
  · exact last t.meter

theorem settle_beside (t : Table) (kind : Option RuleKind) (e : UpdateError) :
    t.Beside [.updated (.error e)] (t.settle kind (.error e)).1 where
  accounts := t.settle_accounts kind (.error e)
  count_eq label kind' success := by
    have other : Series.updates (.ofResult (.error e)) kind ≠ .updates label kind' :=
      fun same => success e (Series.updates.inj same).1.symm
    rw [settle_count, if_neg other, Nat.add_zero]

theorem update_beside (h : t.store.writing = true) (q : Request) :
    t.Beside [.updated (t.update (some q)).2] (t.update (some q)).1 := by
  rw [update_of_writing h]
  exact t.settle_beside _ _

theorem load_beside (h : t.store.writing = true) (qs : List Request) :
    t.Beside [.loaded (t.load qs).2] (t.load qs).1 := by
  induction qs generalizing t with
  | nil => exact ⟨.refl t.meter, fun _ _ _ => rfl⟩
  | cons q rest ih =>
    have same : t.SameRules (t.update (some q)).1 := operate_sameRules h (.apply q)
    have later := ih (t := (t.update (some q)).1) (by rw [same.store, h])
    have both := (update_beside h q).append later
    exact ⟨both.accounts.loaded, both.count_eq⟩

theorem operate_beside (h : t.store.writing = true) (op : Operation) :
    t.Beside [(t.operate op).2] (t.operate op).1 := by
  cases op with
  | update q =>
    cases q with
    | none => exact t.settle_beside none .nullRequest
    | some q => exact update_beside h q
  | apply q => exact update_beside h q
  | load qs => exact load_beside h qs
  | flush | shutdown =>
    refine ⟨t.flush_accounts, fun label kind _ => ?_⟩
    show t.flush.1.meter.count _ = _
    rw [flush_of_writing h]
    exact t.meter.count_increment_of_ne nofun
  | classify p => exact t.classify_beside p
  | register | unregister | withdraw => exact .of_meter_eq rfl

/-- **Calls of an audience are counted**, and none of them as a success. -/
theorem Calls.beside (h : t.Calls rs u) (hw : t.store.writing = true) : t.Beside rs u := by
  induction h with
  | nil => exact .refl _
  | operate op _ ih =>
    have first := operate_sameRules hw op
    exact (operate_beside hw op).append (ih (by rw [first.store, hw]))
  | look _ ih => exact (Beside.of_meter_eq rfl).append (ih hw)
  | @record t u rs e _ ih =>
    have later := ih hw
    exact ⟨later.accounts, later.count_eq⟩

end Table

/-! ### Updates before an audience -/

namespace Audience

/-- Taking a change over counts what is called while it is told. -/
theorem commit_beside (a : Audience) {t : Table} {c : Change}
    (published : c.store.writing = true) :
    t.Beside (a.calls { t with store := c.store } c.event) (t.commit a.tell c) := by
  have told := (a.tell_calls { t with store := c.store } c.event published).beside published
  exact ⟨told.accounts, told.count_eq⟩

/-- **An update is counted with all the calls that are made while it is told.** -/
theorem update_accounts (a : Audience) (t : Table) (q : Option Request) :
    t.Accounts (a.updateCalls t q) (t.updateTelling a.tell q).1 := by
  rcases Table.updateTelling_cases a.tell t q with ⟨c, hc, published, served⟩ | ⟨e, hc, refused⟩
  · rw [updateCalls, hc, served]
    exact (a.commit_beside published).accounts.append (Table.settle_accounts _ _ _)
  · rw [updateCalls, hc, refused]
    exact t.settle_accounts _ _

/-- What is counted as a success of an update is its own. -/
theorem update_count (a : Audience) (t : Table) (q : Option Request) (label : UpdateLabel)
    (success : ∀ e, label ≠ .refused e) (kind : Option RuleKind) :
    (t.updateTelling a.tell q).1.meter.count (.updates label kind) =
      t.meter.count (.updates label kind) +
        if Series.updates (.ofResult (t.updateTelling a.tell q).2) (q.map (·.rule.kind)) =
          .updates label kind then 1 else 0 := by
  rcases Table.updateTelling_cases a.tell t q with ⟨c, hc, published, served⟩ | ⟨e, hc, refused⟩
  · have told := (a.commit_beside (t := t) published).count_eq label kind success
    rw [served, Table.settle_count, told]
    rfl
  · rw [refused, Table.settle_count]
    rfl

end Audience

end PacketPriority
