import PacketPriority.Proofs.Ledger
import PacketPriority.Proofs.Observer.Isolation

/-!
Calls that are made while an update is told.

Whoever is told of an event may call the table again, in any way that a user of the table can. Here
nothing is said of how such calls are chosen: an `Audience` is any way to react to events that does
nothing to a table but call it, together with what its calls report. Observers that follow a conduct
are an audience (`Audience.ofConduct`), and so are observers that follow their own reactions.

The writer is held while an audience calls, so that it leaves the rules alone
(`Table.Calls.sameRules`), and an update does to the table what it does to the ledger
(`Table.Mirrors.updateBefore`). The calls of a run, those from outside and those of the audience in
the order in which they end, are the list `Audience.runCalls`.
-/

namespace PacketPriority

namespace Table

/-! ### Calls and their reports -/

/-- Calls lead from one table to another, with reports. -/
inductive Calls : Table → List Report → Table → Prop
  | nil {t : Table} : Calls t [] t
  | operate {t u : Table} {rs : List Report} (op : Operation) :
      Calls (t.operate op).1 rs u → Calls t ((t.operate op).2 :: rs) u
  /-- A call that only looks leaves the table as it is. -/
  | look {t u : Table} {rs : List Report} : Calls t rs u → Calls t (.done :: rs) u
  /-- What is written into the log in between is no call. -/
  | record {t u : Table} {rs : List Report} (e : LogEntry) :
      Calls (t.record e) rs u → Calls t rs u

namespace Calls

variable {t u v : Table} {rs rs' : List Report}

theorem trans (h : t.Calls rs u) (h' : u.Calls rs' v) : t.Calls (rs ++ rs') v := by
  induction h with
  | nil => exact h'
  | operate op _ ih => exact .operate op (ih h')
  | look _ ih => exact .look (ih h')
  | record e _ ih => exact .record e (ih h')

/-- Calls beside a writer at work leave the rules alone. -/
theorem sameRules (h : t.Calls rs u) (hw : t.store.writing = true) : t.SameRules u := by
  induction h with
  | nil => exact .refl _
  | operate op _ ih =>
    have first := operate_sameRules hw op
    exact first.trans (ih (by rw [first.store, hw]))
  | look _ ih => exact ih hw
  | @record t u rs e _ ih =>
    have written : t.SameRules (t.record e) := ⟨rfl, rfl⟩
    exact written.trans (ih hw)

end Calls

end Table

/-- A way to react to events by calls, with what the calls report. -/
structure Audience where
  tell : Table → Event → Table
  calls : Table → Event → List Report
  tell_calls : ∀ (t : Table) (e : Event), t.store.writing = true → t.Calls (calls t e) (tell t e)

theorem Audience.tell_sameRules (a : Audience) {t : Table} (e : Event)
    (hw : t.store.writing = true) : t.SameRules (a.tell t e) := (a.tell_calls t e hw).sameRules hw

/-! ### Calls before an audience -/

namespace Table

/-- An update before an audience does to the table what it does to the ledger. -/
theorem Mirrors.updateBefore {limits : Limits} {t : Table} {l : List Rule} (a : Audience)
    (h : t.Mirrors limits l) (q : Option Request) :
    (t.updateTelling a.tell q).1.Mirrors limits (Ledger.update limits l q).1 ∧
      (t.updateTelling a.tell q).2 = (Ledger.update limits l q).2 :=
  h.updateTelling (fun e hu => a.tell_sameRules e hu) q

end Table

/-! ### The calls of a run -/

namespace Audience

variable (a : Audience)

/-- The reports of the calls of an update, itself included. -/
def updateCalls (t : Table) (q : Option Request) : List Report :=
  (match t.published q with
    | none => []
    | some c => a.calls { t with store := c.store } c.event) ++
  [.updated (t.updateTelling a.tell q).2]

/-- The reports of the calls of a batch, each of its requests an update. -/
def loadCalls (t : Table) : List Request → List Report
  | [] => []
  | q :: rest => a.updateCalls t (some q) ++ loadCalls (t.updateTelling a.tell (some q)).1 rest

def operateCalls (t : Table) : Operation → List Report
  | .update q => a.updateCalls t q
  | .apply q => a.updateCalls t (some q)
  | .load qs => a.loadCalls t qs
  | op => [(t.operate op).2]

def runCalls (t : Table) : List Operation → List Report
  | [] => []
  | op :: rest => a.operateCalls t op ++ runCalls (t.operateTelling a.tell op).1 rest

end Audience

/-! ### Observers are an audience -/

/-- What a call reports of the rules that it changed, told from the answer to an observer. -/
def Answer.report : Answer → Report
  | .updated r => .updated r
  | .flushed r => .flushed (r.map UInt32.toNat)
  | .counted _ | .found _ | .dumped _ | .classified _ | .registered | .unregistered _ => .done

namespace Table

variable {t u : Table} {rs : List Report}

/-- An action is a call, one that anybody could make, and the answer is its report. -/
theorem Calls.act (h : t.store.writing = true) (a : Action) (rest : (t.act a).1.Calls rs u) :
    t.Calls ((t.act a).2.report :: rs) u := by
  cases a with
  | apply q =>
    have same : t.updateTelling (fun t _ => t) (some q) = t.update (some q) := by
      rw [updateTelling_of_writing h, update_of_writing h]
    have called : (t.act (.apply q)).1 = (t.operate (.apply q)).1 := congrArg Prod.fst same
    have report : (t.act (.apply q)).2.report = (t.operate (.apply q)).2 :=
      congrArg (fun r : Table × UpdateResult => Report.updated r.2) same
    rw [called] at rest
    rw [report]
    exact .operate (.apply q) rest
  | flush => exact .operate .flush rest
  | shutdown => exact .operate .shutdown rest
  | count | query | dump => exact .look rest
  | classify p => exact .operate (.classify p) rest
  | register o => exact .operate (.register o) rest
  | unregister tag => exact .operate (.unregister tag) rest
  | withdraw number => exact .operate (.withdraw number) rest

theorem perform_calls (tag : String) (reaction : Reaction Action) (h : t.store.writing = true) :
    t.Calls ((t.deeds tag reaction).map (·.2.report)) (t.perform tag reaction) := by
  induction reaction generalizing t with
  | done => exact .nil
  | act a next ih =>
    have same := act_sameRules h a
    have later := ih (t.act a).2 (t := (t.act a).1.record (.answered tag (t.act a).2))
      (by show (t.act a).1.store.writing = true; rw [same.store, h])
    exact Calls.act h a (.record _ later)

theorem foldl_tellBy_calls (conduct : Conduct) (e : Event) (h : t.store.writing = true)
    (xs : List (Nat × Observer)) :
    t.Calls ((t.notifyVisits conduct e xs).flatMap fun v => v.deeds.map (·.2.report))
      (xs.foldl (fun t x => tellBy conduct e t x.2) t) := by
  induction xs generalizing t with
  | nil => exact .nil
  | cons x rest ih =>
    have told := tellBy_sameRules conduct h e x.2
    have first : t.Calls _ (tellBy conduct e t x.2) :=
      .record (.told x.2.tag e)
        (perform_calls x.2.tag (conduct x.2 t.log e) (t := t.record (.told x.2.tag e)) h)
    rw [notifyVisits, List.flatMap_cons]
    exact first.trans (ih (by rw [told.store, h]))

end Table

/-- Observers that follow a conduct. What their calls report is what they are answered. -/
def Audience.ofConduct (conduct : Conduct) : Audience where
  tell := Table.notifyBy conduct
  calls t e :=
    (t.notifyVisits conduct e t.registry.entries).flatMap fun v => v.deeds.map (·.2.report)
  tell_calls t e h := by
    rw [Table.notifyBy, Registry.observers, List.foldl_map]
    exact Table.foldl_tellBy_calls conduct e h t.registry.entries

/-- A table whose observers follow their own reactions is used before an audience. -/
theorem Audience.run_eq (t : Table) (ops : List Operation) :
    t.runTelling (ofConduct Observer.reaction).tell ops = t.run ops := rfl

end PacketPriority
