import PacketPriority.Classify
import PacketPriority.Rule.Request
import PacketPriority.Store.Cursor
import PacketPriority.Table.Outcome

/-!
Observers of a rule table.

An observer is told of every rule that is added, modified or removed, in the order of registration.
What it does then is a reaction: actions taken one after another, which may look at the table, ask
for further changes, and register or unregister observers. Everything an observer is told and every
answer to its actions goes into a log, and a reaction may depend on all of it.
-/

namespace PacketPriority

/-- What happened to a rule. -/
inductive EventKind where
  | add | modify | remove
deriving DecidableEq, Repr, Inhabited

def EventKind.toString : EventKind → String
  | add => "add"
  | modify => "modify"
  | remove => "remove"

/-- A change of one rule; the rule is carried as it is stored, or was stored last. -/
structure Event where
  kind : EventKind
  rule : Rule
deriving DecidableEq, Repr

/-! ### Answers -/

/-- All that is known of where a packet goes. -/
structure Classification where
  mesh : UInt8
  sawf : SawfDecision
  scs : PriorityDecision
  mscs : PriorityDecision
  latency : Latency
deriving DecidableEq, Repr, Inhabited

/-- The answer to an action. -/
inductive Answer where
  | updated (r : UpdateResult)
  | flushed (r : Except UpdateError UInt32)
  | counted (n : UInt32)
  | found (r : Option Rule)
  | dumped (rs : List Rule)
  | classified (c : Classification)
  | registered
  /-- Whether an observer was there to be taken out; `none` if the tag was never used. -/
  | unregistered (there : Option Bool)

/-- A line of the log: what an observer was told, or the answer to an action of it. -/
inductive LogEntry where
  | told (tag : String) (e : Event)
  | answered (tag : String) (a : Answer)

/-! ### Observers and their actions -/

/-- Actions taken one after another, each chosen by the answers to those before it. -/
inductive Reaction (α : Type) where
  | done
  | act (a : α) (next : Answer → Reaction α)

/-- The reaction of fixed actions, whatever the answers. -/
def Reaction.ofList {α : Type} : List α → Reaction α
  | [] => done
  | a :: rest => act a fun _ => ofList rest

mutual

/-- An observer, known by a tag. What it does when it is told of an event may depend on the event
and on everything that observers were told and answered before, latest first. -/
inductive Observer where
  | ofReaction (tag : String) (reaction : List LogEntry → Event → Reaction Action)

/-- What an observer can do with the table. -/
inductive Action where
  | apply (q : Request)
  | flush
  | shutdown
  | count
  | query (k : RuleKey)
  | dump
  | classify (p : Packet)
  | register (o : Observer)
  /-- Unregisters the observer that was registered last under a tag. -/
  | unregister (tag : String)
  /-- Unregisters the observer with a registration number. -/
  | withdraw (number : Nat)

end

namespace Observer

/-- The observer that takes the same actions at every event, or at every event of the kind it waits
for. -/
def mk (tag : String) (trigger : Option EventKind) (actions : List Action) : Observer :=
  ofReaction tag fun _ e =>
    if trigger.all (· = e.kind) then .ofList actions else .done

/-- The name under which the observer was registered. -/
def tag : Observer → String
  | ofReaction tag _ => tag

/-- What the observer does at an event, after what stands in the log. -/
def reaction : Observer → List LogEntry → Event → Reaction Action
  | ofReaction _ reaction => reaction

instance : Inhabited Observer := ⟨mk "" none []⟩

end Observer

/-- What each observer does when it is told of an event, after what stands in the log. Observers
follow `Observer.reaction`; under another conduct they are no more than names for what it says. -/
abbrev Conduct := Observer → List LogEntry → Event → Reaction Action

/-! ### Registration -/

/-- The observers of a table, under the numbers of their registrations, and the number last used
under each tag. -/
structure Registry where
  entries : List (Nat × Observer) := []
  fresh : Nat := 0
  latest : Keyed String Nat := []

namespace Registry

/-- The observers in the order of registration. -/
def observers (g : Registry) : List Observer := g.entries.map Prod.snd

def register (g : Registry) (o : Observer) : Registry :=
  { entries := g.entries ++ [(g.fresh, o)]
    fresh := g.fresh + 1
    latest := g.latest.put o.tag g.fresh }

/-- Takes out the observer with a registration number; the answer tells whether it was there. -/
def unregisterNumber (g : Registry) (n : Nat) : Registry × Bool :=
  let entries := g.entries.filter fun e => e.1 ≠ n
  ({ g with entries := entries }, entries.length ≠ g.entries.length)

/-- Takes out the observer registered last under a tag, see `Answer.unregistered`. -/
def unregister (g : Registry) (tag : String) : Registry × Option Bool :=
  match g.latest.get? tag with
  | none => (g, none)
  | some n =>
    let (g, there) := g.unregisterNumber n
    (g, some there)

end Registry

end PacketPriority
