import PacketPriority.Meter
import PacketPriority.Observer

/-!
The rule table.

A table is a store with limits, observers and a meter. All changes go through `Table.update` and
`Table.flush`, which take the store's writer, so that the buckets, the index and the count stay in
step. Observers are told while the writer is still held: what they ask to change is refused, what
they ask to read is answered from the table as it is after the change.
-/

namespace PacketPriority

/-- How many rules a table takes, and the priority it gives where no rule and no header says
otherwise. -/
structure Limits where
  ruleMax : UInt32 := 1024
  defaultPcp : UInt8 := 0
deriving DecidableEq, Repr, Inhabited

/-! ### Changes of the store -/

/-- A change of the store: what became of it, and what observers are told. -/
structure Change where
  store : Store
  outcome : Outcome
  event : Event

namespace Store

/-- The precedence under which a rule is stored: 255 stands for 0. -/
def storedPrecedence (precedence : UInt8) : UInt8 := if precedence = 255 then 0 else precedence

/-- A rule as it is stored. -/
def stored (r : Rule) : Rule := { r with precedence := storedPrecedence r.precedence }

/-- Places a rule: as a new one, at the place of the rule with its key, or anew under another
precedence. -/
def place (s : Store) (r : Rule) : Change :=
  match s.find? r.key with
  | none =>
    let (s, node) := s.insert r
    ⟨s, .added, ⟨.add, node.rule⟩⟩
  | some old =>
    let fieldsChanged := old.rule.differsInPayload r
    if old.rule.precedence = r.precedence then
      let (s, node) := s.replace old r
      ⟨s, .modified fieldsChanged, ⟨.modify, node.rule⟩⟩
    else
      let (s, node) := s.relocate old r
      ⟨s, .moved old.rule.precedence fieldsChanged, ⟨.modify, node.rule⟩⟩

/-- Adds or modifies a rule. A full table takes no rule, not even one with a live key. -/
def add (s : Store) (limits : Limits) (r : Rule) : Except UpdateError Change :=
  if limits.ruleMax ≤ s.count then .error .tableFull
  else if PrioritySource.maxCode < r.treatment.output then .error .invalidEntry
  else .ok (s.place (stored r))

def delete (s : Store) (k : RuleKey) : Except UpdateError Change :=
  if s.count = 0 then .error .tableEmpty
  else
    match s.remove k with
    | none => .error .ruleNotFound
    | some (s, node) => .ok ⟨s, .deleted, ⟨.remove, node.rule⟩⟩

/-- The change that a request asks for. -/
def serve (s : Store) (limits : Limits) (q : Request) : Except UpdateError Change :=
  match q.command with
  | .add => s.add limits q.rule
  | .delete => s.delete q.key
  | .unknown _ => .error .unknownCommand

end Store

/-! ### Tables -/

structure Table where
  limits : Limits := {}
  store : Store := .empty
  registry : Registry := {}
  meter : Meter := {}
  /-- What observers wrote, latest first. -/
  log : List LogEntry := []

namespace Table

instance : Inhabited Table := ⟨{}⟩

/-- An empty table with given limits. -/
def new (limits : Limits) : Table := { limits := limits }

def count (t : Table) : UInt32 := t.store.count

def isEmpty (t : Table) : Bool := t.store.isEmpty

/-- The live rule with a key. -/
def query (t : Table) (k : RuleKey) : Option Rule := (t.store.find? k).map (·.rule)

/-- All live rules, highest precedence first. -/
def dump (t : Table) : List Rule := t.store.dump

def stats (t : Table) : Stats := t.store.stats

/-- The table with one more event counted. -/
def measure (t : Table) (s : Series) : Table := { t with meter := t.meter.increment s }

/-- The table with one more line in its log. -/
def record (t : Table) (e : LogEntry) : Table := { t with log := e :: t.log }

/-! ### Classifying -/

/-- Classifies a packet by the sawf rules, and counts the answer as a hit or a miss. -/
def classifySawf (t : Table) (p : Packet) : Table × SawfDecision :=
  let d := t.store.classifySawf p
  (t.measure (.classifications .sawf d.isMatch), d)

def classifyScs (t : Table) (p : Packet) : Table × PriorityDecision :=
  let d := t.store.classifyScs p
  (t.measure (.classifications .scs d.isMatch), d)

def classifyMscs (t : Table) (p : Packet) : Table × PriorityDecision :=
  let d := t.store.classifyMscs p
  (t.measure (.classifications .mscs d.isMatch), d)

def latency (t : Table) (p : Packet) : Table × Latency :=
  (t.measure (.classifications .latency (t.store.latencyRule? p).isSome), t.store.latency p)

def classifyMesh (t : Table) (p : Packet) : Table × UInt8 :=
  (t.measure (.classifications .mesh (t.store.meshRule? p).isSome),
    t.store.classifyMesh t.limits.defaultPcp p)

/-- Classifies a packet in every way, and counts each. -/
def classify (t : Table) (p : Packet) : Table × Classification :=
  let (t, sawf) := t.classifySawf p
  let (t, scs) := t.classifyScs p
  let (t, mscs) := t.classifyMscs p
  let (t, latency) := t.latency p
  let (t, mesh) := t.classifyMesh p
  (t, ⟨mesh, sawf, scs, mscs, latency⟩)

/-! ### Changing -/

/-- Closes an update: counts its result and tells the gauge how many rules there are. -/
def settle (t : Table) (kind : Option RuleKind) (r : UpdateResult) : Table × UpdateResult :=
  let t := match r with
    | .error .writerBusy => t.measure .writerBusy
    | _ => t
  let t := t.measure (.updates (.ofResult r) kind)
  ({ t with meter := t.meter.setRules t.store.count }, r)

/-- Takes a change over: while the writer is held observers are told, then it is ended. -/
def commit (tell : Table → Event → Table) (t : Table) (c : Change) : Table :=
  let t := tell { t with store := c.store } c.event
  { t with store := t.store.endWrite }

/-- Serves a request, if one is given and no writer is at work. `tell` is how observers are told. -/
def updateTelling (tell : Table → Event → Table) (t : Table) :
    Option Request → Table × UpdateResult
  | none => t.settle none (.error .nullRequest)
  | some q =>
    match t.store.beginWrite with
    | none => t.settle (some q.rule.kind) (.error .writerBusy)
    | some s =>
      match s.serve t.limits q with
      | .error e => t.settle (some q.rule.kind) (.error e)
      | .ok c => (t.commit tell c).settle (some q.rule.kind) (.ok c.outcome)

/-- Serves requests one after another, whatever becomes of each. -/
def loadTelling (tell : Table → Event → Table) (t : Table) :
    List Request → Table × List (RuleKey × UpdateResult)
  | [] => (t, [])
  | q :: rest =>
    let (t, r) := t.updateTelling tell (some q)
    let (t, results) := loadTelling tell t rest
    (t, (q.key, r) :: results)

/-- Takes out every rule and tells how many there were. Observers are not told. -/
def flush (t : Table) : Table × Except UpdateError UInt32 :=
  match t.store.beginWrite with
  | none => (t.measure .writerBusy, .error .writerBusy)
  | some s =>
    let (s, removed) := s.clear
    let t := { t with store := s.endWrite }.measure .flushes
    ({ t with meter := t.meter.setRules 0 }, .ok removed)

/-- Ends the use of a table; the table can be filled again. -/
def shutdown (t : Table) : Table × Except UpdateError UInt32 := t.flush

/-! ### Telling observers -/

/-- Registers an observer behind all others. -/
def register (t : Table) (o : Observer) : Table := { t with registry := t.registry.register o }

def unregister (t : Table) (tag : String) : Table × Option Bool :=
  let (registry, there) := t.registry.unregister tag
  ({ t with registry := registry }, there)

/-- Unregisters the observer with a registration number. -/
def withdraw (t : Table) (number : Nat) : Table × Bool :=
  let (registry, there) := t.registry.unregisterNumber number
  ({ t with registry := registry }, there)

/-- An action of an observer. Observers are told while a writer is at work, so an update that one of
them asks for comes to no telling of its own. -/
def act (t : Table) : Action → Table × Answer
  | .apply q =>
    let (t, r) := t.updateTelling (fun t _ => t) (some q)
    (t, .updated r)
  | .flush =>
    let (t, r) := t.flush
    (t, .flushed r)
  | .shutdown =>
    let (t, r) := t.shutdown
    (t, .flushed r)
  | .count => (t, .counted t.count)
  | .query k => (t, .found (t.query k))
  | .dump => (t, .dumped t.dump)
  | .classify p =>
    let (t, c) := t.classify p
    (t, .classified c)
  | .register o => (t.register o, .registered)
  | .unregister tag =>
    let (t, there) := t.unregister tag
    (t, .unregistered there)
  | .withdraw number =>
    let (t, there) := t.withdraw number
    (t, .unregistered (some there))

/-- Carries out a reaction of the observer with a tag, the answers written into the log. -/
def perform (tag : String) (t : Table) : Reaction Action → Table
  | .done => t
  | .act a next =>
    let (t, answer) := t.act a
    (t.record (.answered tag answer)).perform tag (next answer)

section

variable (conduct : Conduct)

/-- Tells one observer of an event. -/
def tellBy (e : Event) (t : Table) (o : Observer) : Table :=
  (t.record (.told o.tag e)).perform o.tag (conduct o t.log e)

/-- Tells every observer of an event, those that are registered when it begins. -/
def notifyBy (t : Table) (e : Event) : Table := t.registry.observers.foldl (tellBy conduct e) t

end

/-- Tells every observer of an event, and each follows its own reaction. -/
def notify : Table → Event → Table := notifyBy Observer.reaction

/-! ### Operating -/

/-- Serves a request, if one is given and no writer is at work. -/
def update (t : Table) (q : Option Request) : Table × UpdateResult := t.updateTelling notify q

def apply (t : Table) (q : Request) : Table × UpdateResult := t.update (some q)

/-- Applies requests one after another, whatever becomes of each. -/
def load (t : Table) (qs : List Request) : Table × List (RuleKey × UpdateResult) :=
  t.loadTelling notify qs

end Table

end PacketPriority
