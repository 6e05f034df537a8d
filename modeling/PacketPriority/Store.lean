import PacketPriority.Keyed
import PacketPriority.Rule

/-!
The store of a rule table.

A store keeps its rules in 255 buckets, one for each precedence from 0 to 254, and an index from
keys to rules beside them. A stored rule is a *node* with a serial number of its own: changes take
out or exchange the very node that they were given, never another node with an equal rule. Within
a bucket the node placed last stands first. A writer has to be begun before the store is changed,
and there is at most one.

Every change edits the buckets, the index and the count each on its own, as asked: it does not
check that a key is new or that a node is still stored. Keeping the three in step is the business
of the table above.
-/

namespace PacketPriority

/-- A rule in the store, with the serial number that tells it from every other node. -/
structure Node where
  serial : Nat
  rule : Rule
deriving DecidableEq, Repr, Inhabited

/-- The number of buckets, and the first precedence without a bucket. -/
def bucketCount : Nat := 255

structure Store where
  /-- The nodes of each precedence, the one placed last first. -/
  buckets : Vector (List Node) bucketCount
  index : Keyed RuleKey Node
  count : UInt32
  /-- The serial number of the next node. -/
  fresh : Nat
  /-- Whether a writer has begun and not yet ended. -/
  writing : Bool

/-- What a reader asks about the size of a store. -/
structure Stats where
  rules : UInt32
  perKind : List (RuleKind × Nat)
  occupiedBuckets : Nat
deriving DecidableEq, Repr

namespace Store

def empty : Store :=
  { buckets := Vector.replicate bucketCount [], index := [], count := 0, fresh := 0
    writing := false }

instance : Inhabited Store := ⟨empty⟩

/-! ### Reading -/

/-- The nodes of one precedence; there are none of precedence 255. -/
def bucket (s : Store) (precedence : Nat) : List Node := s.buckets.toList.getD precedence []

/-- The rules of one precedence. -/
def bucketRules (s : Store) (precedence : Nat) : List Rule := (s.bucket precedence).map (·.rule)

def find? (s : Store) (k : RuleKey) : Option Node := s.index.get? k

def isEmpty (s : Store) : Bool := s.count == 0

/-- All nodes, highest precedence first. -/
def nodes (s : Store) : List Node := s.buckets.toList.reverse.flatten

/-- All rules, highest precedence first; within a precedence the one placed last first. -/
def rules (s : Store) : List Rule := s.nodes.map (·.rule)

/-- The first answer that `f` gives on the way from the highest precedence to the lowest. -/
def scan {α : Type} (s : Store) (f : Rule → Option α) : Option α :=
  s.buckets.toList.reverse.findSome? fun bucket => bucket.findSome? fun node => f node.rule

/-- How many rules there are, counted up to the largest word of 32 bits. -/
def stats (s : Store) : Stats :=
  { rules := s.count
    perKind := RuleKind.all.map fun k =>
      (k, min (s.index.keys.filter (·.kind == k)).length (UInt32.size - 1))
    occupiedBuckets := (s.buckets.toList.filter (!·.isEmpty)).length }

/-- Scanning is looking through the list of all rules. -/
theorem scan_eq_findSome? {α : Type} (s : Store) (f : Rule → Option α) :
    s.scan f = s.rules.findSome? f := by
  have flat : ∀ bs : List (List Node),
      bs.findSome? (fun b => b.findSome? fun n => f n.rule) =
        bs.flatten.findSome? fun n => f n.rule := by
    intro bs
    induction bs with
    | nil => rfl
    | cons b bs ih =>
      rw [List.flatten_cons, List.findSome?_append, ← ih, List.findSome?_cons]
      cases b.findSome? fun n => f n.rule <;> rfl
  rw [scan, rules, nodes, List.findSome?_map, flat]
  rfl

/-! ### Writers -/

/-- The store with a writer begun, if there is none yet. -/
def beginWrite (s : Store) : Option Store :=
  if s.writing then none else some { s with writing := true }

theorem beginWrite_eq_some_iff {s w : Store} :
    s.beginWrite = some w ↔ s.writing = false ∧ w = { s with writing := true } := by
  unfold beginWrite
  cases s.writing with
  | true => simp
  | false =>
    simp only [Bool.false_eq_true, if_false, Option.some.injEq, true_and]
    exact eq_comm

/-- The store with no writer. -/
def endWrite (s : Store) : Store := { s with writing := false }

/-! ### Changing -/

/-- The bucket that holds the rules of a precedence; precedence 255 shares the highest one. -/
def slot (precedence : UInt8) : Fin bucketCount :=
  ⟨min precedence.toNat (bucketCount - 1), by simp only [bucketCount]; omega⟩

theorem slot_val {precedence : UInt8} (h : precedence ≠ 255) :
    (slot precedence).val = precedence.toNat := by
  have hlt := precedence.toNat_lt
  have : precedence.toNat ≠ 255 := fun e => h (UInt8.toNat_inj.1 (by simpa using e))
  simp only [slot, bucketCount]
  omega

/-- The nodes of a slot. -/
def slotNodes (s : Store) (i : Fin bucketCount) : List Node := s.buckets.get i

/-- The store with one slot exchanged. -/
def setSlot (s : Store) (i : Fin bucketCount) (nodes : List Node) : Store :=
  { s with buckets := s.buckets.set i.val nodes i.isLt }

/-- The next node for a rule. -/
def nodeFor (s : Store) (r : Rule) : Node := ⟨s.fresh, r⟩

/-- The store with the index entry of a node's key and the serial number behind the node's. -/
def enter (s : Store) (n : Node) : Store :=
  { s with index := s.index.put n.rule.key n, fresh := s.fresh + 1 }

/-- Places a rule in front of its bucket, as one more rule. -/
def insert (s : Store) (r : Rule) : Store × Node :=
  let node := s.nodeFor r
  let i := slot r.precedence
  let s := (s.setSlot i (node :: s.slotNodes i)).enter node
  ({ s with count := s.count + 1 }, node)

/-- Exchanges a node for a new one with the given rule, at its place. -/
def replace (s : Store) (old : Node) (r : Rule) : Store × Node :=
  let node := s.nodeFor r
  let i := slot old.rule.precedence
  let nodes := (s.slotNodes i).map fun n => if n.serial = old.serial then node else n
  ((s.setSlot i nodes).enter node, node)

/-- The nodes of a slot other than a given one. -/
def slotWithout (s : Store) (i : Fin bucketCount) (n : Node) : List Node :=
  (s.slotNodes i).filter fun m => m.serial ≠ n.serial

/-- Takes a node out and places the given rule in front of its own bucket. Both buckets are read
before either is written, so within one bucket the node taken out stays. -/
def relocate (s : Store) (old : Node) (r : Rule) : Store × Node :=
  let node := s.nodeFor r
  let source := slot old.rule.precedence
  let target := slot r.precedence
  let attached := node :: s.slotNodes target
  ((((s.setSlot source (s.slotWithout source old)).setSlot target attached).enter node), node)

/-- Takes out the node that the index holds under a key, if it holds one. -/
def remove (s : Store) (k : RuleKey) : Option (Store × Node) :=
  (s.find? k).map fun node =>
    let i := slot node.rule.precedence
    let s := s.setSlot i (s.slotWithout i node)
    ({ s with index := s.index.erase k, count := s.count - 1 }, node)

/-- Takes out everything, and tells how many rules were counted. -/
def clear (s : Store) : Store × UInt32 :=
  ({ s with buckets := Vector.replicate bucketCount [], index := [], count := 0 }, s.count)

end Store

end PacketPriority
