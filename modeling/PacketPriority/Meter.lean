import PacketPriority.Keyed
import PacketPriority.Table.Outcome

/-!
Counting what a rule table does.

A meter counts events by series, a name with labels, and keeps the last value of one gauge, the
number of live rules.
-/

namespace PacketPriority

/-- The five ways to classify a packet. -/
inductive Flavor where
  | mesh | sawf | scs | mscs | latency
deriving DecidableEq, Repr, Inhabited

namespace Flavor

def all : List Flavor := [mesh, sawf, scs, mscs, latency]

def toString : Flavor → String
  | mesh => "mesh"
  | sawf => "sawf"
  | scs => "scs"
  | mscs => "mscs"
  | latency => "latency"

end Flavor

/-- How an update is labelled. -/
inductive UpdateLabel where
  | added | modified | moved | deleted
  | refused (e : UpdateError)
deriving DecidableEq, Repr

namespace UpdateLabel

def ofResult : UpdateResult → UpdateLabel
  | .ok .added => added
  | .ok (.modified _) => modified
  | .ok (.moved ..) => moved
  | .ok .deleted => deleted
  | .error e => refused e

def toString : UpdateLabel → String
  | added => "added"
  | modified => "modified"
  | moved => "moved"
  | deleted => "deleted"
  | refused e => e.label

end UpdateLabel

/-- What is counted. The kind of an update is that of its rule, if the request has one. -/
inductive Series where
  | updates (label : UpdateLabel) (kind : Option RuleKind)
  | writerBusy
  | classifications (flavor : Flavor) (hit : Bool)
  | flushes
deriving DecidableEq, Repr

namespace Series

def name : Series → String
  | updates .. => "spm_mapdb_updates_total"
  | writerBusy => "spm_mapdb_writer_busy_total"
  | classifications .. => "spm_mapdb_classify_total"
  | flushes => "spm_mapdb_flushes_total"

def labels : Series → List (String × String)
  | updates label kind =>
    [("result", label.toString), ("rule_type", (kind.map RuleKind.toString).getD "none")]
  | classifications flavor hit =>
    [("flavor", flavor.toString), ("result", if hit then "hit" else "miss")]
  | writerBusy | flushes => []

end Series

structure Meter where
  counters : Keyed Series Nat := []
  /-- The number of live rules, as last told. -/
  rules : Option UInt32 := none

namespace Meter

/-- The name of the gauge. -/
def rulesName : String := "spm_mapdb_rules"

def count (m : Meter) (s : Series) : Nat := (m.counters.get? s).getD 0

/-- One more event of a series. -/
def increment (m : Meter) (s : Series) : Meter :=
  { m with counters := m.counters.put s (m.count s + 1) }

def setRules (m : Meter) (n : UInt32) : Meter := { m with rules := some n }

theorem count_increment (m : Meter) (s t : Series) :
    (m.increment s).count t = m.count t + if s = t then 1 else 0 := by
  by_cases h : s = t
  · subst h; simp [increment, count, Keyed.get?_put]
  · simp [increment, count, Keyed.get?_put, h]

/-! ### Descriptions -/

/-- A name with what is said of it; `gauge` tells gauges from counters. -/
structure Description where
  gauge : Bool
  name : String
  text : String
deriving DecidableEq, Repr

/-- What is said of each name. -/
def descriptions : List Description :=
  [⟨false, "spm_mapdb_updates_total",
      "Total rule update requests processed, by result and rule type"⟩,
    ⟨false, "spm_mapdb_writer_busy_total",
      "Rule updates rejected because another writer held the table"⟩,
    ⟨false, "spm_mapdb_classify_total", "Classification lookups, by flavor and match result"⟩,
    ⟨true, rulesName, "Number of live rules in the table"⟩,
    ⟨false, "spm_mapdb_flushes_total", "Number of full table flushes"⟩]

end Meter

end PacketPriority
