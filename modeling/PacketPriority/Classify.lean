import PacketPriority.Matching.Flow
import PacketPriority.Matching.Mesh
import PacketPriority.Store

/-!
Classifying packets.

Each classifier scans the store from the highest precedence down and takes the first rule that it
consults and that the packet matches. A classification never fails: where no rule is found, the
decision carries the sentinel values of its kind.
-/

namespace PacketPriority

/-- The rule identifier of a decision that no rule made. -/
def noRuleId : UInt32 := 4294967295

/-- The decision of the `sawf` classifier. -/
structure SawfDecision where
  priority : UInt8
  dscpRemark : UInt8
  vlanPcpRemark : UInt8
  serviceClassId : UInt8
  ruleId : UInt32
deriving DecidableEq, Repr, Inhabited

namespace SawfDecision

def none : SawfDecision := ⟨9, 255, 255, 255, noRuleId⟩

def ofRule (r : Rule) : SawfDecision :=
  ⟨r.treatment.output, r.treatment.dscpRemark, r.treatment.vlanPcpRemark,
    r.treatment.serviceClassId, r.id⟩

/-- Whether the decision names a rule. -/
def isMatch (d : SawfDecision) : Bool := d.ruleId != noRuleId

end SawfDecision

/-- The decision of the `scs` and `mscs` classifiers. -/
structure PriorityDecision where
  priority : UInt8
  ruleId : UInt32
deriving DecidableEq, Repr, Inhabited

namespace PriorityDecision

def none : PriorityDecision := ⟨255, noRuleId⟩

/-- Whether the decision names a rule. -/
def isMatch (d : PriorityDecision) : Bool := d.ruleId != noRuleId

end PriorityDecision

/-- The answer of the latency look-up. -/
structure Latency where
  serviceIntervalDl : UInt8 := 0
  burstSizeDl : UInt32 := 0
  serviceIntervalUl : UInt8 := 0
  burstSizeUl : UInt32 := 0
deriving DecidableEq, Repr, Inhabited

namespace Latency

def ofRule (r : Rule) : Latency :=
  ⟨r.treatment.serviceIntervalDl, r.treatment.burstSizeDl, r.treatment.serviceIntervalUl,
    r.treatment.burstSizeUl⟩

def isZero (l : Latency) : Bool := l == {}

end Latency

/-! ### Which rules a classifier takes -/

namespace Rule

/-- Whether a packet matches a rule of one of the flow kinds. -/
def isFlowMatch (kind : RuleKind) (r : Rule) (p : Packet) : Bool :=
  r.kind == kind && r.matchesFlow p

/-- Whether a mesh rule takes a packet. -/
def isMeshMatch (r : Rule) (p : Packet) : Bool := r.kind == .mesh && r.matchesMesh p

/-- Whether the bitmap of an `mscs` rule has the bit of a packet's link priority; priorities above
7 have no bit. -/
def admitsTid (r : Rule) (p : Packet) : Bool :=
  p.priority < 8 && r.treatment.mscsTidBitmap.toBitVec.getLsbD p.priority.toNat

/-- Whether an `mscs` rule takes a packet. -/
def isMscsMatch (r : Rule) (p : Packet) : Bool := r.isFlowMatch .mscs p && r.admitsTid p

end Rule

/-! ### The classifiers -/

/-- The priority that a source gives a packet. -/
def PrioritySource.resolve (defaultPcp : UInt8) (p : Packet) : PrioritySource → UInt8
  | fixed priority => priority
  | linkPriority => p.priority
  | dscp => if p.network.isIp then p.dscp >>> 3 else defaultPcp
  | unset => defaultPcp

namespace Store

/-- The first rule, from the highest precedence down, that passes a test. -/
def first? (s : Store) (test : Rule → Bool) : Option Rule :=
  s.scan fun r => if test r then some r else none

theorem first?_eq (s : Store) (test : Rule → Bool) : s.first? test = s.rules.find? test := by
  rw [first?, scan_eq_findSome?]
  induction s.rules with
  | nil => rfl
  | cons r rest ih => cases h : test r <;> simp [h, ih]

/-- The mesh rule that takes a packet. -/
def meshRule? (s : Store) (p : Packet) : Option Rule := s.first? (·.isMeshMatch p)

/-- The source of a packet's priority: that of the mesh rule that takes it, DSCP if the store is
empty. -/
def meshSource (s : Store) (p : Packet) : PrioritySource :=
  match s.meshRule? p with
  | some r => r.source
  | none => if s.isEmpty then .dscp else .unset

def classifyMesh (s : Store) (defaultPcp : UInt8) (p : Packet) : UInt8 :=
  (s.meshSource p).resolve defaultPcp p

/-- A `sawf` rule is taken before any `sawf_scs` rule, whatever their precedences. -/
def classifySawf (s : Store) (p : Packet) : SawfDecision :=
  if s.isEmpty then .none
  else
    match s.first? (·.isFlowMatch .sawf p) with
    | some r => .ofRule r
    | none =>
      match s.first? (·.isFlowMatch .sawfScs p) with
      | some r => .ofRule r
      | none => .none

def classifyScs (s : Store) (p : Packet) : PriorityDecision :=
  match s.first? (·.isFlowMatch .scs p) with
  | some r => ⟨r.treatment.output, r.id⟩
  | none => .none

/-- An `mscs` rule confirms the link priority that the packet already has. -/
def classifyMscs (s : Store) (p : Packet) : PriorityDecision :=
  match s.first? (·.isMscsMatch p) with
  | some r => ⟨p.priority, r.id⟩
  | none => .none

/-- The rule that the latency look-up takes: the first of any kind that matches by its mesh
flags. -/
def latencyRule? (s : Store) (p : Packet) : Option Rule := s.first? (·.matchesMesh p)

def latency (s : Store) (p : Packet) : Latency :=
  match s.latencyRule? p with
  | some r => .ofRule r
  | none => {}

end Store

end PacketPriority
