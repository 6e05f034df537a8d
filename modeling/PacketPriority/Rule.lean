import PacketPriority.Address.Mac
import PacketPriority.Address.Ipv6
import PacketPriority.Flags
import PacketPriority.Text.Digits

/-!
Rules: what a packet is compared with, and how a packet that matches is treated.

A rule is known by its key, an identifier together with a kind; the same identifier under another
kind is another rule. Two flag words say which criteria count. A rule of higher precedence is tried
earlier.
-/

namespace PacketPriority

/-! ### Kinds and keys -/

/-- The five kinds of rules, each consulted by a classifier of its own. -/
inductive RuleKind where
  | mesh | sawf | sawfScs | scs | mscs
deriving DecidableEq, Repr, Inhabited

namespace RuleKind

/-- Every kind, in the order of reports. -/
def all : List RuleKind := [mesh, sawf, sawfScs, scs, mscs]

def toString : RuleKind → String
  | mesh => "mesh"
  | sawf => "sawf"
  | sawfScs => "sawf_scs"
  | scs => "scs"
  | mscs => "mscs"

/-- The kind of exactly that name. -/
def ofName? : String → Option RuleKind
  | "mesh" => some mesh
  | "sawf" => some sawf
  | "sawf_scs" => some sawfScs
  | "scs" => some scs
  | "mscs" => some mscs
  | _ => none

theorem ofName?_toString (k : RuleKind) : ofName? k.toString = some k := by
  cases k <;> rfl

/-- A name written freely: ASCII letters in either case, dashes for underscores. -/
def normalName (s : String) : String := s.map fun c => if c = '-' then '_' else c.toLower

/-- The kind that a freely written name means; a name that means none comes back in its normal
form. -/
def ofString (s : String) : Except String RuleKind :=
  match ofName? (normalName s) with
  | some k => .ok k
  | none => .error ("unknown rule type: " ++ normalName s)

/-- Every kind but `mesh` is matched through its flow flags. -/
def isFlow : RuleKind → Bool
  | mesh => false
  | _ => true

end RuleKind

/-- What a rule is known by. -/
structure RuleKey where
  id : UInt32
  kind : RuleKind
deriving DecidableEq, Repr, Inhabited

def RuleKey.toString (k : RuleKey) : String := s!"{k.kind.toString}/{k.id}"

/-! ### Criteria -/

/-- The values that the switched-on comparisons of a rule use. -/
structure Criteria where
  srcMac : Mac := {}
  dstMac : Mac := {}
  srcIpv4 : Ipv4 := {}
  srcIpv4Mask : Ipv4 := {}
  dstIpv4 : Ipv4 := {}
  dstIpv4Mask : Ipv4 := {}
  srcIpv6 : Ipv6 := {}
  srcIpv6Mask : Ipv6 := {}
  dstIpv6 : Ipv6 := {}
  dstIpv6Mask : Ipv6 := {}
  srcPort : UInt16 := 0
  dstPort : UInt16 := 0
  srcPortFirst : UInt16 := 0
  srcPortLast : UInt16 := 0
  dstPortFirst : UInt16 := 0
  dstPortLast : UInt16 := 0
  vlanId : UInt16 := 0
  vlanPcp : UInt8 := 0
  dscp : UInt8 := 0
  protocol : UInt8 := 0
  userPriority : UInt8 := 0
  spiValue : UInt32 := 0
  spiMask : UInt32 := 0
  ifindex : UInt32 := 0
  ipVersion : UInt8 := 0
deriving DecidableEq, Repr, Inhabited

/-! ### Treatment -/

/-- Where the priority of a matching packet comes from. -/
inductive PrioritySource where
  | fixed (priority : UInt8)
  | linkPriority
  | dscp
  | unset
deriving DecidableEq, Repr, Inhabited

namespace PrioritySource

/-- The largest output code that names a source. -/
def maxCode : UInt8 := 9

theorem maxCode_lt_iff {c : UInt8} : maxCode < c ↔ 10 ≤ c := by
  rw [UInt8.lt_iff_toNat_lt, UInt8.le_iff_toNat_le]
  rfl

theorem le_maxCode_iff {c : UInt8} : c ≤ maxCode ↔ c < 10 := by
  rw [← UInt8.not_lt, maxCode_lt_iff, UInt8.not_le]

/-- An output code: 0 to 7 are priorities, 8 is the link priority, 9 the DSCP value. -/
def ofCode (code : UInt8) : PrioritySource :=
  if code ≤ 7 then fixed code
  else if code = 8 then linkPriority
  else if code = 9 then dscp
  else unset

def code : PrioritySource → UInt8
  | fixed priority => priority
  | linkPriority => 8
  | dscp => 9
  | unset => 10

end PrioritySource

/-- How a matching packet is treated. -/
structure Treatment where
  /-- The output code, see `PrioritySource.ofCode`. -/
  output : UInt8 := 0
  dscpRemark : UInt8 := 255
  vlanPcpRemark : UInt8 := 255
  serviceClassId : UInt8 := 255
  /-- The link priorities for which an `mscs` rule applies, one bit for each. -/
  mscsTidBitmap : UInt8 := 0
  priorityLimit : UInt8 := 0
  serviceIntervalDl : UInt8 := 0
  burstSizeDl : UInt32 := 0
  serviceIntervalUl : UInt8 := 0
  burstSizeUl : UInt32 := 0
deriving DecidableEq, Repr, Inhabited

/-! ### Rules -/

structure Rule where
  id : UInt32
  kind : RuleKind := .sawf
  precedence : UInt8 := 0
  meshFlags : Flags := 0
  flowFlags : Flags := 0
  criteria : Criteria := {}
  treatment : Treatment := {}
deriving DecidableEq, Repr, Inhabited

namespace Rule

def key (r : Rule) : RuleKey := ⟨r.id, r.kind⟩

/-- Where the priority of a packet that matches the rule comes from. -/
def source (r : Rule) : PrioritySource := .ofCode r.treatment.output

/-- Whether two rules differ in anything but key and precedence. -/
def differsInPayload (r s : Rule) : Bool :=
  r.meshFlags != s.meshFlags || r.flowFlags != s.flowFlags || r.criteria != s.criteria
    || r.treatment != s.treatment

/-- Rules of one key and precedence with the same payload are the same rule. -/
theorem eq_of_not_differsInPayload {r s : Rule} (hk : r.key = s.key)
    (hp : r.precedence = s.precedence) (h : r.differsInPayload s = false) : r = s := by
  obtain ⟨id, kind, precedence, meshFlags, flowFlags, criteria, treatment⟩ := r
  obtain ⟨id', kind', precedence', meshFlags', flowFlags', criteria', treatment'⟩ := s
  simp only [key, RuleKey.mk.injEq] at hk
  simp only [differsInPayload, Bool.or_eq_false_iff, bne_eq_false_iff_eq] at h
  simp_all

/-- One line for a reader; flag words that are zero and an unset service class are left out. -/
def summary (r : Rule) : String :=
  s!"id={r.id} type={r.kind.toString} precedence={r.precedence} output={r.treatment.output}"
    ++ (if r.meshFlags = 0 then "" else " mesh_flags=" ++ Text.hexText r.meshFlags.toNat)
    ++ (if r.flowFlags = 0 then "" else " sawf_flags=" ++ Text.hexText r.flowFlags.toNat)
    ++ (if r.treatment.serviceClassId = 255 then ""
        else s!" service_class={r.treatment.serviceClassId}")

end Rule

end PacketPriority
