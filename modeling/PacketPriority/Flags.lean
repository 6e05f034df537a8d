import PacketPriority.Word

/-!
The two flag words of a rule.

A rule carries one word for mesh matching and one for flow matching. In the mesh word each field
has a bit that switches the comparison on and, directly above it, a sense bit that inverts it; the
lowest bit makes the rule match every packet. In the flow word each field, each address mask and
each bound of a port range has a bit of its own.
-/

namespace PacketPriority

/-- A word of 32 flags. -/
abbrev Flags := UInt32

namespace Flags

/-- Whether a bit is set. -/
def has (w : Flags) (bit : Nat) : Bool := w.toBitVec.getLsbD bit

/-- The word in which one bit alone is set. -/
def single (bit : Nat) : Flags := ⟨BitVec.twoPow 32 bit⟩

/-- The word with a bit set in addition. -/
def set (w : Flags) (bit : Nat) : Flags := w ||| single bit

@[simp] theorem has_zero (bit : Nat) : has 0 bit = false := by
  simp [has]

theorem has_set {w : Flags} {bit : Nat} (h : bit < 32) (other : Nat) :
    has (set w bit) other = (has w other || decide (bit = other)) := by
  simp only [has, set, single, UInt32.toBitVec_or, BitVec.getLsbD_or, BitVec.getLsbD_twoPow]
  simp [h]

/-- Two words are equal if they have the same bits. -/
theorem ext {v w : Flags} (h : ∀ bit, has v bit = has w bit) : v = w := by
  apply UInt32.toBitVec_inj.1
  apply BitVec.eq_of_getLsbD_eq
  intro i _
  exact h i

end Flags

/-! ### Mesh flags -/

/-- The fields that a mesh rule can compare. -/
inductive MeshField where
  | userPriority | srcMac | dstMac | srcIpv4 | dstIpv4 | srcPort | dstPort | protocol | vlanId
  | dscp
deriving DecidableEq, Repr, Inhabited

namespace MeshField

/-- The bit of a rule that matches every packet. -/
def alwaysTrueBit : Nat := 0

/-- The bit that switches the comparison of a field on. -/
def bit : MeshField → Nat
  | userPriority => 1
  | srcMac => 3
  | dstMac => 5
  | srcIpv4 => 7
  | dstIpv4 => 9
  | srcPort => 11
  | dstPort => 13
  | protocol => 15
  | vlanId => 17
  | dscp => 19

/-- The bit that inverts the comparison of a field. -/
def senseBit (f : MeshField) : Nat := f.bit + 1

def all : List MeshField :=
  [userPriority, srcMac, dstMac, vlanId, srcIpv4, dstIpv4, srcPort, dstPort, protocol, dscp]

theorem mem_all (f : MeshField) : f ∈ all := by cases f <;> decide

theorem senseBit_lt (f : MeshField) : f.senseBit < 32 := by cases f <;> decide

theorem bit_lt (f : MeshField) : f.bit < 32 := Nat.lt_of_succ_lt f.senseBit_lt

theorem bit_injective {f g : MeshField} (h : f.bit = g.bit) : f = g := by
  cases f <;> cases g <;> simp_all [bit]

/-- No bit is both the bit of a field and a sense bit. -/
theorem bit_ne_senseBit (f g : MeshField) : f.bit ≠ g.senseBit := by
  cases f <;> cases g <;> decide

end MeshField

/-! ### Flow flags -/

/-- The bits of the flow word. -/
inductive FlowFlag where
  | ipVersion | srcMac | dstMac | srcIpv4 | srcIpv4Mask | dstIpv4 | dstIpv4Mask | srcIpv6
  | srcIpv6Mask | dstIpv6 | dstIpv6Mask | srcPort | dstPort | srcPortFirst | srcPortLast
  | dstPortFirst | dstPortLast | protocol | vlanId | vlanPcp | dscp | spi
deriving DecidableEq, Repr, Inhabited

namespace FlowFlag

def bit : FlowFlag → Nat
  | ipVersion => 0
  | srcMac => 1
  | dstMac => 2
  | srcIpv4 => 3
  | srcIpv4Mask => 4
  | dstIpv4 => 5
  | dstIpv4Mask => 6
  | srcIpv6 => 7
  | srcIpv6Mask => 8
  | dstIpv6 => 9
  | dstIpv6Mask => 10
  | srcPort => 11
  | dstPort => 12
  | srcPortFirst => 13
  | srcPortLast => 14
  | dstPortFirst => 15
  | dstPortLast => 16
  | protocol => 17
  | vlanId => 18
  | vlanPcp => 19
  | dscp => 20
  | spi => 21

theorem bit_lt (f : FlowFlag) : f.bit < 32 := by cases f <;> decide

theorem bit_injective {f g : FlowFlag} (h : f.bit = g.bit) : f = g := by
  cases f <;> cases g <;> simp_all [bit]

end FlowFlag

namespace Flags

/-- Whether the comparison of a mesh field is switched on. -/
def compares (w : Flags) (f : MeshField) : Bool := w.has f.bit

/-- Whether the comparison of a mesh field is inverted. -/
def inverts (w : Flags) (f : MeshField) : Bool := w.has f.senseBit

def alwaysTrue (w : Flags) : Bool := w.has MeshField.alwaysTrueBit

/-- Whether a flow flag is set. -/
def hasFlow (w : Flags) (f : FlowFlag) : Bool := w.has f.bit

def setFlow (w : Flags) (f : FlowFlag) : Flags := w.set f.bit

/-- The comparison of a mesh field switched on; inverted too, if asked for. An inversion asked for
earlier stays. -/
def setCompare (w : Flags) (f : MeshField) (inverted : Bool) : Flags :=
  if inverted then (w.set f.bit).set f.senseBit else w.set f.bit

end Flags

end PacketPriority
