import Mathlib.Logic.Function.Basic
import Mathlib.Tactic.SplitIfs
import PacketPriority.Matching.Flow
import PacketPriority.Proofs.Matching.Sense

/-!
The way back.

A packet that answers another one goes from its destination to its source: `Packet.reversed`
exchanges the two in all fields that come in such pairs. `Rule.reversed` does the same to a rule, to
the values that it compares with and to the bits of its flag words; a mesh field takes its sense
along. Either exchange undoes itself.

A rule matches a packet exactly if the reversed rule matches the reversed packet
(`Rule.reversal_keeps_matching`): for each condition there is one that asks the same of the other
side (`Rule.meshAdmits_reversed`, `Rule.flowMeets_reversed`), and the bits of both change places
(`Rule.compares_reversed`, `Rule.hasFlow_reversed`). One kind of rule knows its two sides apart: a
`sawf_scs` rule takes the device that a packet passes for its destination, but never for its source.
-/

namespace PacketPriority

/-! ### Exchanging bits -/

namespace Flags

/-- The word with two bits exchanged. -/
def exchange (w : Flags) (bits : Nat × Nat) : Flags :=
  if w.has bits.1 = w.has bits.2 then w else (w.toggle bits.1).toggle bits.2

/-- The bit that comes to stand in the place of a bit when two bits are exchanged. -/
def exchanged (bits : Nat × Nat) (bit : Nat) : Nat :=
  if bit = bits.1 then bits.2 else if bit = bits.2 then bits.1 else bit

theorem has_exchange {bits : Nat × Nat} (h : bits.1 < 32 ∧ bits.2 < 32) (w : Flags) (bit : Nat) :
    (w.exchange bits).has bit = w.has (exchanged bits bit) := by
  obtain ⟨i, j⟩ := bits
  unfold exchange exchanged
  dsimp only at h ⊢
  split
  · next same =>
    -- nothing to exchange
    split_ifs with hi hj
    · rw [hi, same]
    · rw [hj, same]
    · rfl
  · next differ =>
    rw [has_toggle h.2, has_toggle h.1]
    have other : i ≠ j := fun e => differ (e ▸ rfl)
    have turned : w.has j = !w.has i := by
      revert differ
      cases w.has i <;> cases w.has j <;> simp
    split_ifs with hi hj
    · simp [hi, other.symm, turned]
    · simp [hj, other, turned]
    · simp [Ne.symm hi, Ne.symm hj]

/-- The word after a list of exchanges: each of its bits is the one that stood where the exchanges
lead back to. -/
theorem has_exchanges {pairs : List (Nat × Nat)} (h : ∀ bits ∈ pairs, bits.1 < 32 ∧ bits.2 < 32)
    (w : Flags) (bit : Nat) :
    (pairs.foldl exchange w).has bit = w.has (pairs.foldr exchanged bit) := by
  induction pairs generalizing w with
  | nil => rfl
  | cons bits rest ih =>
    obtain ⟨first, later⟩ := List.forall_mem_cons.1 h
    rw [List.foldl_cons, ih later, has_exchange first, List.foldr_cons]

/-- Exchanges that lead back to every bit in two rounds undo themselves. -/
theorem exchanges_exchanges {pairs : List (Nat × Nat)}
    (h : ∀ bits ∈ pairs, bits.1 < 32 ∧ bits.2 < 32)
    (back : ∀ bit : Fin 32, pairs.foldr exchanged (pairs.foldr exchanged bit) = bit) (w : Flags) :
    pairs.foldl exchange (pairs.foldl exchange w) = w := by
  refine ext fun bit => ?_
  rcases Nat.lt_or_ge bit 32 with hbit | hbit
  · rw [has_exchanges h, has_exchanges h, back ⟨bit, hbit⟩]
  · rw [has_of_le _ hbit, has_of_le _ hbit]

end Flags

/-! ### The other side -/

/-- The field on the other side of a packet; some fields have no side. -/
def MeshField.reversed : MeshField → MeshField
  | srcMac => dstMac
  | dstMac => srcMac
  | srcIpv4 => dstIpv4
  | dstIpv4 => srcIpv4
  | srcPort => dstPort
  | dstPort => srcPort
  | f => f

def FlowFlag.reversed : FlowFlag → FlowFlag
  | srcMac => dstMac
  | dstMac => srcMac
  | srcIpv4 => dstIpv4
  | dstIpv4 => srcIpv4
  | srcIpv4Mask => dstIpv4Mask
  | dstIpv4Mask => srcIpv4Mask
  | srcIpv6 => dstIpv6
  | dstIpv6 => srcIpv6
  | srcIpv6Mask => dstIpv6Mask
  | dstIpv6Mask => srcIpv6Mask
  | srcPort => dstPort
  | dstPort => srcPort
  | srcPortFirst => dstPortFirst
  | dstPortFirst => srcPortFirst
  | srcPortLast => dstPortLast
  | dstPortLast => srcPortLast
  | f => f

/-- The condition that asks the same of the other side. -/
def FlowCondition.reversed : FlowCondition → FlowCondition
  | srcMac => dstMac
  | dstMac => srcMac
  | srcIpv4 => dstIpv4
  | dstIpv4 => srcIpv4
  | srcIpv6 => dstIpv6
  | dstIpv6 => srcIpv6
  | srcPort => dstPort
  | dstPort => srcPort
  | srcPortRange => dstPortRange
  | dstPortRange => srcPortRange
  | c => c

def Network.reversed : Network → Network
  | ipv4 src dst => ipv4 dst src
  | ipv6 src dst => ipv6 dst src
  | nonIp => nonIp

/-- The packet that goes back. -/
def Packet.reversed (p : Packet) : Packet :=
  { p with
    srcMac := p.dstMac
    dstMac := p.srcMac
    network := p.network.reversed
    srcPort := p.dstPort
    dstPort := p.srcPort }

def Criteria.reversed (c : Criteria) : Criteria :=
  { c with
    srcMac := c.dstMac
    dstMac := c.srcMac
    srcIpv4 := c.dstIpv4
    srcIpv4Mask := c.dstIpv4Mask
    dstIpv4 := c.srcIpv4
    dstIpv4Mask := c.srcIpv4Mask
    srcIpv6 := c.dstIpv6
    srcIpv6Mask := c.dstIpv6Mask
    dstIpv6 := c.srcIpv6
    dstIpv6Mask := c.srcIpv6Mask
    srcPort := c.dstPort
    dstPort := c.srcPort
    srcPortFirst := c.dstPortFirst
    srcPortLast := c.dstPortLast
    dstPortFirst := c.srcPortFirst
    dstPortLast := c.srcPortLast }

namespace Flags

/-- The bits of the mesh word that change places. -/
def meshPairs : List (Nat × Nat) :=
  [MeshField.srcMac, .srcIpv4, .srcPort].flatMap fun f =>
    [(f.bit, f.reversed.bit), (f.senseBit, f.reversed.senseBit)]

/-- The bits of the flow word that change places. -/
def flowPairs : List (Nat × Nat) :=
  [FlowFlag.srcMac, .srcIpv4, .srcIpv4Mask, .srcIpv6, .srcIpv6Mask, .srcPort, .srcPortFirst,
    .srcPortLast].map fun f => (f.bit, f.reversed.bit)

end Flags

/-- The rule for the way back. -/
def Rule.reversed (r : Rule) : Rule :=
  { r with
    meshFlags := Flags.meshPairs.foldl Flags.exchange r.meshFlags
    flowFlags := Flags.flowPairs.foldl Flags.exchange r.flowFlags
    criteria := r.criteria.reversed }

theorem MeshField.reversed_reversed (f : MeshField) : f.reversed.reversed = f := by
  cases f <;> rfl

theorem FlowCondition.reversed_reversed (c : FlowCondition) : c.reversed.reversed = c := by
  cases c <;> rfl

theorem FlowCondition.flags_reversed (c : FlowCondition) :
    c.reversed.flags = c.flags.map FlowFlag.reversed := by
  cases c <;> rfl

theorem Network.reversed_reversed (n : Network) : n.reversed.reversed = n := by
  cases n <;> rfl

theorem Packet.reversed_reversed (p : Packet) : p.reversed.reversed = p := by
  have network := p.network.reversed_reversed
  show { p with network := p.network.reversed.reversed } = p
  rw [network]

/-! ### Flags of the rule for the way back -/

namespace Rule

variable (r : Rule) (p : Packet)

theorem has_mesh_reversed (bit : Nat) :
    r.reversed.meshFlags.has bit = r.meshFlags.has (Flags.meshPairs.foldr Flags.exchanged bit) :=
  Flags.has_exchanges (by decide) r.meshFlags bit

theorem has_flow_reversed (bit : Nat) :
    r.reversed.flowFlags.has bit = r.flowFlags.has (Flags.flowPairs.foldr Flags.exchanged bit) :=
  Flags.has_exchanges (by decide) r.flowFlags bit

theorem alwaysTrue_reversed : r.reversed.meshFlags.alwaysTrue = r.meshFlags.alwaysTrue :=
  r.has_mesh_reversed MeshField.alwaysTrueBit

theorem compares_reversed (f : MeshField) :
    r.reversed.meshFlags.compares f.reversed = r.meshFlags.compares f := by
  have place : Flags.meshPairs.foldr Flags.exchanged f.reversed.bit = f.bit := by
    cases f <;> rfl
  rw [Flags.compares, has_mesh_reversed, place]
  rfl

theorem inverts_reversed (f : MeshField) :
    r.reversed.meshFlags.inverts f.reversed = r.meshFlags.inverts f := by
  have place : Flags.meshPairs.foldr Flags.exchanged f.reversed.senseBit = f.senseBit := by
    cases f <;> rfl
  rw [Flags.inverts, has_mesh_reversed, place]
  rfl

theorem hasFlow_reversed (f : FlowFlag) :
    r.reversed.flowFlags.hasFlow f.reversed = r.flowFlags.hasFlow f := by
  have place : Flags.flowPairs.foldr Flags.exchanged f.reversed.bit = f.bit := by
    cases f <;> rfl
  rw [Flags.hasFlow, has_flow_reversed, place]
  rfl

theorem counts_reversed (c : FlowCondition) :
    c.reversed.counts r.reversed.flowFlags = c.counts r.flowFlags := by
  rw [FlowCondition.counts, FlowCondition.counts, c.flags_reversed, List.all_map]
  exact congrArg (List.all c.flags) (funext r.hasFlow_reversed)

/-- The way back of the way back is the way there. -/
theorem reversed_reversed : r.reversed.reversed = r := by
  have meshFlags : r.reversed.reversed.meshFlags = r.meshFlags :=
    Flags.exchanges_exchanges (by decide) (by decide) r.meshFlags
  have flowFlags : r.reversed.reversed.flowFlags = r.flowFlags :=
    Flags.exchanges_exchanges (by decide) (by decide) r.flowFlags
  show { r with
    meshFlags := r.reversed.reversed.meshFlags, flowFlags := r.reversed.reversed.flowFlags } = r
  rw [meshFlags, flowFlags]

/-! ### Conditions on the other side -/

/-- A mesh field admits a packet if the field on the other side admits the one that goes back. -/
theorem meshAdmits_reversed (f : MeshField) :
    r.reversed.meshAdmits p.reversed f.reversed = r.meshAdmits p f := by
  have isIpv4 : p.reversed.network.isIpv4 = p.network.isIpv4 := by
    simp only [Packet.reversed]
    cases p.network <;> rfl
  have hasPorts : p.reversed.hasPorts = p.hasPorts := by
    simp only [Packet.hasPorts, Packet.reversed]
    cases p.network <;> rfl
  have present : f.reversed.present p.reversed = f.present p := by
    cases f
    case srcIpv4 | dstIpv4 | protocol | dscp => exact isIpv4
    case srcPort | dstPort => exact congrArg₂ and isIpv4 hasPorts
    all_goals rfl
  have agrees : f.reversed.agrees r.reversed.criteria p.reversed = f.agrees r.criteria p := by
    cases f
    case srcIpv4 | dstIpv4 =>
      simp only [MeshField.reversed, MeshField.agrees, Packet.reversed]
      cases p.network <;> rfl
    all_goals rfl
  rw [meshAdmits, compares_reversed, inverts_reversed, present, agrees]
  rfl

/-- A packet meets a condition if the packet that goes back meets the one on the other side, unless
the packet may be meant for the device itself. -/
theorem flowMeets_reversed (device : r.kind ≠ .sawfScs) (c : FlowCondition) :
    r.reversed.flowMeets p.reversed c.reversed = r.flowMeets p c := by
  have kind : (r.kind == .sawfScs) = false := by simpa using device
  have flagged {α : Type} (f : FlowFlag) (a : α) :
      r.reversed.flagged f.reversed a = r.flagged f a := by
    simp only [Rule.flagged, hasFlow_reversed]
  cases c
  case srcMac =>
    show (p.srcMac == r.criteria.srcMac || (r.kind == .sawfScs && _)) = (p.srcMac == _)
    rw [kind, Bool.false_and, Bool.or_false]
  case dstMac =>
    show (p.dstMac == r.criteria.dstMac) = (p.dstMac == _ || (r.kind == .sawfScs && _))
    rw [kind, Bool.false_and, Bool.or_false]
  case srcIpv4 | dstIpv4 | srcIpv6 | dstIpv6 =>
    -- the mask of the other side counts if the one of this side did
    simp only [FlowCondition.reversed, flowMeets, ← flagged]
    simp only [Packet.reversed]
    cases p.network <;> rfl
  case ipVersion =>
    simp only [FlowCondition.reversed, flowMeets, Packet.version, Packet.reversed]
    cases p.network <;> rfl
  all_goals rfl

/-! ### The main result -/

/-- **A rule matches on the way there exactly if its reversal matches on the way back.** For every
rule, whatever bits are set in its words, and every packet this holds of mesh matching, and it holds
of flow matching unless the rule is one of those that know the device. -/
theorem reversal_keeps_matching :
    r.reversed.matchesMesh p.reversed = r.matchesMesh p ∧
      (r.kind ≠ .sawfScs → r.reversed.matchesFlow p.reversed = r.matchesFlow p) := by
  constructor
  · rw [Bool.eq_iff_iff, matchesMesh_iff, matchesMesh_iff, alwaysTrue_reversed]
    have onto := Function.Involutive.surjective MeshField.reversed_reversed
    refine or_congr_right (onto.forall.trans (forall_congr' fun f => ?_))
    rw [meshAdmits_reversed]
  · intro device
    rw [Bool.eq_iff_iff, matchesFlow_iff, matchesFlow_iff]
    have onto := Function.Involutive.surjective FlowCondition.reversed_reversed
    refine onto.forall.trans (forall_congr' fun c => ?_)
    rw [counts_reversed, flowMeets_reversed r p device]

/-- A range of source ports and a masked address become those of the destination, and half a range,
which counts for nothing, goes along. -/
theorem reversal_keeps_matching_of_range :
    let r : Rule :=
      { id := 1, kind := .scs, flowFlags := 0xE018, criteria :=
        { srcIpv4 := ⟨10, 0, 0, 0⟩, srcIpv4Mask := ⟨255, 0, 0, 0⟩
          srcPortFirst := 1000, srcPortLast := 2000, dstPortFirst := 9 } }
    let p : Packet := { network := .ipv4 ⟨10, 1, 2, 3⟩ ⟨10, 9, 9, 9⟩, srcPort := 1500 }
    r.reversed.flowFlags = 0x1A060 ∧ p.reversed.dstPort = 1500 ∧
      r.kind ≠ .sawfScs ∧ r.reversed.matchesFlow p.reversed = true ∧
      r.reversed.matchesFlow p = false := by
  intro r p
  have there : r.matchesFlow p = true := by decide
  exact ⟨by decide, rfl, by decide, ((reversal_keeps_matching r p).2 (by decide)).trans there,
    by decide⟩

/-- The device may be a destination and no source. -/
example :
    let r : Rule :=
      { id := 1, kind := .sawfScs, flowFlags := 0x4, criteria := { dstMac := ⟨2, 0, 0, 0, 0, 1⟩ } }
    let p : Packet := { devAddr := ⟨2, 0, 0, 0, 0, 1⟩ }
    r.matchesFlow p = true ∧ r.reversed.matchesFlow p.reversed = false := by
  decide

end Rule

end PacketPriority
