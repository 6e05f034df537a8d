import Mathlib.Logic.Basic
import PacketPriority.Matching.Mesh

/-!
The two senses of a mesh comparison.

A comparison that a mesh rule makes in one sense can be made in the other: `Rule.otherSense` toggles
the sense bit of a field. And it can be left out: `Rule.uncompared` clears both bits of the field.
What a rule asks is then what it asks without the field, that the packet has the field, and that the
comparison comes out as its sense wants (`Rule.matchesMesh_iff_uncompared`). The first two parts do
not depend on the sense, and of the third each packet meets one sense and fails the other. The main
result is `Rule.one_sense_matches`; nothing is assumed of the other bits of the word, be they
without a meaning or the sense of a field that is not compared.
-/

namespace PacketPriority

/-! ### Taking bits back -/

namespace Flags

variable {w : Flags} {bit : Nat}

/-- The word with one bit changed. -/
def toggle (w : Flags) (bit : Nat) : Flags := w ^^^ single bit

/-- The word without a bit. -/
def clear (w : Flags) (bit : Nat) : Flags := w &&& ~~~single bit

theorem has_of_le (w : Flags) {other : Nat} (h : 32 ≤ other) : has w other = false :=
  BitVec.getLsbD_of_ge _ _ h

theorem has_toggle (h : bit < 32) (other : Nat) :
    has (toggle w bit) other = (has w other ^^ decide (bit = other)) := by
  simp only [has, toggle, single, UInt32.toBitVec_xor, BitVec.getLsbD_xor, BitVec.getLsbD_twoPow]
  simp [h]

theorem has_clear (w : Flags) (bit other : Nat) :
    has (clear w bit) other = (has w other && !decide (bit = other)) := by
  rcases Nat.lt_or_ge other 32 with h | h
  · simp only [has, clear, single, UInt32.toBitVec_and, UInt32.toBitVec_not, BitVec.getLsbD_and,
      BitVec.getLsbD_not, BitVec.getLsbD_twoPow]
    rcases eq_or_ne bit other with rfl | hne
    · simp [h]
    · simp [h, hne]
  · rw [has_of_le _ h, has_of_le _ h, Bool.false_and]

end Flags

/-! ### What a comparison needs -/

namespace MeshField

/-- What a packet must be for a field to be compared in it, whatever the sense. -/
def ComparableIn (p : Packet) : MeshField → Prop
  | userPriority | srcMac | dstMac => True
  | vlanId => ∃ tci, p.vlanTci = some tci
  | srcIpv4 | dstIpv4 | protocol | dscp => ∃ src dst, p.network = .ipv4 src dst
  | srcPort | dstPort =>
    (∃ src dst, p.network = .ipv4 src dst) ∧ (p.protocol = 6 ∨ p.protocol = 17)

theorem isIpv4_iff {n : Network} : n.isIpv4 = true ↔ ∃ src dst, n = .ipv4 src dst := by
  cases n <;> simp [Network.isIpv4]

theorem ports_present_iff {p : Packet} :
    (p.network.isIpv4 && p.hasPorts) = true ↔
      (∃ src dst, p.network = .ipv4 src dst) ∧ (p.protocol = 6 ∨ p.protocol = 17) := by
  rw [← isIpv4_iff]
  cases hn : p.network <;>
    simp [Packet.hasPorts, Packet.isPortProtocol, Network.isIpv4, Network.isIp, hn]

theorem present_iff {p : Packet} (f : MeshField) : f.present p = true ↔ f.ComparableIn p := by
  cases f with
  | userPriority | srcMac | dstMac => exact iff_of_true rfl trivial
  | vlanId => exact Option.isSome_iff_exists
  | srcIpv4 | dstIpv4 | protocol | dscp => exact isIpv4_iff
  | srcPort | dstPort => exact ports_present_iff

theorem bit_ne_alwaysTrueBit (f : MeshField) : f.bit ≠ alwaysTrueBit := by cases f <;> decide

theorem senseBit_ne_alwaysTrueBit (f : MeshField) : f.senseBit ≠ alwaysTrueBit := Nat.succ_ne_zero _

end MeshField

namespace Rule

variable {r s : Rule} {f g : MeshField} {p : Packet}

/-! ### The other sense, and no comparison -/

/-- The rule that compares a field in the other sense. -/
def otherSense (r : Rule) (f : MeshField) : Rule :=
  { r with meshFlags := r.meshFlags.toggle f.senseBit }

/-- The rule that does not compare a field. -/
def uncompared (r : Rule) (f : MeshField) : Rule :=
  { r with meshFlags := (r.meshFlags.clear f.bit).clear f.senseBit }

theorem has_otherSense (r : Rule) (f : MeshField) (bit : Nat) :
    (r.otherSense f).meshFlags.has bit = (r.meshFlags.has bit ^^ decide (f.senseBit = bit)) :=
  Flags.has_toggle f.senseBit_lt bit

theorem has_uncompared (r : Rule) (f : MeshField) (bit : Nat) :
    (r.uncompared f).meshFlags.has bit =
      (r.meshFlags.has bit && !decide (f.bit = bit) && !decide (f.senseBit = bit)) := by
  simp only [uncompared, Flags.has_clear]

theorem compares_otherSense (r : Rule) (f g : MeshField) :
    (r.otherSense f).meshFlags.compares g = r.meshFlags.compares g := by
  have other : f.senseBit ≠ g.bit := (MeshField.bit_ne_senseBit g f).symm
  simp [Flags.compares, has_otherSense, other]

theorem inverts_otherSense (r : Rule) (f : MeshField) :
    (r.otherSense f).meshFlags.inverts f = !r.meshFlags.inverts f := by
  simp [Flags.inverts, has_otherSense]

theorem alwaysTrue_otherSense (r : Rule) (f : MeshField) :
    (r.otherSense f).meshFlags.alwaysTrue = r.meshFlags.alwaysTrue := by
  simp [Flags.alwaysTrue, has_otherSense, f.senseBit_ne_alwaysTrueBit]

theorem compares_uncompared (r : Rule) (f : MeshField) :
    (r.uncompared f).meshFlags.compares f = false := by
  simp [Flags.compares, has_uncompared]

theorem alwaysTrue_uncompared (r : Rule) (f : MeshField) :
    (r.uncompared f).meshFlags.alwaysTrue = r.meshFlags.alwaysTrue := by
  simp [Flags.alwaysTrue, has_uncompared, f.bit_ne_alwaysTrueBit, f.senseBit_ne_alwaysTrueBit]

/-- In whatever sense a field has been compared, leaving it out comes to the same. -/
theorem uncompared_otherSense (r : Rule) (f : MeshField) :
    (r.otherSense f).uncompared f = r.uncompared f := by
  have same : ((r.otherSense f).uncompared f).meshFlags = (r.uncompared f).meshFlags := by
    refine Flags.ext fun bit => ?_
    rw [has_uncompared, has_uncompared, has_otherSense]
    rcases eq_or_ne f.senseBit bit with rfl | other
    · simp
    · simp [other]
  show { r with meshFlags := ((r.otherSense f).uncompared f).meshFlags } = r.uncompared f
  rw [same]
  rfl

/-! ### One field among all -/

/-- Whether a field admits a packet depends on its own two bits alone. -/
theorem meshAdmits_uncompared_of_ne (r : Rule) (p : Packet) (h : g ≠ f) :
    (r.uncompared f).meshAdmits p g = r.meshAdmits p g := by
  have hbit : f.bit ≠ g.bit := fun e => h (MeshField.bit_injective e).symm
  have hsense : f.senseBit ≠ g.senseBit := fun e => hbit (Nat.succ.inj e)
  have compares : (r.uncompared f).meshFlags.compares g = r.meshFlags.compares g := by
    have other : f.senseBit ≠ g.bit := (MeshField.bit_ne_senseBit g f).symm
    simp [Flags.compares, has_uncompared, hbit, other]
  have inverts : (r.uncompared f).meshFlags.inverts g = r.meshFlags.inverts g := by
    simp [Flags.inverts, has_uncompared, hsense, MeshField.bit_ne_senseBit f g]
  rw [meshAdmits, compares, inverts]
  rfl

theorem meshAdmits_uncompared (r : Rule) (p : Packet) (f : MeshField) :
    (r.uncompared f).meshAdmits p f = true := by
  rw [meshAdmits, compares_uncompared]
  rfl

/-- **A comparison taken apart**: what the rule asks without it, what it needs of the packet, and
that it comes out as its sense wants. -/
theorem matchesMesh_iff_uncompared (always : r.meshFlags.alwaysTrue = false)
    (compared : r.meshFlags.compares f = true) :
    r.matchesMesh p = true ↔ (r.uncompared f).matchesMesh p = true ∧ f.ComparableIn p ∧
      f.agrees r.criteria p = !r.meshFlags.inverts f := by
  have own : r.meshAdmits p f = true ↔
      f.ComparableIn p ∧ f.agrees r.criteria p = !r.meshFlags.inverts f := by
    rw [meshAdmits, compared, ← f.present_iff]
    cases f.agrees r.criteria p <;> cases r.meshFlags.inverts f <;> simp
  rw [matchesMesh_iff, matchesMesh_iff, alwaysTrue_uncompared, always, ← own]
  simp only [Bool.false_eq_true, false_or]
  constructor
  · intro admits
    refine ⟨fun g => ?_, admits f⟩
    rcases eq_or_ne g f with rfl | other
    · exact meshAdmits_uncompared r p g
    · rw [meshAdmits_uncompared_of_ne r p other]
      exact admits g
  · rintro ⟨others, admits⟩ g
    rcases eq_or_ne g f with rfl | other
    · exact admits
    · rw [← meshAdmits_uncompared_of_ne r p other]
      exact others g

/-! ### The main result -/

/-- **One sense matches, the other does not**: a rule and the rule with one comparison in the other
sense never both match a packet, and one of them does exactly if the packet meets all that the rule
asks without that comparison and has what the comparison needs. -/
theorem one_sense_matches (always : r.meshFlags.alwaysTrue = false)
    (compared : r.meshFlags.compares f = true) (p : Packet) :
    ¬ (r.matchesMesh p = true ∧ (r.otherSense f).matchesMesh p = true) ∧
      (Xor (r.matchesMesh p = true) ((r.otherSense f).matchesMesh p = true) ↔
        (r.uncompared f).matchesMesh p = true ∧ f.ComparableIn p) := by
  have one := matchesMesh_iff_uncompared (p := p) always compared
  have other := matchesMesh_iff_uncompared (r := r.otherSense f) (f := f) (p := p)
    ((alwaysTrue_otherSense r f).trans always) ((compares_otherSense r f f).trans compared)
  have criteria : (r.otherSense f).criteria = r.criteria := rfl
  rw [uncompared_otherSense, inverts_otherSense, Bool.not_not, criteria] at other
  rw [one, other, Xor]
  -- the packet's value is the one of the rule or it is not, and the sense is one of two
  cases f.agrees r.criteria p <;> cases r.meshFlags.inverts f <;> simp

/-- Of a word with bits that mean nothing: a packet of another protocol has no ports to compare,
so that it fails both senses. -/
theorem one_sense_matches_of_ports :
    let r : Rule :=
      { id := 1, kind := .mesh, meshFlags := 0x80002004, criteria := { dstPort := 80 } }
    let p : Packet := { network := .ipv4 {} {}, protocol := 17, dstPort := 443 }
    (r.otherSense .dstPort).matchesMesh p = true ∧ ¬ r.matchesMesh p = true ∧
      (r.uncompared .dstPort).matchesMesh { p with protocol := 1 } = true ∧
      ¬ Xor (r.matchesMesh { p with protocol := 1 } = true)
        ((r.otherSense .dstPort).matchesMesh { p with protocol := 1 } = true) := by
  intro r p
  have senses (p : Packet) := one_sense_matches (r := r) (f := .dstPort) (by decide) (by decide) p
  have inverted : (r.otherSense .dstPort).matchesMesh p = true := by decide
  refine ⟨inverted, fun direct => (senses p).1 ⟨direct, inverted⟩, by decide, fun exactly => ?_⟩
  obtain ⟨-, -, ports⟩ := (senses { p with protocol := 1 }).2.1 exactly
  revert ports
  decide

end Rule

end PacketPriority
