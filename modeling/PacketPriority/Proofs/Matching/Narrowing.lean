import PacketPriority.Matching.Mesh
import PacketPriority.Proofs.Rule.Masking

/-!
More conditions match fewer packets.

Setting more bits in a flag word puts more conditions on a packet, and takes none back: a condition
that counts under a word counts under every word with more bits, and half a port range adds nothing.
What the rule with more bits asks is what the other one asks, and the conditions that have come in
addition (`Rule.matchesFlow_iff_of_within`, `Rule.matchesMesh_iff_of_within`).

Three kinds of bits do not put a condition but change one that is there: the bit of a mask makes the
comparison of its address coarser, the sense bit of a mesh field turns its comparison round, and the
lowest bit of the mesh word lifts all comparisons. They are the exceptions in the main result,
`Rule.more_conditions_match_fewer`; a sense bit is one only for a field that is compared already.
-/

namespace PacketPriority

/-! ### Words with more bits -/

namespace Flags

variable {v w : Flags} {bit : Nat}

/-- Every bit of the first word is set in the second. -/
def Within (v w : Flags) : Prop := ∀ bit, v.has bit = true → w.has bit = true

/-- The second word has a bit that the first has not. -/
def Adds (v w : Flags) (bit : Nat) : Prop := w.has bit = true ∧ v.has bit = false

instance : Decidable (v.Adds w bit) := inferInstanceAs (Decidable (_ ∧ _))

theorem within_iff_or_eq : v.Within w ↔ v ||| w = w := by
  have has_or (bit : Nat) : has (v ||| w) bit = (v.has bit || w.has bit) := by
    simp [has]
  constructor
  · intro more
    refine ext fun bit => ?_
    rw [has_or]
    cases hv : v.has bit with
    | false => rfl
    | true => rw [more bit hv, Bool.or_true]
  · intro same bit hv
    rw [← same, has_or, hv, Bool.true_or]

instance : Decidable (v.Within w) := decidable_of_iff _ within_iff_or_eq.symm

/-- A bit that has not come in addition is as it was. -/
theorem Within.has_eq (more : v.Within w) (kept : ¬ v.Adds w bit) : w.has bit = v.has bit := by
  cases hv : v.has bit with
  | true => exact more bit hv
  | false =>
    by_contra added
    exact kept ⟨by simpa using added, hv⟩

/-- A condition that counts goes on counting. -/
theorem Within.counts (more : v.Within w) {c : FlowCondition} (counts : c.counts v = true) :
    c.counts w = true := by
  rw [FlowCondition.counts, List.all_eq_true] at counts ⊢
  intro f hf
  exact more f.bit (counts f hf)

end Flags

namespace Rule

variable {v w : Flags} {r : Rule} {p : Packet}

/-! ### Flow flags -/

/-- Whether a packet meets a condition depends on no flag but those of the masks. -/
theorem flowMeets_of_masks
    (masks : ∀ f : AddressField, w.hasFlow f.maskFlag = v.hasFlow f.maskFlag) (c : FlowCondition) :
    { r with flowFlags := w }.flowMeets p c = { r with flowFlags := v }.flowMeets p c := by
  have srcIpv4 := masks .srcIpv4
  have dstIpv4 := masks .dstIpv4
  have srcIpv6 := masks .srcIpv6
  have dstIpv6 := masks .dstIpv6
  simp only [AddressField.maskFlag] at srcIpv4 dstIpv4 srcIpv6 dstIpv6
  cases c with
  | srcIpv4 => simp only [flowMeets, flagged, srcIpv4]
  | dstIpv4 => simp only [flowMeets, flagged, dstIpv4]
  | srcIpv6 => simp only [flowMeets, flagged, srcIpv6]
  | dstIpv6 => simp only [flowMeets, flagged, dstIpv6]
  | _ => rfl

/-- **What more flow flags ask**: the same, and the conditions that have come in addition. -/
theorem matchesFlow_iff_of_within (more : v.Within w)
    (masks : ∀ f : AddressField, ¬ v.Adds w f.maskFlag.bit) :
    { r with flowFlags := w }.matchesFlow p = true ↔
      { r with flowFlags := v }.matchesFlow p = true ∧
        ∀ c : FlowCondition, c.counts w = true → c.counts v = false →
          { r with flowFlags := w }.flowMeets p c = true := by
  have meets := flowMeets_of_masks (r := r) (p := p) fun f => more.has_eq (masks f)
  rw [matchesFlow_iff, matchesFlow_iff]
  constructor
  · intro all
    refine ⟨fun c counts => ?_, fun c counts _ => all c counts⟩
    rw [← meets]
    exact all c (more.counts counts)
  · rintro ⟨before, added⟩ c counts
    cases hc : c.counts v with
    | true => exact (meets c).trans (before c hc)
    | false => exact added c counts hc

/-! ### Mesh flags -/

/-- A field that is compared, in a sense that has not been turned round, admits the same packets. -/
theorem meshAdmits_of_compares {f : MeshField} (more : v.Within w) (compared : v.compares f = true)
    (sense : ¬ v.Adds w f.senseBit) :
    { r with meshFlags := w }.meshAdmits p f = { r with meshFlags := v }.meshAdmits p f := by
  have compares : w.compares f = v.compares f := (more f.bit compared).trans compared.symm
  have inverts : w.inverts f = v.inverts f := more.has_eq sense
  simp only [meshAdmits, compares, inverts]

/-- A field that is not compared admits every packet. -/
theorem meshAdmits_of_not_compares {f : MeshField} (off : r.meshFlags.compares f = false) :
    r.meshAdmits p f = true := by
  rw [meshAdmits, off]
  rfl

/-- **What more mesh flags ask**: the same, and, of a rule that does not match every packet, the
comparisons that have come in addition. -/
theorem matchesMesh_iff_of_within (more : v.Within w)
    (always : ¬ v.Adds w MeshField.alwaysTrueBit)
    (sense : ∀ f : MeshField, v.compares f = true → ¬ v.Adds w f.senseBit) :
    { r with meshFlags := w }.matchesMesh p = true ↔
      { r with meshFlags := v }.matchesMesh p = true ∧
        (v.alwaysTrue = true ∨ ∀ f : MeshField, w.compares f = true → v.compares f = false →
          { r with meshFlags := w }.meshAdmits p f = true) := by
  have alwaysTrue : w.alwaysTrue = v.alwaysTrue := more.has_eq always
  rw [matchesMesh_iff, matchesMesh_iff]
  simp only [alwaysTrue]
  rw [← or_and_left]
  refine or_congr_right ⟨fun all => ⟨fun f => ?_, fun f _ _ => all f⟩, ?_⟩
  · cases compared : v.compares f with
    | true =>
      rw [← meshAdmits_of_compares more compared (sense f compared)]
      exact all f
    | false => exact meshAdmits_of_not_compares compared
  · rintro ⟨before, added⟩ f
    cases compared : v.compares f with
    | true => exact (meshAdmits_of_compares more compared (sense f compared)).trans (before f)
    | false =>
      -- the field has come in addition, or it is not compared by either word
      cases new : w.compares f with
      | true => exact added f new compared
      | false => exact meshAdmits_of_not_compares new

/-! ### The main result -/

/-- **More conditions match fewer packets.** For every rule and two words of flags, the second with
all bits of the first: if no mask comes in addition, a packet that matches the rule with the second
flow word matches it with the first; and the same holds of the mesh words, if what comes in addition
is neither the bit that makes the rule match every packet nor the sense of a field that was compared
before. -/
theorem more_conditions_match_fewer (r : Rule) (p : Packet) (more : v.Within w) :
    ((∀ f : AddressField, ¬ v.Adds w f.maskFlag.bit) →
        { r with flowFlags := w }.matchesFlow p = true →
        { r with flowFlags := v }.matchesFlow p = true) ∧
      (¬ v.Adds w MeshField.alwaysTrueBit →
        (∀ f : MeshField, v.compares f = true → ¬ v.Adds w f.senseBit) →
        { r with meshFlags := w }.matchesMesh p = true →
        { r with meshFlags := v }.matchesMesh p = true) := by
  constructor
  · intro masks matched
    exact ((matchesFlow_iff_of_within more masks).1 matched).1
  · intro always sense matched
    exact ((matchesMesh_iff_of_within more always sense).1 matched).1

/-- With half a port range and a protocol in addition to a masked address; and, in the mesh word,
with an inverted comparison of another field. -/
theorem more_conditions_match_fewer_of_half_range :
    let r : Rule := { id := 1, criteria :=
      { srcIpv4 := ⟨10, 0, 0, 0⟩, srcIpv4Mask := ⟨255, 0, 0, 0⟩, srcPortFirst := 9
        protocol := 6 } }
    let p : Packet :=
      { network := .ipv4 ⟨10, 1, 2, 3⟩ {}, srcMac := ⟨2, 0, 0, 0, 0, 1⟩, protocol := 6 }
    ({ r with flowFlags := 0x22018 }.matchesFlow p = true ∧
        { r with flowFlags := 0x18 }.matchesFlow p = true) ∧
      { r with meshFlags := 0x18018 }.matchesMesh { p with protocol := 17 } = true ∧
        { r with meshFlags := 0x18 }.matchesMesh { p with protocol := 17 } = true := by
  intro r p
  have flow : Flags.Within 0x18 0x22018 := by decide
  have mesh : Flags.Within 0x18 0x18018 := by decide
  have masks : ∀ f : AddressField, ¬ Flags.Adds 0x18 0x22018 f.maskFlag.bit := by
    intro f
    cases f <;> decide
  have sense : ∀ f : MeshField,
      Flags.compares 0x18 f = true → ¬ Flags.Adds 0x18 0x18018 f.senseBit := by
    intro f
    cases f <;> decide
  have half : { r with flowFlags := 0x22018 }.matchesFlow p = true := by decide
  have inverted : { r with meshFlags := 0x18018 }.matchesMesh { p with protocol := 17 } = true := by
    decide
  exact ⟨⟨half, (more_conditions_match_fewer r p flow).1 masks half⟩, inverted,
    (more_conditions_match_fewer r _ mesh).2 (by decide) sense inverted⟩

/-- A mask that comes in addition lets a packet match, and so does a sense. -/
example :
    let r : Rule := { id := 1, criteria :=
      { srcIpv4 := ⟨10, 0, 0, 0⟩, srcIpv4Mask := ⟨255, 0, 0, 0⟩ } }
    let p : Packet := { network := .ipv4 ⟨10, 1, 2, 3⟩ {} }
    { r with flowFlags := 0x8 }.matchesFlow p = false ∧
      { r with flowFlags := 0x18 }.matchesFlow p = true ∧
      { r with meshFlags := 0x80 }.matchesMesh p = false ∧
      { r with meshFlags := 0x180 }.matchesMesh p = true := by
  decide

end Rule

end PacketPriority
