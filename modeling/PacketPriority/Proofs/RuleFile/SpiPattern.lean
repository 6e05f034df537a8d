import PacketPriority.Proofs.Rule.Masking
import PacketPriority.Proofs.RuleFile.FlowEntry
import PacketPriority.Proofs.RuleFile.MeshEntry

/-!
SPI patterns.

An SPI is compared under a mask, as an address is, but its value is not reduced when the rule is
built. It stands in the rule as it was given, by an edit (`Rule.testsSpi_build`) or by an entry of a
rule file (`Entry.testsSpi_of_accepted`), and the packet's SPI, of which only the bits of the mask
are left, has to be equal to it. So the pattern compares the bits that the mask selects exactly if
the value has no bits outside the mask; if it has one, no packet meets it (`Rule.TestsSpi`).
-/

namespace PacketPriority

/-! ### Masked words -/

/-- A word has no bits outside a mask exactly if it is what the mask leaves of some word. -/
theorem and_eq_self_iff_exists {value mask : UInt32} :
    value &&& mask = value ↔ ∃ x, x &&& mask = value := by
  constructor
  · exact fun inside => ⟨value, inside⟩
  · rintro ⟨x, rfl⟩
    rw [UInt32.and_assoc, UInt32.and_self]

/-! ### Patterns of rules -/

/-- The SPI pattern that an edit gives. -/
def Edit.spi? : Edit → Option (UInt32 × UInt32)
  | spi value mask => some (value, mask)
  | _ => none

namespace Rule

variable {r : Rule} {value mask : UInt32}

/-- The rule tests the SPI of a packet, under a mask, for a value as it was given. -/
structure TestsSpi (r : Rule) (value mask : UInt32) : Prop where
  counts : FlowCondition.spi.counts r.flowFlags = true
  meets_iff : ∀ p, r.flowMeets p .spi = true ↔ p.spi &&& mask = value
  /-- It compares what the mask selects, if the value has nothing else. -/
  masked_iff : (∀ p, r.flowMeets p .spi = true ↔ p.spi &&& mask = value &&& mask) ↔
    value &&& mask = value
  /-- There are packets that meet it, if the value has nothing else. -/
  met_iff : (∃ p, r.flowMeets p .spi = true) ↔ value &&& mask = value
  /-- The rule matches no packet, if the value has anything else. -/
  matches_none : value &&& mask ≠ value → ∀ p, r.matchesFlow p = false

theorem testsSpi_of_flagged
    (h : r.flagged .spi (r.criteria.spiValue, r.criteria.spiMask) = some (value, mask)) :
    r.TestsSpi value mask := by
  have set : r.flowFlags.hasFlow .spi = true := by
    by_contra off
    rw [flagged, if_neg off] at h
    cases h
  rw [flagged, if_pos set, Option.some.injEq, Prod.mk.injEq] at h
  obtain ⟨hvalue, hmask⟩ := h
  have counts : FlowCondition.spi.counts r.flowFlags = true := by
    simp [FlowCondition.counts, FlowCondition.flags, set]
  have meets (p : Packet) : r.flowMeets p .spi = true ↔ p.spi &&& mask = value := by
    rw [flowMeets, hvalue, hmask, beq_iff_eq]
  have met : (∃ p, r.flowMeets p .spi = true) ↔ value &&& mask = value := by
    simp only [meets, and_eq_self_iff_exists]
    constructor
    · rintro ⟨p, hp⟩
      exact ⟨p.spi, hp⟩
    · rintro ⟨x, hx⟩
      exact ⟨{ spi := x }, hx⟩
  refine ⟨counts, meets, ⟨fun same => ?_, fun inside p => ?_⟩, met, fun outside p => ?_⟩
  · -- the value itself, as the SPI of a packet
    exact (meets { spi := value }).1 ((same { spi := value }).2 rfl)
  · rw [meets, inside]
  · by_contra matched
    rw [Bool.not_eq_false, matchesFlow_iff] at matched
    exact outside (met.1 ⟨p, matched .spi counts⟩)

/-- **The pattern of an edited rule** is the one given last. -/
theorem testsSpi_build (id : UInt32) {eds : List Edit}
    (given : Edit.last? Edit.spi? eds = some (value, mask)) :
    (build id eds).TestsSpi value mask := by
  refine testsSpi_of_flagged ?_
  let pattern (r : Rule) := (r.criteria.spiValue, r.criteria.spiMask)
  have last : ((blank id).edited eds).flagged .spi (pattern ((blank id).edited eds)) =
      (Edit.last? Edit.spi? eds).or ((blank id).flagged .spi (pattern (blank id))) :=
    flagged_edited pattern (fun ed => by cases ed <;> rfl) (fun ed r => by cases ed <;> rfl) _ _
  rw [flagged_blank, Option.or_none, given] at last
  -- completing the rule reduces addresses only
  exact last

end Rule

/-! ### Patterns of entries -/

namespace RuleFile.Entry

variable {e : Entry} {value mask : UInt32}

/-- A mesh entry with an SPI is refused. -/
theorem kind_ne_mesh_of_spi (sound : e.fault = none) (given : e.spi.isSome = true) :
    e.kind ≠ .mesh := by
  intro mesh
  rw [fault, if_pos mesh] at sound
  split at sound
  · cases sound
  · obtain ⟨flowOnly, -⟩ := (meshFault_eq_none_iff e).1 sound
    exact List.find?_eq_none.1 flowOnly ("spi", e.spi.isSome) (by simp [Entry.flowOnly]) given

/-- **The pattern of an accepted entry** is the one that it gives. -/
theorem testsSpi_of_accepted {q : Request} (adds : e.command = .add)
    (accepted : e.toRequest = .ok q) (given : e.maskedSpi = some (value, mask)) :
    q.rule.TestsSpi value mask := by
  obtain ⟨sound, rfl⟩ := (toRequest_eq_ok_iff adds).1 accepted
  have spi : e.spi.isSome = true := by
    rw [← Option.isSome_map (f := fun value => (value, e.spiMask.getD 4294967295))]
    exact Option.isSome_of_eq_some given
  have flow := kind_ne_mesh_of_spi sound spi
  refine Rule.testsSpi_of_flagged ?_
  show e.rule.flagged .spi (e.rule.criteria.spiValue, e.rule.criteria.spiMask) = _
  have kept := flagged_flowRule (d := (0, 0)) flow (f := .spi) (m := e.maskedSpi) rfl
  rw [criteria_flowRule flow]
  exact kept.trans given

end RuleFile.Entry

/-! ### The main result -/

/-- **How an SPI pattern is compared**, whether an edit gives it or an accepted entry: with the
value as it is given, so that no packet meets a value with bits outside its mask. -/
theorem spi_pattern_is_not_reduced (value mask : UInt32) :
    (∀ id eds, Edit.last? Edit.spi? eds = some (value, mask) →
        (Rule.build id eds).TestsSpi value mask) ∧
      ∀ (e : RuleFile.Entry) q, e.command = .add → e.toRequest = .ok q →
        e.maskedSpi = some (value, mask) → q.rule.TestsSpi value mask :=
  ⟨fun id _ given => Rule.testsSpi_build id given,
    fun _ _ adds accepted given => RuleFile.Entry.testsSpi_of_accepted adds accepted given⟩

/-- An entry whose value has bits outside its mask is accepted, and its rule matches nothing. Edits
of which the last gives a value within its mask build a rule whose pattern is met. -/
theorem spi_pattern_is_not_reduced_of_outside :
    let e : RuleFile.Entry :=
      { id := 7, kind := .scs, spi := some 305419896, spiMask := some 4294901760 }
    let r := Rule.build 7 [.spi 1 0, .output 3, .spi 4660 65535]
    (∃ q, e.toRequest = .ok q ∧ q.rule.TestsSpi 305419896 4294901760 ∧
        ∀ p, q.rule.matchesFlow p = false) ∧
      r.TestsSpi 4660 65535 ∧ ∃ p, r.flowMeets p .spi = true := by
  intro e r
  have accepted : e.toRequest = .ok (.add e.rule) := by decide +kernel
  have outside := (spi_pattern_is_not_reduced 305419896 4294901760).2 e _ rfl accepted rfl
  have inside := (spi_pattern_is_not_reduced 4660 65535).1 7
    [.spi 1 0, .output 3, .spi 4660 65535] rfl
  exact ⟨⟨_, accepted, outside, outside.matches_none (by decide)⟩, inside,
    inside.met_iff.2 (by decide)⟩

/-- A rule for one SPI under a mask does not match the packet with that very SPI. -/
theorem spi_outside_its_mask_is_not_met :
    let value : UInt32 := 305419896
    let mask : UInt32 := 4294901760
    let r := Rule.build 1 [.spi value mask]
    let p : Packet := { spi := value }
    p.spi &&& mask = value &&& mask ∧ r.flowMeets p .spi = false ∧ r.matchesFlow p = false := by
  decide

end PacketPriority
