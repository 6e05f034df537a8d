import Mathlib.Data.List.Forall2
import PacketPriority.Matching.Flow
import PacketPriority.Proofs.Rule.Edits

/-!
Addresses and their masks.

An address and its mask are given by edits of their own, and which comes first does not matter: the
mask is applied when the rule is built. What is stored is then the last address given under the last
mask given (`Rule.address_build`), and as the packet's side is masked by the same mask, the rule
compares the bits that the mask selects and no others (`Rule.flowMeets_condition_iff`).

Masks could as well be applied before: building from edits is the same as editing with the addresses
reduced beforehand (`Rule.build_eq_edited_reduced`). So bits that a mask leaves out do not show in
the rule at all (`Rule.build_congr_of_alike`).

The four addresses are one argument with a field as its parameter; an address is of the family of
its field.
-/

namespace PacketPriority

/-! ### What stands behind a flag -/

namespace Rule

/-- What stands behind a flag of an edited rule, if edits that set the flag store something there,
is what has been given last, or else what stood there before. -/
theorem flagged_edited {α : Type} {f : FlowFlag} (get : Rule → α) {give : Edit → Option α}
    (sets : ∀ ed : Edit, ed.flowFlags.contains f = (give ed).isSome)
    (stores : ∀ (ed : Edit) r, get (ed.apply r) = (give ed).getD (get r)) (r : Rule)
    (eds : List Edit) :
    (r.edited eds).flagged f (get (r.edited eds)) =
      (Edit.last? give eds).or (r.flagged f (get r)) := by
  refine stored_edited (fun r => r.flagged f (get r)) (fun ed r => ?_) r eds
  unfold flagged
  rw [Edit.hasFlow_apply, sets, stores]
  cases give ed with
  | none => simp
  | some a => simp

theorem flagged_blank {α : Type} (id : UInt32) (f : FlowFlag) (a : α) :
    (blank id).flagged f a = none := by
  have off : (blank id).flowFlags.hasFlow f = false := Flags.has_zero _
  rw [flagged, off]
  rfl

end Rule

/-! ### The four addresses -/

/-- The addresses that a flow rule compares under a mask. -/
inductive AddressField where
  | srcIpv4 | dstIpv4 | srcIpv6 | dstIpv6
deriving DecidableEq

namespace AddressField

/-- The addresses of a field's family. -/
def Address : AddressField → Type
  | srcIpv4 | dstIpv4 => Ipv4
  | srcIpv6 | dstIpv6 => Ipv6

instance : (f : AddressField) → DecidableEq f.Address
  | srcIpv4 | dstIpv4 => inferInstanceAs (DecidableEq Ipv4)
  | srcIpv6 | dstIpv6 => inferInstanceAs (DecidableEq Ipv6)

/-- The address with all bits cleared. -/
def zero : (f : AddressField) → f.Address
  | srcIpv4 | dstIpv4 => ({} : Ipv4)
  | srcIpv6 | dstIpv6 => ({} : Ipv6)

/-- The bits of an address that a mask selects. -/
def mask : (f : AddressField) → f.Address → f.Address → f.Address
  | srcIpv4 | dstIpv4 => Ipv4.mask
  | srcIpv6 | dstIpv6 => Ipv6.mask

/-- An address under a mask, if there is one. -/
def reduce (f : AddressField) (m : Option f.Address) (a : f.Address) : f.Address :=
  match m with
  | some m => f.mask a m
  | none => a

/-- Whether a packet's address agrees with a rule's, of which `m` is the mask that counts. -/
def agrees : (f : AddressField) → f.Address → Option f.Address → f.Address → Bool
  | srcIpv4 | dstIpv4 => Ipv4.agrees
  | srcIpv6 | dstIpv6 => Ipv6.agrees

/-- The flag that switches the comparison of an address on. -/
def flag : AddressField → FlowFlag
  | srcIpv4 => .srcIpv4
  | dstIpv4 => .dstIpv4
  | srcIpv6 => .srcIpv6
  | dstIpv6 => .dstIpv6

/-- The flag under which the mask of an address counts. -/
def maskFlag : AddressField → FlowFlag
  | srcIpv4 => .srcIpv4Mask
  | dstIpv4 => .dstIpv4Mask
  | srcIpv6 => .srcIpv6Mask
  | dstIpv6 => .dstIpv6Mask

/-- The condition on an address. -/
def condition : AddressField → FlowCondition
  | srcIpv4 => .srcIpv4
  | dstIpv4 => .dstIpv4
  | srcIpv6 => .srcIpv6
  | dstIpv6 => .dstIpv6

/-- The address that stands in a field of a packet, if the packet is of the family. -/
def inPacket? (p : Packet) : (f : AddressField) → Option f.Address
  | srcIpv4 => match p.network with | .ipv4 src _ => some src | _ => none
  | dstIpv4 => match p.network with | .ipv4 _ dst => some dst | _ => none
  | srcIpv6 => match p.network with | .ipv6 src _ => some src | _ => none
  | dstIpv6 => match p.network with | .ipv6 _ dst => some dst | _ => none

/-- The flow edit that gives an address. -/
def edit : (f : AddressField) → f.Address → Edit
  | srcIpv4 => .srcIpv4
  | dstIpv4 => .dstIpv4
  | srcIpv6 => .srcIpv6
  | dstIpv6 => .dstIpv6

/-- The address that an edit gives, for flow or for mesh matching. -/
def given? : (f : AddressField) → Edit → Option f.Address
  | srcIpv4, .srcIpv4 a | srcIpv4, .meshSrcIpv4 a _ => some a
  | dstIpv4, .dstIpv4 a | dstIpv4, .meshDstIpv4 a _ => some a
  | srcIpv6, .srcIpv6 a => some a
  | dstIpv6, .dstIpv6 a => some a
  | _, _ => none

/-- The mask that an edit gives. -/
def givenMask? : (f : AddressField) → Edit → Option f.Address
  | srcIpv4, .srcIpv4Mask m => some m
  | dstIpv4, .dstIpv4Mask m => some m
  | srcIpv6, .srcIpv6Mask m => some m
  | dstIpv6, .dstIpv6Mask m => some m
  | _, _ => none

theorem agrees_iff (f : AddressField) {wanted x : f.Address} {m : Option f.Address} :
    f.agrees wanted m x = true ↔ f.reduce m x = wanted := by
  cases f <;> cases m <;> exact beq_iff_eq

theorem reduce_zero (f : AddressField) (m : Option f.Address) : f.reduce m f.zero = f.zero := by
  have ipv4 (m : Ipv4) : ({} : Ipv4).mask m = {} := by simp [Ipv4.mask]
  have ipv6 (m : Ipv6) : ({} : Ipv6).mask m = {} := by simp [Ipv6.mask]
  cases m with
  | none => rfl
  | some m =>
    cases f
    case srcIpv4 | dstIpv4 => exact ipv4 m
    case srcIpv6 | dstIpv6 => exact ipv6 m

end AddressField

/-! ### Addresses and masks of a rule -/

namespace Criteria

def address (c : Criteria) : (f : AddressField) → f.Address
  | .srcIpv4 => c.srcIpv4
  | .dstIpv4 => c.dstIpv4
  | .srcIpv6 => c.srcIpv6
  | .dstIpv6 => c.dstIpv6

def addressMask (c : Criteria) : (f : AddressField) → f.Address
  | .srcIpv4 => c.srcIpv4Mask
  | .dstIpv4 => c.dstIpv4Mask
  | .srcIpv6 => c.srcIpv6Mask
  | .dstIpv6 => c.dstIpv6Mask

end Criteria

/-- A choice of masks, with none for some of the addresses. -/
abbrev Masks := (f : AddressField) → Option f.Address

/-- The masks that edits give, each the last one of its field. -/
def Edit.masks (eds : List Edit) : Masks := fun f => Edit.last? f.givenMask? eds

/-- What edits give for a field last: an address and a mask, whichever of the two comes first. -/
structure Edit.Gives (eds : List Edit) (f : AddressField) (a m : f.Address) : Prop where
  address : Edit.last? f.given? eds = some a
  mask : Edit.last? f.givenMask? eds = some m

namespace Rule

variable {r : Rule} {eds : List Edit} {f : AddressField} {a m : f.Address}

/-- The masks of a rule that count. -/
def masks (r : Rule) : Masks := fun f => r.flagged f.maskFlag (r.criteria.addressMask f)

/-- The rule with its addresses under masks. -/
def reduced (r : Rule) (ms : Masks) : Rule :=
  { r with criteria := { r.criteria with
      srcIpv4 := AddressField.srcIpv4.reduce (ms .srcIpv4) r.criteria.srcIpv4
      dstIpv4 := AddressField.dstIpv4.reduce (ms .dstIpv4) r.criteria.dstIpv4
      srcIpv6 := AddressField.srcIpv6.reduce (ms .srcIpv6) r.criteria.srcIpv6
      dstIpv6 := AddressField.dstIpv6.reduce (ms .dstIpv6) r.criteria.dstIpv6 } }

theorem address_reduced (r : Rule) (ms : Masks) (f : AddressField) :
    (r.reduced ms).criteria.address f = f.reduce (ms f) (r.criteria.address f) := by
  cases f <;> rfl

theorem masks_reduced (r : Rule) (ms : Masks) : (r.reduced ms).masks = r.masks := by
  funext f
  cases f <;> rfl

theorem reduce_masks (r : Rule) (f : AddressField) (a : f.Address) :
    f.reduce (r.masks f) a =
      if r.flowFlags.hasFlow f.maskFlag then f.mask a (r.criteria.addressMask f) else a := by
  unfold masks flagged
  split <;> rfl

/-- A rule is completed by its own masks. -/
theorem canonical_eq_reduced (r : Rule) : r.canonical = r.reduced r.masks := by
  have srcIpv4 := r.reduce_masks .srcIpv4 r.criteria.srcIpv4
  have dstIpv4 := r.reduce_masks .dstIpv4 r.criteria.dstIpv4
  have srcIpv6 := r.reduce_masks .srcIpv6 r.criteria.srcIpv6
  have dstIpv6 := r.reduce_masks .dstIpv6 r.criteria.dstIpv6
  rw [reduced, srcIpv4, dstIpv4, srcIpv6, dstIpv6]
  rfl

theorem address_apply (f : AddressField) (ed : Edit) (r : Rule) :
    some ((ed.apply r).criteria.address f) = (f.given? ed).or (some (r.criteria.address f)) := by
  cases f <;> cases ed <;> rfl

/-- The masks of an edited rule are the last ones given, or else those of the rule. -/
theorem masks_edited (r : Rule) (eds : List Edit) (f : AddressField) :
    (r.edited eds).masks f = (Edit.masks eds f).or (r.masks f) := by
  unfold masks Edit.masks
  refine flagged_edited (fun r => r.criteria.addressMask f) (fun ed => ?_) (fun ed r => ?_) r eds
  · cases f <;> cases ed <;> rfl
  · cases f <;> cases ed <;> rfl

theorem address_edited (r : Rule) (eds : List Edit) (f : AddressField) :
    (r.edited eds).criteria.address f = (Edit.last? f.given? eds).getD (r.criteria.address f) := by
  have stored := stored_edited (fun r => some (r.criteria.address f)) (address_apply f) r eds
  cases given : Edit.last? f.given? eds with
  | none => simpa [given] using stored
  | some a => simpa [given] using stored

theorem masks_blank (id : UInt32) (f : AddressField) : (blank id).masks f = none :=
  flagged_blank id f.maskFlag _

theorem address_blank (id : UInt32) (f : AddressField) :
    (blank id).criteria.address f = f.zero := by
  cases f <;> rfl

theorem masks_build (id : UInt32) (eds : List Edit) : (build id eds).masks = Edit.masks eds := by
  funext f
  rw [build, canonical_eq_reduced, masks_reduced, masks_edited, masks_blank, Option.or_none]

/-- **What is stored of an address**: the last one given, under the last mask given. -/
theorem address_build (id : UInt32) (eds : List Edit) (f : AddressField) :
    (build id eds).criteria.address f =
      f.reduce (Edit.masks eds f) ((Edit.last? f.given? eds).getD f.zero) := by
  rw [build, canonical_eq_reduced, address_reduced, masks_edited, masks_blank, Option.or_none,
    address_edited, address_blank]

/-- A condition on an address asks for a packet of the family, and compares under the mask that
counts. -/
theorem flowMeets_condition_iff {p : Packet} (f : AddressField) :
    r.flowMeets p f.condition = true ↔
      ∃ x, f.inPacket? p = some x ∧ f.reduce (r.masks f) x = r.criteria.address f := by
  have meets : r.flowMeets p f.condition =
      (f.inPacket? p).any (f.agrees (r.criteria.address f) (r.masks f)) := by
    cases f <;> simp only [AddressField.condition, flowMeets, AddressField.inPacket?] <;>
      cases p.network <;> rfl
  rw [meets, Option.any_eq_true]
  exact exists_congr fun x => and_congr_right fun _ => f.agrees_iff

/-- The rule compares an address, and of it the bits that a mask selects. -/
structure ComparesMasked (r : Rule) (f : AddressField) (a m : f.Address) : Prop where
  counts : f.condition.counts r.flowFlags = true
  meets_iff : ∀ p, r.flowMeets p f.condition = true ↔
    ∃ x, f.inPacket? p = some x ∧ f.mask x m = f.mask a m

theorem address_build_of_gives (id : UInt32) (given : Edit.Gives eds f a m) :
    (build id eds).criteria.address f = f.mask a m := by
  rw [address_build, Edit.masks, given.mask, given.address]
  rfl

/-- A flow edit switches the comparison of its address on. -/
theorem counts_build_of_mem (id : UInt32) (mem : f.edit a ∈ eds) :
    f.condition.counts (build id eds).flowFlags = true := by
  have flags : f.condition.counts (build id eds).flowFlags =
      ((blank id).edited eds).flowFlags.hasFlow f.flag := by
    cases f <;> exact Bool.and_true _
  have sets : (f.edit a).flowFlags.contains f.flag = true := by
    cases f <;> rfl
  rw [flags, hasFlow_edited, List.any_eq_true.2 ⟨_, mem, sets⟩, Bool.or_true]

/-- **What is compared of an address** that a flow edit gives with a mask: the bits that the mask
selects. -/
theorem comparesMasked_build (id : UInt32) (given : Edit.Gives eds f a m)
    (mem : f.edit a ∈ eds) : (build id eds).ComparesMasked f a m where
  counts := counts_build_of_mem id mem
  meets_iff p := by
    rw [flowMeets_condition_iff, address_build_of_gives id given, masks_build, Edit.masks,
      given.mask]
    rfl

end Rule

/-! ### Reducing addresses beforehand -/

/-- An edit with the address that it gives under masks. -/
def Edit.reduced (ms : Masks) : Edit → Edit
  | srcIpv4 a => srcIpv4 (AddressField.srcIpv4.reduce (ms .srcIpv4) a)
  | meshSrcIpv4 a inverted => meshSrcIpv4 (AddressField.srcIpv4.reduce (ms .srcIpv4) a) inverted
  | dstIpv4 a => dstIpv4 (AddressField.dstIpv4.reduce (ms .dstIpv4) a)
  | meshDstIpv4 a inverted => meshDstIpv4 (AddressField.dstIpv4.reduce (ms .dstIpv4) a) inverted
  | srcIpv6 a => srcIpv6 (AddressField.srcIpv6.reduce (ms .srcIpv6) a)
  | dstIpv6 a => dstIpv6 (AddressField.dstIpv6.reduce (ms .dstIpv6) a)
  | ed => ed

namespace Rule

variable {eds eds' : List Edit}

theorem reduced_apply (ms : Masks) (ed : Edit) (r : Rule) :
    (ed.apply r).reduced ms = (ed.reduced ms).apply (r.reduced ms) := by
  cases ed <;> rfl

theorem reduced_blank (ms : Masks) (id : UInt32) : (blank id).reduced ms = blank id := by
  have zero (f : AddressField) := f.reduce_zero (ms f)
  have srcIpv4 := zero .srcIpv4
  have dstIpv4 := zero .dstIpv4
  have srcIpv6 := zero .srcIpv6
  have dstIpv6 := zero .dstIpv6
  simp only [AddressField.zero] at srcIpv4 dstIpv4 srcIpv6 dstIpv6
  rw [reduced, blank]
  dsimp only
  rw [srcIpv4, dstIpv4, srcIpv6, dstIpv6]

/-- Masks can be applied at the end or to each edit. -/
theorem reduced_edited (ms : Masks) (r : Rule) (eds : List Edit) :
    (r.edited eds).reduced ms = (r.reduced ms).edited (eds.map (·.reduced ms)) := by
  have step (r : Rule) (ed : Edit) := (reduced_apply ms ed r).symm
  rw [edited, edited, List.foldl_map]
  exact (List.foldl_hom (fun r : Rule => r.reduced ms) step).symm

/-- Building from edits is editing with the addresses reduced beforehand. -/
theorem build_eq_edited_reduced (id : UInt32) (eds : List Edit) :
    build id eds = (blank id).edited (eds.map (·.reduced (Edit.masks eds))) := by
  have masks : ((blank id).edited eds).masks = Edit.masks eds := by
    funext f
    rw [masks_edited, masks_blank, Option.or_none]
  rw [build, canonical_eq_reduced, masks, reduced_edited, reduced_blank]

end Rule

/-! ### Bits that a mask leaves out -/

/-- Two edits are the same but for bits of an address that masks leave out. -/
inductive Edit.AlikeUnder (ms : Masks) : Edit → Edit → Prop
  | same (ed : Edit) : AlikeUnder ms ed ed
  | flow {f : AddressField} {a b m : f.Address} (given : ms f = some m)
    (alike : f.mask a m = f.mask b m) : AlikeUnder ms (f.edit a) (f.edit b)
  | meshSrc {a b m : Ipv4} (inverted : Bool) (given : ms .srcIpv4 = some m)
    (alike : a.mask m = b.mask m) :
    AlikeUnder ms (.meshSrcIpv4 a inverted) (.meshSrcIpv4 b inverted)
  | meshDst {a b m : Ipv4} (inverted : Bool) (given : ms .dstIpv4 = some m)
    (alike : a.mask m = b.mask m) :
    AlikeUnder ms (.meshDstIpv4 a inverted) (.meshDstIpv4 b inverted)

namespace Edit.AlikeUnder

variable {ms : Masks} {ed ed' : Edit}

theorem givenMask?_eq (h : AlikeUnder ms ed ed') (f : AddressField) :
    f.givenMask? ed' = f.givenMask? ed := by
  cases h
  case same => rfl
  case flow g _ _ _ _ _ => cases f <;> cases g <;> rfl
  case meshSrc | meshDst => cases f <;> rfl

theorem reduced_eq (h : AlikeUnder ms ed ed') : ed'.reduced ms = ed.reduced ms := by
  cases h
  case same => rfl
  case flow f _ _ _ given alike =>
    cases f
    case srcIpv4 => exact congrArg srcIpv4 (by rw [given]; exact alike.symm)
    case dstIpv4 => exact congrArg dstIpv4 (by rw [given]; exact alike.symm)
    case srcIpv6 => exact congrArg srcIpv6 (by rw [given]; exact alike.symm)
    case dstIpv6 => exact congrArg dstIpv6 (by rw [given]; exact alike.symm)
  case meshSrc inverted given alike =>
    exact congrArg (meshSrcIpv4 · inverted) (by rw [given]; exact alike.symm)
  case meshDst inverted given alike =>
    exact congrArg (meshDstIpv4 · inverted) (by rw [given]; exact alike.symm)

end Edit.AlikeUnder

theorem Edit.map_eq_of_alike {α : Type} {ms : Masks} {eds eds' : List Edit} {g : Edit → α}
    (h : List.Forall₂ (Edit.AlikeUnder ms) eds eds')
    (same : ∀ ed ed', Edit.AlikeUnder ms ed ed' → g ed' = g ed) : eds'.map g = eds.map g := by
  induction h with
  | nil => rfl
  | cons alike _ ih => rw [List.map_cons, List.map_cons, same _ _ alike, ih]

/-- **Bits that a mask leaves out** do not show in a rule. -/
theorem Rule.build_congr_of_alike {eds eds' : List Edit} (id : UInt32)
    (h : List.Forall₂ (Edit.AlikeUnder (Edit.masks eds)) eds eds') :
    build id eds = build id eds' := by
  -- masks are not among the edits that may differ, so that both lists give the same
  have masks : Edit.masks eds' = Edit.masks eds := by
    funext f
    have given := Edit.map_eq_of_alike h fun _ _ alike => alike.givenMask?_eq f
    have last (l : List Edit) :
        Edit.masks l f = ((l.map f.givenMask?).filterMap fun m => m).getLast? := by
      rw [List.filterMap_map]
      rfl
    rw [last, last, given]
  have reduced := Edit.map_eq_of_alike h fun _ _ alike => alike.reduced_eq
  rw [build_eq_edited_reduced, build_eq_edited_reduced, masks, reduced]

end PacketPriority
