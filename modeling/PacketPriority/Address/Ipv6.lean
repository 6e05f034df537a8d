import PacketPriority.Address.Ipv4

/-!
IPv6 addresses and masks.

An address is written in eight groups of hexadecimal digits. The longest run of two or more zero
groups, the first one among equals, is written `::`; an address that embeds an IPv4 address in
`::ffff:0:0/96` shows it as a dotted quad. Reading takes one `::` anywhere, for at least one group
of zeros, groups of one to four digits in either case, and a dotted quad for the last two groups.
-/

namespace PacketPriority

/-- An IPv6 address: its eight groups in the order in which they are written. -/
structure Ipv6 where
  g0 : UInt16 := 0
  g1 : UInt16 := 0
  g2 : UInt16 := 0
  g3 : UInt16 := 0
  g4 : UInt16 := 0
  g5 : UInt16 := 0
  g6 : UInt16 := 0
  g7 : UInt16 := 0
deriving DecidableEq, Repr, Inhabited

namespace Ipv6

def groups (x : Ipv6) : List UInt16 := [x.g0, x.g1, x.g2, x.g3, x.g4, x.g5, x.g6, x.g7]

/-- Eight groups in a row as an address. -/
def ofGroups? : List UInt16 → Option Ipv6
  | [g0, g1, g2, g3, g4, g5, g6, g7] => some ⟨g0, g1, g2, g3, g4, g5, g6, g7⟩
  | _ => none

theorem ofGroups?_groups (x : Ipv6) : ofGroups? x.groups = some x := rfl

/-- The address whose bits are all set. -/
def allOnes : Ipv6 := ⟨65535, 65535, 65535, 65535, 65535, 65535, 65535, 65535⟩

/-! ### Masks -/

/-- The bits of an address that a mask selects. -/
def mask (x m : Ipv6) : Ipv6 :=
  ⟨x.g0 &&& m.g0, x.g1 &&& m.g1, x.g2 &&& m.g2, x.g3 &&& m.g3,
    x.g4 &&& m.g4, x.g5 &&& m.g5, x.g6 &&& m.g6, x.g7 &&& m.g7⟩

theorem mask_mask (x m : Ipv6) : (x.mask m).mask m = x.mask m := by
  simp [mask, UInt16.and_assoc]

theorem mask_allOnes (x : Ipv6) : x.mask allOnes = x := by
  have h : ∀ w : UInt16, w &&& 65535 = w := fun w => UInt16.and_neg_one
  simp [mask, allOnes, h]

/-! ### Writing -/

/-- How many zero groups a list of groups starts with. -/
def leadingZeros (gs : List UInt16) : Nat := (gs.takeWhile (· == 0)).length

/-- The first of the longest runs of zero groups: how many groups stand before it, and its length.
Of two runs of one length the earlier wins. -/
def longestZeroRun : List UInt16 → Nat × Nat
  | [] => (0, 0)
  | g :: gs =>
    let here := leadingZeros (g :: gs)
    let later := longestZeroRun gs
    if later.2 ≤ here then (0, here) else (later.1 + 1, later.2)

/-- Groups written with a colon between each two. -/
def groupsText (gs : List UInt16) : List Char :=
  Text.joined [':'] (gs.map fun g => Text.hexDigits g.toNat)

/-- The IPv4 address that an address in `::ffff:0:0/96` embeds. -/
def embedded? (x : Ipv6) : Option Ipv4 :=
  if x.g0 = 0 ∧ x.g1 = 0 ∧ x.g2 = 0 ∧ x.g3 = 0 ∧ x.g4 = 0 ∧ x.g5 = 65535 then
    some ⟨(x.g6 >>> 8).toUInt8, x.g6.toUInt8, (x.g7 >>> 8).toUInt8, x.g7.toUInt8⟩
  else none

def toList (x : Ipv6) : List Char :=
  match x.embedded? with
  | some v4 => [':', ':', 'f', 'f', 'f', 'f', ':'] ++ v4.toList
  | none =>
    let (start, length) := longestZeroRun x.groups
    if 1 < length then
      groupsText (x.groups.take start) ++ [':', ':'] ++ groupsText (x.groups.drop (start + length))
    else groupsText x.groups

def toString (x : Ipv6) : String := String.ofList x.toList

/-! ### Reading -/

/-- One group: one to four hexadecimal digits. -/
def group? (cs : List Char) : Option UInt16 :=
  if cs.length ≤ 4 then (Text.numeral? 16 Text.hexValue? cs).bind Word.ofNat? else none

/-- The two groups that a dotted quad stands for. -/
def quadGroups (v4 : Ipv4) : List UInt16 :=
  [v4.a.toUInt16 <<< 8 ||| v4.b.toUInt16, v4.c.toUInt16 <<< 8 ||| v4.d.toUInt16]

/-- The groups that a row of parts stands for; the last part may be a dotted quad if `quad` is
set. -/
def groupsOf? (quad : Bool) : List (List Char) → Option (List UInt16)
  | [] => some []
  | [part] =>
    match group? part with
    | some g => some [g]
    | none => if quad then (Ipv4.ofList? part).map quadGroups else none
  | part :: rest => (group? part).bind fun g => (groupsOf? quad rest).map (g :: ·)

/-- One side of a written address: nothing, or groups with colons between them. -/
def side? (quad : Bool) (cs : List Char) : Option (List UInt16) :=
  if cs.isEmpty then some [] else groupsOf? quad (Text.parts (· = ':') cs)

/-- The text before the first `::` and the text after it. -/
def cut? : List Char → Option (List Char × List Char)
  | ':' :: ':' :: cs => some ([], cs)
  | c :: cs => (cut? cs).map fun (before, after) => (c :: before, after)
  | [] => none

def ofList? (cs : List Char) : Option Ipv6 :=
  match cut? cs with
  | none => (side? true cs).bind ofGroups?
  | some (before, after) =>
    (side? false before).bind fun head =>
      (side? true after).bind fun tail =>
        if head.length + tail.length ≤ 7 then
          ofGroups? (head ++ List.replicate (8 - (head.length + tail.length)) 0 ++ tail)
        else none

/-- The address that a text writes, if it writes one. -/
def ofString? (s : String) : Option Ipv6 := ofList? s.toList

end Ipv6

end PacketPriority
