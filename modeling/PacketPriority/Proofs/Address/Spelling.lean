import Mathlib.Data.List.Forall2
import PacketPriority.Address.Mac
import PacketPriority.Proofs.Text.Groups
import PacketPriority.Proofs.Text.Hexadecimal
import PacketPriority.Proofs.Text.Numerals

/-!
Spellings of hardware addresses.

An address is written in six groups of two digits with a colon or a dash between each two
(`Mac.Written`). Every text that is written so is read as its address. Reading takes one thing more:
the width of a group is measured in bytes, and a plus sign may take the place of the first digit
(`octet?_eq_some_iff`). So a text is read exactly if its groups are pairs of digits or a sign with a
digit, and the written texts are those of them that hold no plus sign
(`read_iff_written_or_signed`).

Neither upper case nor dashes for colons change the address that a text is read as
(`ofString?_upperCase`, `ofString?_dashed`).
-/

namespace PacketPriority.Mac

open Text (HexDigit Grouped)

/-! ### Groups -/

/-- Two digits stand for the octet that they make. -/
def DigitPair (group : List Char) (b : UInt8) : Prop :=
  ∃ high low h l, group = [high, low] ∧ HexDigit high h ∧ HexDigit low l ∧ b.toNat = 16 * h + l

/-- A plus sign with a single digit stands for the value of that digit. -/
def SignedDigit (group : List Char) (b : UInt8) : Prop :=
  ∃ low, group = ['+', low] ∧ HexDigit low b.toNat

theorem not_hexDigit_plus (v : Nat) : ¬ HexDigit '+' v := by
  intro h
  have none_read : Text.hexValue? '+' = none := by decide
  rw [Text.hexValue?_eq_some_iff.2 h] at none_read
  cases none_read

theorem withoutPlus_cases (group : List Char) :
    (∃ rest, group = '+' :: rest ∧ Text.withoutPlus group = rest) ∨
      Text.withoutPlus group = group := by
  unfold Text.withoutPlus
  split
  · exact .inl ⟨_, rfl, rfl⟩
  · exact .inr rfl

theorem octet?_eq_some_of_size {group : List Char} {b : UInt8} :
    octet? group = some b ↔ Text.byteLength group = 2 ∧
      Text.numeral? 16 Text.hexValue? (Text.withoutPlus group) = some b.toNat := by
  rw [octet?]
  split
  next size =>
    simp [size, Option.bind_eq_some_iff, Word.ofNat?_eq_some_iff, Word.toNat]
  next size => simp [size]

theorem octet?_of_digitPair {group : List Char} {b : UInt8} (pair : DigitPair group b) :
    octet? group = some b := by
  obtain ⟨high, low, h, l, rfl, hhigh, hlow, value⟩ := pair
  have unsigned : Text.withoutPlus [high, low] = [high, low] := by
    rcases withoutPlus_cases [high, low] with ⟨rest, sign, -⟩ | unsigned
    · cases sign
      exact absurd hhigh (not_hexDigit_plus h)
    · exact unsigned
  refine octet?_eq_some_of_size.2 ⟨?_, ?_⟩
  · simp [Text.byteLength, Text.utf8Size_of_toNat_lt hhigh.toNat_lt,
      Text.utf8Size_of_toNat_lt hlow.toNat_lt]
  · rw [unsigned, Text.numeral?_pair, Text.hexValue?_eq_some_iff.2 hhigh,
      Text.hexValue?_eq_some_iff.2 hlow, value]
    rfl

theorem octet?_of_signedDigit {group : List Char} {b : UInt8} (signed : SignedDigit group b) :
    octet? group = some b := by
  obtain ⟨low, rfl, hlow⟩ := signed
  refine octet?_eq_some_of_size.2 ⟨?_, ?_⟩
  · have sign : '+'.utf8Size = 1 := by decide
    simp [Text.byteLength, sign, Text.utf8Size_of_toNat_lt hlow.toNat_lt]
  · show Text.numeral? 16 Text.hexValue? [low] = some b.toNat
    rw [Text.numeral?_singleton, Text.hexValue?_eq_some_iff.2 hlow]

/-- **A group is read if it is a pair of digits or a sign with a digit.** -/
theorem octet?_eq_some_iff {group : List Char} {b : UInt8} :
    octet? group = some b ↔ DigitPair group b ∨ SignedDigit group b := by
  constructor
  · intro read
    obtain ⟨size, read⟩ := octet?_eq_some_of_size.1 read
    have digits := Text.digit_of_mem_numeral read
    rcases withoutPlus_cases group with ⟨rest, rfl, unsigned⟩ | unsigned
    · -- the sign takes one of the two bytes, so one digit is left
      rw [unsigned] at read digits
      rw [Text.byteLength, Text.byteLength_of_digits digits] at size
      have single : rest.length = 1 := by
        have sign : '+'.utf8Size = 1 := by decide
        omega
      obtain ⟨low, rfl⟩ := List.length_eq_one_iff.1 single
      rw [Text.numeral?_singleton] at read
      exact .inr ⟨low, rfl, Text.hexValue?_eq_some_iff.1 read⟩
    · rw [unsigned] at read digits
      rw [Text.byteLength_of_digits digits] at size
      obtain ⟨high, low, rfl⟩ := List.length_eq_two.1 size
      rw [Text.numeral?_pair, Option.bind_eq_some_iff] at read
      obtain ⟨h, hhigh, last⟩ := read
      obtain ⟨l, hlow, value⟩ := Option.map_eq_some_iff.1 last
      exact .inl ⟨high, low, h, l, rfl, Text.hexValue?_eq_some_iff.1 hhigh,
        Text.hexValue?_eq_some_iff.1 hlow, value.symm⟩
  · rintro (pair | signed)
    · exact octet?_of_digitPair pair
    · exact octet?_of_signedDigit signed

/-! ### Addresses -/

/-- A text consists of six groups, with a colon or a dash between each two of them, that stand for
the octets of an address in order. -/
def Spells (group : List Char → UInt8 → Prop) (text : String) (m : Mac) : Prop :=
  ∃ groups, Grouped isSeparator text.toList groups ∧ List.Forall₂ group groups m.octets

/-- A text in which each octet of an address is written with two digits. -/
def Written : String → Mac → Prop := Spells DigitPair

/-- A text in which some octets of an address may be written with a plus sign and one digit. -/
def WrittenOrSigned : String → Mac → Prop := Spells fun g b => DigitPair g b ∨ SignedDigit g b

theorem mapM_eq_some_iff {α β : Type} {f : α → Option β} {l : List α} {r : List β} :
    l.mapM f = some r ↔ List.Forall₂ (fun a b => f a = some b) l r := by
  induction l generalizing r with
  | nil => simp [eq_comm]
  | cons a l ih =>
    rw [List.mapM_cons]
    cases ha : f a with
    | none => simp [List.forall₂_cons_left_iff, ha]
    | some b =>
      cases hl : l.mapM f with
      | none =>
        rw [hl] at ih
        simp [List.forall₂_cons_left_iff, ← ih]
      | some s =>
        rw [hl] at ih
        simp [List.forall₂_cons_left_iff, ha, ← ih, eq_comm]

theorem ofOctets?_eq_some_iff {bytes : List UInt8} {m : Mac} :
    ofOctets? bytes = some m ↔ bytes = m.octets := by
  constructor
  · intro read
    unfold ofOctets? at read
    split at read
    next =>
      obtain rfl := Option.some.inj read
      rfl
    next => cases read
  · rintro rfl
    rfl

theorem ofString?_eq_some_iff_parts {text : String} {m : Mac} :
    ofString? text = some m ↔ List.Forall₂ (fun g b => octet? g = some b)
      (Text.parts isSeparator text.toList) m.octets := by
  simp [ofString?, ofList?, Option.bind_eq_some_iff, mapM_eq_some_iff, ofOctets?_eq_some_iff]

/-! ### Which texts are read -/

theorem isSeparator_of_hexDigit {c : Char} {v : Nat} (h : HexDigit c v) :
    isSeparator c = false := by
  have value := Text.hexValue?_eq_some_iff.2 h
  have solid : c ≠ ':' ∧ c ≠ '-' := by
    constructor
    · rintro rfl
      cases value
    · rintro rfl
      cases value
  simp [isSeparator, solid]

/-- No separator stands in a group that is read. -/
theorem isSeparator_of_mem_group {group : List Char} {b : UInt8} (h : octet? group = some b) :
    ∀ c ∈ group, isSeparator c = false := by
  rcases octet?_eq_some_iff.1 h with ⟨high, low, h, l, rfl, hhigh, hlow, -⟩ | ⟨low, rfl, hlow⟩
  · simp [isSeparator_of_hexDigit hhigh, isSeparator_of_hexDigit hlow]
  · simp [isSeparator_of_hexDigit hlow, show isSeparator '+' = false by decide]

/-- The groups of a text that are read are the parts between its separators. -/
theorem parts_eq_of_grouped {text : List Char} {groups : List (List Char)} {bytes : List UInt8}
    (grouped : Grouped isSeparator text groups)
    (read : List.Forall₂ (fun g b => octet? g = some b) groups bytes) :
    Text.parts isSeparator text = groups := by
  have clean := read.imp fun _ _ h => And.intro (isSeparator_of_mem_group h) h
  exact Text.parts_eq_iff.2 ⟨grouped, ((List.forall₂_and_left _ _).1 clean).1⟩

theorem ofString?_eq_some_iff {text : String} {m : Mac} :
    ofString? text = some m ↔ WrittenOrSigned text m := by
  simp only [ofString?_eq_some_iff_parts, WrittenOrSigned, Spells, ← octet?_eq_some_iff]
  constructor
  · intro read
    exact ⟨_, Text.grouped_parts isSeparator _, read⟩
  · rintro ⟨groups, grouped, read⟩
    rwa [parts_eq_of_grouped grouped read]

theorem plus_notMem_digitPair {group : List Char} {b : UInt8} (h : DigitPair group b) :
    '+' ∉ group := by
  obtain ⟨high, low, h, l, rfl, hhigh, hlow, -⟩ := h
  intro mem
  rcases List.mem_pair.1 mem with rfl | rfl
  · exact not_hexDigit_plus h hhigh
  · exact not_hexDigit_plus l hlow

/-- **The texts of pairs of digits are those that are read and hold no plus sign.** -/
theorem written_iff {text : String} {m : Mac} :
    Written text m ↔ ofString? text = some m ∧ '+' ∉ text.toList := by
  rw [ofString?_eq_some_iff]
  constructor
  · rintro ⟨groups, grouped, pairs⟩
    refine ⟨⟨groups, grouped, pairs.imp fun _ _ => Or.inl⟩, ?_⟩
    intro mem
    rcases grouped.sep_or_mem mem with sep | ⟨g, hg, plus⟩
    · exact absurd sep (by decide)
    · have unsigned := pairs.imp fun _ _ h => And.intro (plus_notMem_digitPair h) h
      exact ((List.forall₂_and_left _ _).1 unsigned).1 g hg plus
  · rintro ⟨⟨groups, grouped, read⟩, unsigned⟩
    have clean : ∀ g ∈ groups, '+' ∉ g := fun g hg plus => unsigned (grouped.mem_of_mem hg plus)
    refine ⟨groups, grouped, ((List.forall₂_and_left _ _).2 ⟨clean, read⟩).imp ?_⟩
    rintro g b ⟨no_plus, pair | ⟨low, rfl, -⟩⟩
    · exact pair
    · exact absurd List.mem_cons_self no_plus

/-- **Which texts are read as addresses.** A text is read exactly if it consists of six groups with
a colon or a dash between each two, each of them two digits or a plus sign with one digit, and then
as the address of their values in order. The texts with two digits in each group are those among
them without a plus sign; so they are all that is read, unless a text with a plus sign is. -/
theorem read_iff_written_or_signed (text : String) :
    (∀ m, ofString? text = some m ↔ WrittenOrSigned text m) ∧
    (∀ m, Written text m ↔ ofString? text = some m ∧ '+' ∉ text.toList) ∧
    ((∀ m, ofString? text = some m ↔ Written text m) ↔
      '+' ∉ text.toList ∨ ofString? text = none) := by
  refine ⟨fun m => ofString?_eq_some_iff, fun m => written_iff, ?_, ?_⟩
  · intro only_written
    cases read : ofString? text with
    | none => exact .inr rfl
    | some m => exact .inl (written_iff.1 ((only_written m).1 read)).2
  · rintro (unsigned | refused) m
    · rw [written_iff]
      exact ⟨fun read => ⟨read, unsigned⟩, And.left⟩
    · simp [written_iff, refused]

/-- A plus sign and a digit are read in the place of two digits. -/
theorem sign_takes_the_place_of_a_digit :
    ofString? "00:11:22:33:44:+f" = some ⟨0x00, 0x11, 0x22, 0x33, 0x44, 0x0f⟩ ∧
      ¬ ∃ m, Written "00:11:22:33:44:+f" m := by
  refine ⟨by decide +kernel, ?_⟩
  rintro ⟨m, written⟩
  exact absurd (written_iff.1 written).2 (by decide +kernel)

theorem ofString?_toString (m : Mac) : ofString? m.toString = some m := by
  rw [ofString?, toString, String.toList_ofList, ofList?_toList]

/-! ### Respelling -/

/-- A text in upper case. -/
def upperCase (text : String) : String := String.ofList (text.toList.map Char.toUpper)

/-- A text with dashes for colons. -/
def dashed (text : String) : String :=
  String.ofList (text.toList.map fun c => if c = ':' then '-' else c)

theorem octet?_map_toUpper (group : List Char) :
    octet? (group.map Char.toUpper) = octet? group := by
  rw [octet?, octet?, Text.byteLength_map_toUpper, Text.withoutPlus_map_toUpper,
    Text.numeral?_map Text.hexValue?_toUpper]

theorem isSeparator_toUpper (c : Char) : isSeparator c.toUpper = isSeparator c := by
  rcases Text.toUpper_cases c with same | ⟨k, rfl⟩
  · rw [same]
  · revert k
    decide +kernel

/-- **Upper case keeps the address.** -/
theorem ofString?_upperCase (text : String) : ofString? (upperCase text) = ofString? text := by
  rw [ofString?, upperCase, String.toList_ofList, ofList?, Text.parts_map isSeparator_toUpper,
    List.mapM_map]
  show ((Text.parts isSeparator text.toList).mapM fun g => octet? (g.map Char.toUpper)).bind _ = _
  simp only [octet?_map_toUpper]
  rfl

/-- **Dashes for colons keep the address.** -/
theorem ofString?_dashed (text : String) : ofString? (dashed text) = ofString? text := by
  have respects : ∀ c, isSeparator (if c = ':' then '-' else c) = isSeparator c := by
    intro c
    split
    next colon => subst colon; rfl
    next => rfl
  -- no part holds a colon that could become a dash
  have kept : ∀ g ∈ Text.parts isSeparator text.toList,
      g.map (fun c => if c = ':' then '-' else c) = g := by
    intro g hg
    have colons : ∀ c ∈ g, (if c = ':' then '-' else c) = c := by
      intro c hc
      have clean := Text.not_sep_of_mem_parts g hg c hc
      rw [if_neg]
      rintro rfl
      cases clean
    rw [List.map_congr_left colons, List.map_id']
  rw [ofString?, dashed, String.toList_ofList, ofList?, Text.parts_map respects,
    List.map_congr_left kept, List.map_id']
  rfl

end PacketPriority.Mac
