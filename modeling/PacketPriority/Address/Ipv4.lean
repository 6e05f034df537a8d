import PacketPriority.Text.Digits
import PacketPriority.Text.Parts

/-!
IPv4 addresses and masks.

An address is written as a dotted quad. Reading takes exactly what writing gives: four decimal
octets without leading zeros, and nothing else.
-/

namespace PacketPriority

/-- An IPv4 address: its four octets in the order in which they are written. -/
structure Ipv4 where
  a : UInt8 := 0
  b : UInt8 := 0
  c : UInt8 := 0
  d : UInt8 := 0
deriving DecidableEq, Repr, Inhabited

namespace Ipv4

def octets (x : Ipv4) : List UInt8 := [x.a, x.b, x.c, x.d]

/-- The address whose bits are all set. -/
def allOnes : Ipv4 := ⟨255, 255, 255, 255⟩

/-! ### Masks -/

/-- The bits of an address that a mask selects. -/
def mask (x m : Ipv4) : Ipv4 := ⟨x.a &&& m.a, x.b &&& m.b, x.c &&& m.c, x.d &&& m.d⟩

theorem mask_mask (x m : Ipv4) : (x.mask m).mask m = x.mask m := by
  simp [mask, UInt8.and_assoc]

theorem mask_allOnes (x : Ipv4) : x.mask allOnes = x := by
  have h : ∀ w : UInt8, w &&& 255 = w := fun w => UInt8.and_neg_one
  simp [mask, allOnes, h]

/-! ### Text -/

/-- An octet as a decimal numeral. -/
def octetText (b : UInt8) : List Char := Nat.toDigits 10 b.toNat

def toList (x : Ipv4) : List Char := Text.joined ['.'] (x.octets.map octetText)

def toString (x : Ipv4) : String := String.ofList x.toList

/-- The octet that one part of a quad stands for: at most three digits, no leading zero. -/
def octet? : List Char → Option UInt8
  | '0' :: _ :: _ => none
  | cs => if cs.length ≤ 3 then (Text.numeral? 10 Text.decimalValue? cs).bind Word.ofNat? else none

/-- Four octets in a row as an address. -/
def ofOctets? : List UInt8 → Option Ipv4
  | [a, b, c, d] => some ⟨a, b, c, d⟩
  | _ => none

def ofList? (cs : List Char) : Option Ipv4 :=
  ((Text.parts (· = '.') cs).mapM octet?).bind ofOctets?

/-- The address that a text writes, if it writes one. -/
def ofString? (s : String) : Option Ipv4 := ofList? s.toList

/-! ### Reading back what is written -/

theorem octet?_octetText : ∀ b : UInt8, octet? (octetText b) = some b := by
  have all : ∀ k : Fin 256, octet? (octetText (UInt8.ofNat k)) = some (UInt8.ofNat k) := by
    decide +kernel
  intro b
  have := all ⟨b.toNat, b.toNat_lt⟩
  simpa using this

theorem dot_notMem_octetText : ∀ b : UInt8, ∀ c ∈ octetText b, (c = '.' : Bool) = false := by
  have all : ∀ k : Fin 256,
      (octetText (UInt8.ofNat k)).all (fun c => !(c = '.' : Bool)) = true := by
    decide +kernel
  intro b
  have := all ⟨b.toNat, b.toNat_lt⟩
  simpa using this

theorem parts_toList (x : Ipv4) :
    Text.parts (· = '.') x.toList = x.octets.map octetText := by
  have sep : (('.' : Char) = '.' : Bool) = true := rfl
  have clean := dot_notMem_octetText
  simp only [toList, octets, List.map_cons, List.map_nil, Text.joined, List.append_assoc,
    List.singleton_append]
  rw [Text.parts_append sep _ (clean x.a), Text.parts_append sep _ (clean x.b),
    Text.parts_append sep _ (clean x.c), Text.parts_of_none (clean x.d)]

theorem ofList?_toList (x : Ipv4) : ofList? x.toList = some x := by
  simp [ofList?, parts_toList, octets, octet?_octetText, ofOctets?]

end Ipv4

end PacketPriority
