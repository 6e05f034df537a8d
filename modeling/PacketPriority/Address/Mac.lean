import PacketPriority.Text.Digits
import PacketPriority.Text.Parts

/-!
48-bit hardware addresses.

An address is written as six octets of two lower-case digits with colons between them. Reading is
wider than writing: colons and dashes separate, in any mixture, digits have either case, and an
octet may be a plus sign with a single digit.
-/

namespace PacketPriority

/-- A hardware address: its six octets in the order in which they are written. -/
structure Mac where
  o0 : UInt8 := 0
  o1 : UInt8 := 0
  o2 : UInt8 := 0
  o3 : UInt8 := 0
  o4 : UInt8 := 0
  o5 : UInt8 := 0
deriving DecidableEq, Repr, Inhabited

namespace Mac

def octets (m : Mac) : List UInt8 := [m.o0, m.o1, m.o2, m.o3, m.o4, m.o5]

/-! ### Text -/

def toList (m : Mac) : List Char := Text.joined [':'] (m.octets.map Text.octetDigits)

def toString (m : Mac) : String := String.ofList m.toList

/-- Colons and dashes stand between octets. -/
def isSeparator (c : Char) : Bool := c = ':' || c = '-'

/-- The octet that one group of a written address stands for: a numeral in base sixteen that takes
two bytes, a plus sign in front counted in. -/
def octet? (cs : List Char) : Option UInt8 :=
  if Text.byteLength cs = 2 then
    (Text.numeral? 16 Text.hexValue? (Text.withoutPlus cs)).bind Word.ofNat?
  else none

/-- Six octets in a row as an address. -/
def ofOctets? : List UInt8 → Option Mac
  | [o0, o1, o2, o3, o4, o5] => some ⟨o0, o1, o2, o3, o4, o5⟩
  | _ => none

def ofList? (cs : List Char) : Option Mac :=
  ((Text.parts isSeparator cs).mapM octet?).bind ofOctets?

/-- The address that a text writes, if it writes one. -/
def ofString? (s : String) : Option Mac := ofList? s.toList

/-- What is said of a text that writes no address. -/
def malformed (s : String) : String := "invalid mac address: " ++ s

/-! ### Reading back what is written -/

theorem octet?_octetDigits : ∀ b : UInt8, octet? (Text.octetDigits b) = some b := by
  have all : ∀ k : Fin 256, octet? (Text.octetDigits (UInt8.ofNat k)) = some (UInt8.ofNat k) := by
    decide +kernel
  intro b
  have := all ⟨b.toNat, b.toNat_lt⟩
  simpa using this

theorem isSeparator_octetDigits : ∀ b : UInt8, ∀ c ∈ Text.octetDigits b, isSeparator c = false := by
  have all : ∀ k : Fin 256, (Text.octetDigits (UInt8.ofNat k)).all (!isSeparator ·) = true := by
    decide +kernel
  intro b
  have := all ⟨b.toNat, b.toNat_lt⟩
  simpa using this

theorem parts_toList (m : Mac) :
    Text.parts isSeparator m.toList = m.octets.map Text.octetDigits := by
  have sep : isSeparator ':' = true := rfl
  have clean := isSeparator_octetDigits
  simp only [toList, octets, List.map_cons, List.map_nil, Text.joined, List.append_assoc,
    List.singleton_append]
  rw [Text.parts_append sep _ (clean m.o0), Text.parts_append sep _ (clean m.o1),
    Text.parts_append sep _ (clean m.o2), Text.parts_append sep _ (clean m.o3),
    Text.parts_append sep _ (clean m.o4), Text.parts_of_none (clean m.o5)]

theorem ofList?_toList (m : Mac) : ofList? m.toList = some m := by
  simp [ofList?, parts_toList, octets, octet?_octetDigits, ofOctets?]

end Mac

end PacketPriority
