import PacketPriority.Word

/-!
Digits and numerals.

Characters are read as digits in base ten and sixteen, ASCII only, and words are written back in
the fixed-width hexadecimal forms that addresses and flag words use.
-/
namespace PacketPriority.Text

/-! ### Single digits -/

/-- The value of a decimal digit. -/
def decimalValue? (c : Char) : Option Nat :=
  if '0' ≤ c ∧ c ≤ '9' then some (c.toNat - 48) else none

/-- The value of a hexadecimal digit, in either case. -/
def hexValue? (c : Char) : Option Nat :=
  if '0' ≤ c ∧ c ≤ '9' then some (c.toNat - 48)
  else if 'a' ≤ c ∧ c ≤ 'f' then some (c.toNat - 87)
  else if 'A' ≤ c ∧ c ≤ 'F' then some (c.toNat - 55)
  else none

/-- The digit for a value below sixteen, in lower case. -/
def hexDigit (n : Nat) : Char :=
  if n < 10 then Char.ofNat (48 + n) else Char.ofNat (87 + n)

/-! ### Numerals -/

/-- The value of a numeral in the given base, whose digits are read by `digit?`. An empty text is
no numeral. -/
def numeral? (base : Nat) (digit? : Char → Option Nat) : List Char → Option Nat
  | [] => none
  | c :: cs => (c :: cs).foldlM (fun value c => (digit? c).map (base * value + ·)) 0

/-- The bytes that a text takes in UTF-8. -/
def byteLength : List Char → Nat
  | [] => 0
  | c :: cs => c.utf8Size + byteLength cs

/-- A numeral without the plus sign that may stand in front of it. -/
def withoutPlus : List Char → List Char
  | '+' :: cs => cs
  | cs => cs

/-- An unsigned decimal numeral: digits, after at most one plus sign. -/
def unsigned? : List Char → Option Nat
  | '+' :: cs => numeral? 10 decimalValue? cs
  | cs => numeral? 10 decimalValue? cs

/-- A word written as an unsigned decimal numeral, within the word's range. -/
def word? {α : Type} [Word α] (cs : List Char) : Option α :=
  (unsigned? cs).bind Word.ofNat?

/-! ### Hexadecimal forms -/

/-- The hexadecimal digits of a number, in lower case and without leading zeros. -/
def hexDigits (n : Nat) : List Char := Nat.toDigits 16 n

/-- An octet as two digits. -/
def octetDigits (b : UInt8) : List Char :=
  [hexDigit (b.toNat / 16), hexDigit (b.toNat % 16)]

/-- A text filled up on the left with zeros. -/
def zeroPadded (width : Nat) (cs : List Char) : List Char :=
  List.replicate (width - cs.length) '0' ++ cs

/-- A text filled up on the right with blanks. -/
def blankPadded (width : Nat) (s : String) : String :=
  s ++ String.ofList (List.replicate (width - s.length) ' ')

/-- A number behind the hexadecimal mark. -/
def hexText (n : Nat) : String := "0x" ++ String.ofList (hexDigits n)

/-- A number behind the hexadecimal mark, with at least `width` digits. -/
def hexTextPadded (width n : Nat) : String :=
  "0x" ++ String.ofList (zeroPadded width (hexDigits n))

end PacketPriority.Text
