import PacketPriority.Text.Digits
import PacketPriority.Text.Parts
import PacketPriority.Toml.Value

/-!
TOML values that are written without quotes or brackets: booleans, numbers and dates.

A literal is one word, with two exceptions that the reader puts together beforehand: points may
stand in it, and blanks may part its words, as one space parts a date from a time of day.
-/

namespace PacketPriority.Toml

/-! ### Digits -/

/-- The digits of a decimal numeral in which single underscores may part digits. -/
def digitRun? (cs : List Char) : Option (List Nat) :=
  let parts := (Text.parts (· = '_') cs).mapM fun (part : List Char) =>
    if part.isEmpty then none else part.mapM Text.decimalValue?
  parts.map List.flatten

/-- The number that digits in a base write. -/
def ofDigits (base : Nat) (digits : List Nat) : Nat :=
  digits.foldl (fun value d => base * value + d) 0

/-- Digits that do not start with a zero, unless that is all of them. -/
def plainDigits? (cs : List Char) : Option (List Nat) :=
  match digitRun? cs with
  | some (0 :: _ :: _) => none
  | other => other

/-- A sign, if there is one, and what follows it. -/
def splitSign : List Char → Bool × List Char
  | '-' :: cs => (true, cs)
  | '+' :: cs => (false, cs)
  | cs => (false, cs)

/-! ### Integers -/

/-- Whether each underscore has a digit of some base on either side. -/
def underscoresPartDigits (cs : List Char) : Bool :=
  let parts := Text.parts (· = '_') cs
  (parts.zip parts.tail).all fun (before, behind) =>
    (before.getLast?.bind Text.hexValue?).isSome && (behind.head?.bind Text.hexValue?).isSome

/-- The value of a digit in a base of at most sixteen. -/
def digitIn? (base : Nat) (c : Char) : Option Nat := (Text.hexValue? c).filter (· < base)

/-- An integer as it is written: base, sign, and digits without underscores. The digits need not be
digits of the base, and there may be none. -/
structure IntegerLiteral where
  base : Nat
  negative : Bool
  digits : List Char

namespace IntegerLiteral

/-- Whether a text is formed like a decimal integer: a lone zero, or anything behind a digit other
than zero where only digits, underscores and what follows an underscore may stand. A point or an
`e` makes it another kind of number. -/
def isDecimal (cs : List Char) : Bool :=
  let isDigit (c : Char) : Bool := '0' ≤ c && c ≤ '9'
  match cs with
  | ['0'] => true
  | c :: _ =>
    isDigit c && c ≠ '0'
      && (match cs.dropWhile isDigit with
        | [] => true
        | d :: rest => d = '_' && rest.all fun c => c ≠ ' ' && c ≠ '.' && c ≠ 'e' && c ≠ 'E')
      && underscoresPartDigits cs
  | [] => false

/-- The integer literal behind the mark of a base. All its characters are digits of the base or
underscores, if there are any. -/
def behindMark? (base : Nat) (cs : List Char) : Option IntegerLiteral :=
  if cs.all (fun c => c = '_' || (digitIn? base c).isSome) && underscoresPartDigits cs then
    some ⟨base, false, cs.filter (· ≠ '_')⟩
  else none

/-- The integer literal that a text is: decimal with an optional sign, or in another base behind
its mark. -/
def ofChars? : List Char → Option IntegerLiteral
  | '0' :: 'x' :: cs => behindMark? 16 cs
  | '0' :: 'o' :: cs => behindMark? 8 cs
  | '0' :: 'b' :: cs => behindMark? 2 cs
  | cs =>
    let (negative, cs) := splitSign cs
    if isDecimal cs then some ⟨10, negative, cs.filter (· ≠ '_')⟩ else none

/-- Whether an integer fits into 128 bits, signed or unsigned. -/
def fitsWidest (n : Int) : Bool :=
  if n < 0 then n.natAbs ≤ Nat.pow 2 127 else n.natAbs < Nat.pow 2 128

/-- The value of an integer literal. There is none if a digit is not one of the base, if there are
no digits, or if no integer type is wide enough. -/
def value? (l : IntegerLiteral) : Option Int :=
  let value := (Text.numeral? l.base (digitIn? l.base) l.digits).map fun n =>
    if l.negative then -(n : Int) else (n : Int)
  value.filter fitsWidest

end IntegerLiteral

/-! ### Floating-point numbers -/

/-- A decimal fraction: its digits, and the power of ten that they count. -/
structure Decimal where
  digits : List Nat
  exponent : Int

/-- The part behind the exponent mark. -/
def exponent? (cs : List Char) : Option Int :=
  let (negative, cs) := splitSign cs
  (digitRun? cs).map fun ds =>
    if negative then -(ofDigits 10 ds : Int) else (ofDigits 10 ds : Int)

/-- A number with a fraction, an exponent or both. -/
def decimal? (cs : List Char) : Option Decimal :=
  let (_, cs) := splitSign cs
  let whole := cs.takeWhile fun c => c ≠ '.' ∧ c ≠ 'e' ∧ c ≠ 'E'
  match plainDigits? whole, cs.drop whole.length with
  | some ds, '.' :: rest =>
    let fraction := rest.takeWhile fun c => c ≠ 'e' ∧ c ≠ 'E'
    match digitRun? fraction, rest.drop fraction.length with
    | some fs, [] => some ⟨ds ++ fs, -(fs.length : Int)⟩
    | some fs, _ :: cs => (exponent? cs).map fun e => ⟨ds ++ fs, e - fs.length⟩
    | none, _ => none
  | some ds, _ :: rest => (exponent? rest).map fun e => ⟨ds, e⟩
  | _, _ => none

/-- Whether a decimal fraction rounds to a finite number of 64 bits. -/
def Decimal.isFinite (d : Decimal) : Bool :=
  let digits := d.digits.dropWhile (· == 0)
  let magnitude : Int := digits.length + d.exponent
  if digits.isEmpty || magnitude < 300 then true
  else if 320 < magnitude then false
  else
    let limit := Nat.pow 2 1024 - Nat.pow 2 970
    let scale := Nat.pow 10 d.exponent.natAbs
    if d.exponent < 0 then decide (ofDigits 10 digits < limit * scale)
    else decide (ofDigits 10 digits * scale < limit)

/-- The floating-point literals that are words. -/
def isSpecialFloat (cs : List Char) : Bool :=
  let (_, cs) := splitSign cs
  cs == ['i', 'n', 'f'] || cs == ['n', 'a', 'n']

/-! ### Dates and times -/

/-- Two decimal digits at the head of a text. -/
def twoDigits? : List Char → Option (Nat × List Char)
  | a :: b :: cs => do return (10 * (← Text.decimalValue? a) + (← Text.decimalValue? b), cs)
  | _ => none

def isLeapYear (year : Nat) : Bool := year % 4 == 0 && (year % 100 != 0 || year % 400 == 0)

/-- The number of days of a month. -/
def monthLength (year month : Nat) : Nat :=
  if month = 2 then if isLeapYear year then 29 else 28
  else if month = 4 ∨ month = 6 ∨ month = 9 ∨ month = 11 then 30
  else 31

/-- What follows a day at the head of a text. -/
def afterDay? (cs : List Char) : Option (List Char) := do
  let (century, cs) ← twoDigits? cs
  let (inCentury, cs) ← twoDigits? cs
  let (month, cs) ← match cs with
    | '-' :: cs => twoDigits? cs
    | _ => none
  let (day, cs) ← match cs with
    | '-' :: cs => twoDigits? cs
    | _ => none
  let year := 100 * century + inCentury
  if 1 ≤ month ∧ month ≤ 12 ∧ 1 ≤ day ∧ day ≤ monthLength year month then some cs else none

/-- What follows a fraction of a second at the head of a text. -/
def afterFraction? (cs : List Char) : Option (List Char) :=
  match cs with
  | '.' :: cs =>
    let digits := cs.takeWhile fun c => '0' ≤ c ∧ c ≤ '9'
    if digits.isEmpty then none else some (cs.drop digits.length)
  | cs => some cs

/-- What follows a time of day at the head of a text; the seconds may be left out. -/
def afterTime? (cs : List Char) : Option (List Char) := do
  let (hour, cs) ← twoDigits? cs
  let (minute, cs) ← match cs with
    | ':' :: cs => twoDigits? cs
    | _ => none
  let (second, cs) ← match cs with
    | ':' :: cs => do
      let (second, cs) ← twoDigits? cs
      pure (second, ← afterFraction? cs)
    | cs => pure (0, cs)
  if hour ≤ 23 ∧ minute ≤ 59 ∧ second ≤ 60 then some cs else none

/-- Whether a text is an offset from universal time, or empty. -/
def isOffset : List Char → Bool
  | [] => true
  | ['Z'] | ['z'] => true
  | sign :: cs =>
    if sign = '+' ∨ sign = '-' then
      match twoDigits? cs with
      | some (hour, ':' :: cs) =>
        match twoDigits? cs with
        | some (minute, []) => decide (hour ≤ 23 ∧ minute ≤ 59)
        | _ => false
      | _ => false
    else false

/-- Whether a text is a day, a time of day, or both with an optional offset. -/
def isDate (cs : List Char) : Bool :=
  match afterDay? cs with
  | some [] => true
  | some (separator :: cs) =>
    if separator = 'T' ∨ separator = 't' ∨ separator = ' ' then
      match afterTime? cs with
      | some cs => isOffset cs
      | none => false
    else false
  | none => afterTime? cs == some []

/-- Whether a text is to be read as a date: a dash or a colon follows its first digits. -/
def looksLikeDate (cs : List Char) : Bool :=
  match cs.dropWhile fun c => '0' ≤ c ∧ c ≤ '9' with
  | '-' :: _ | ':' :: _ => cs.head?.any fun c => '0' ≤ c ∧ c ≤ '9'
  | _ => false

/-! ### Literals -/

/-- The value of a literal. Only the form of a number is checked here: one without a value is left
to whoever reads it. -/
def scalar (cs : List Char) : Except Error Value :=
  let literal := String.ofList cs
  if literal = "true" then .ok (.boolean true)
  else if literal = "false" then .ok (.boolean false)
  else if isSpecialFloat cs then .ok (.float literal)
  else if looksLikeDate cs then
    if isDate cs then .ok (.date literal) else .error (.badScalar literal)
  else
    match IntegerLiteral.ofChars? cs with
    | some l => .ok (l.value?.elim (.unreadable literal) .integer)
    | none =>
      match decimal? cs with
      | some d => .ok (if d.isFinite then .float literal else .unreadable literal)
      | none => .error (.badScalar literal)

end PacketPriority.Toml
