/-!
Writing strings in TOML.

A string has up to four written forms: between quotation marks with escapes, or between apostrophes
as it is, each on one line or as a block. `quoted` takes the plainest form that needs no escape,
and escapes only where every form would need one.
-/

namespace PacketPriority.Toml

/-! ### What a string holds -/

/-- Whether a character can only be written as an escape: the control characters but tab and line
feed. -/
def isControl (c : Char) : Bool := (c.toNat < 32 && c ≠ '\t' && c ≠ '\n') || c.toNat = 127

/-- Whether a character occurs more than `most` times in a row; `run` are behind already. -/
def exceedsRun (q : Char) (most : Nat) : Nat → List Char → Bool
  | _, [] => false
  | run, c :: cs =>
    if c = q then (most ≤ run || exceedsRun q most (run + 1) cs) else exceedsRun q most 0 cs

/-! ### Escapes -/

def upperHexDigit (n : Nat) : Char :=
  if n < 10 then Char.ofNat (48 + n) else Char.ofNat (55 + n)

/-- A character between quotation marks, quotation marks apart. Line feeds stay in a block. -/
def escapeChar (block : Bool) (c : Char) : List Char :=
  if c = '\\' then ['\\', '\\']
  else if c = '\t' then ['\\', 't']
  else if c = '\n' then (if block then [c] else ['\\', 'n'])
  else if c = '\r' then ['\\', 'r']
  else if c.toNat = 8 then ['\\', 'b']
  else if c.toNat = 12 then ['\\', 'f']
  else if isControl c then
    ['\\', 'u', '0', '0', upperHexDigit (c.toNat / 16), upperHexDigit (c.toNat % 16)]
  else [c]

/-- A text between quotation marks. In a block two quotation marks in a row need no escape, on a
line none goes without; `run` are behind already. -/
def escape (block : Bool) : Nat → List Char → List Char
  | _, [] => []
  | run, c :: cs =>
    if c = '"' then
      if run < (if block then 2 else 0) then c :: escape block (run + 1) cs
      else '\\' :: c :: escape block 0 cs
    else escapeChar block c ++ escape block 0 cs

/-! ### Written forms -/

/-- A text between three quotes of a kind. A first line break does not count and is written only
before a text of several lines. -/
def blockOf (q : Char) (several : Bool) (text : List Char) : List Char :=
  [q, q, q] ++ (if several then ['\n'] else []) ++ text ++ [q, q, q]

/-- The written form of a text. -/
def quotedList (cs : List Char) : List Char :=
  let control := cs.any isControl
  let backslash := cs.contains '\\'
  let several := cs.contains '\n'
  if !control && !backslash && !cs.contains '"' && !several then
    '"' :: escape false 0 cs ++ ['"']
  else if !control && !cs.contains '\'' && !several then '\'' :: cs ++ ['\'']
  else if !control && !backslash && !exceedsRun '"' 2 0 cs then
    blockOf '"' several (escape true 0 cs)
  else if !control && !exceedsRun '\'' 2 0 cs then blockOf '\'' several cs
  else if several then blockOf '"' several (escape true 0 cs)
  else '"' :: escape false 0 cs ++ ['"']

/-- The written form of a string. -/
def quoted (s : String) : String := String.ofList (quotedList s.toList)

end PacketPriority.Toml
