/-!
JSON values and their text.

Objects keep their members in the order in which they are given. Numbers are integers; a number
with a fraction or an exponent keeps its literal and is no integer, whatever its value. `render`
writes a value over several lines with an indent of two blanks.
-/

namespace PacketPriority

inductive Json where
  | null
  | bool (b : Bool)
  | number (n : Int)
  | decimal (literal : String)
  | string (s : String)
  | array (items : List Json)
  | object (members : List (String × Json))
deriving Repr, Inhabited

namespace Json

/-- A natural number as a JSON number. -/
def nat (n : Nat) : Json := .number n

def strings (l : List String) : Json := .array (l.map .string)

/-- The string of a value that may be missing. -/
def optional {α : Type} (f : α → Json) : Option α → Json
  | none => .null
  | some a => f a

/-! ### Text -/

/-- One character inside a quoted string. Quotes, backslashes and control characters are
escaped. -/
def escapeChar (c : Char) : List Char :=
  if c = '"' then ['\\', '"']
  else if c = '\\' then ['\\', '\\']
  else if c = '\n' then ['\\', 'n']
  else if c = '\r' then ['\\', 'r']
  else if c = '\t' then ['\\', 't']
  else if c.toNat = 8 then ['\\', 'b']
  else if c.toNat = 12 then ['\\', 'f']
  else if c.toNat < 32 then
    let hex := Nat.toDigits 16 c.toNat
    ['\\', 'u'] ++ List.replicate (4 - hex.length) '0' ++ hex
  else [c]

def quote (s : String) : String :=
  "\"" ++ String.ofList (s.toList.flatMap escapeChar) ++ "\""

/-- A line break followed by the indent of a depth. -/
def lineBreak (depth : Nat) : String :=
  "\n" ++ String.ofList (List.replicate (2 * depth) ' ')

/-- The parts of an array or an object between its brackets, one on a line. -/
def block (left right : String) (depth : Nat) : List String → String
  | [] => left ++ right
  | parts =>
    left ++ lineBreak (depth + 1) ++ String.intercalate ("," ++ lineBreak (depth + 1)) parts
      ++ lineBreak depth ++ right

mutual

/-- The text of a value whose first line stands at the given depth. -/
def renderAt (depth : Nat) : Json → String
  | .null => "null"
  | .bool b => if b then "true" else "false"
  | .number n => toString n
  | .decimal literal => literal
  | .string s => quote s
  | .array items => block "[" "]" depth (renderItems (depth + 1) items)
  | .object members => block "\x7b" "\x7d" depth (renderMembers (depth + 1) members)

def renderItems (depth : Nat) : List Json → List String
  | [] => []
  | v :: rest => renderAt depth v :: renderItems depth rest

def renderMembers (depth : Nat) : List (String × Json) → List String
  | [] => []
  | (name, v) :: rest => (quote name ++ ": " ++ renderAt depth v) :: renderMembers depth rest

end

/-- The text of a value, over several lines. -/
def render (v : Json) : String := renderAt 0 v

end Json

end PacketPriority
