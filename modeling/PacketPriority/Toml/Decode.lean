import PacketPriority.Word
import PacketPriority.Toml.Value

/-!
Reading typed values out of TOML values.

A record may be given as a table with its fields, in any order, or as an array with its fields in
order, whose further elements are not even read. A date is like a table whose only key names no
field. An enumeration is given by the name of one of its members, or by a table with that name as
its only key and nothing under it.
-/

namespace PacketPriority.Toml

/-- A reading of values. -/
abbrev Decoder (α : Type) := Value → Except Error α

namespace Value

def asString : Decoder String
  | string s => .ok s
  | v => .error (.wrongType "string" v.typeName)

def asBoolean : Decoder Bool
  | boolean b => .ok b
  | v => .error (.wrongType "boolean" v.typeName)

/-- An integer within a word's range. -/
def asWord {α : Type} [Word α] : Decoder α
  | integer n =>
    match Word.ofInt? n with
    | some w => .ok w
    | none => .error (.outOfRange n)
  | unreadable literal => .error (.noValue literal)
  | v => .error (.wrongType "integer" v.typeName)

/-- A string that a reader of texts accepts. -/
def asText {α : Type} (read : String → Option α) : Decoder α
  | string s =>
    match read s with
    | some a => .ok a
    | none => .error (.badText s)
  | v => .error (.wrongType "string" v.typeName)

def asList {α : Type} (element : Decoder α) : Decoder (List α)
  | array items => items.mapM element
  | v => .error (.wrongType "array" v.typeName)

/-- Whether nothing stands under the name of an enumeration's member. -/
def isVoid : Value → Bool
  | array items => items.isEmpty
  | table entries => entries.isEmpty
  | _ => false

/-- A member of an enumeration. -/
def asMember {α : Type} (read : String → Option α) : Decoder α
  | table [(name, v)] =>
    if v.isVoid then asText read (string name) else .error (.wrongType "nothing" v.typeName)
  | v => asText read v

mutual

/-- Whether every number in a value has a value. -/
def isReadable : Value → Bool
  | unreadable _ => false
  | array items => allReadable items
  | table entries => allReadableUnder entries
  | _ => true

/-- Whether every number in the elements of an array has a value. -/
def allReadable : List Value → Bool
  | [] => true
  | v :: rest => v.isReadable && allReadable rest

/-- Whether every number under the keys of a table has a value. -/
def allReadableUnder : List (String × Value) → Bool
  | [] => true
  | (_, v) :: rest => v.isReadable && allReadableUnder rest

end

end Value

/-! ### Records -/

/-- How a record may be written. -/
structure Shape where
  /-- The names of the fields, in order. -/
  names : List String
  /-- Whether a table may have other keys, which are then read and forgotten. -/
  open_ : Bool
  /-- Whether an array may leave out the last fields. -/
  short : Bool

/-- The fields of a record. -/
abbrev Fields := String → Option Value

/-- Reads an entry of a table that is given for a record, as far as it names no field. -/
def Shape.pass (shape : Shape) (entry : String × Value) : Except Error Unit :=
  if shape.names.contains entry.1 then .ok ()
  else if !shape.open_ then .error (.unknownField entry.1)
  else if entry.2.isReadable then .ok ()
  else .error (.noValue entry.1)

/-- The fields that a value gives to a record. -/
def Shape.fields (shape : Shape) : Decoder Fields
  | .table entries => (entries.forM shape.pass).map fun _ name => entries.lookup name
  | .array items =>
    if shape.short = true ∨ shape.names.length ≤ items.length then
      .ok fun name => (shape.names.zip items).lookup name
    else .error (.wrongLength items.length)
  | .date literal => if shape.open_ then .ok fun _ => none else .error (.unknownField literal)
  | v => .error (.wrongType "table" v.typeName)

namespace Fields

/-- A field that has to be given. -/
def need {α : Type} (fields : Fields) (name : String) (d : Decoder α) : Except Error α :=
  match fields name with
  | some v => d v
  | none => .error (.missingField name)

/-- A field with the value it has when it is not given. -/
def getD {α : Type} (fields : Fields) (name : String) (d : Decoder α) (default : α) :
    Except Error α :=
  match fields name with
  | some v => d v
  | none => .ok default

/-- A field that need not be given. -/
def get? {α : Type} (fields : Fields) (name : String) (d : Decoder α) :
    Except Error (Option α) :=
  match fields name with
  | some v => (d v).map some
  | none => .ok none

end Fields

end PacketPriority.Toml
