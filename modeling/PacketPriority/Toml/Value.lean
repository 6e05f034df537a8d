/-!
TOML values, and what can be wrong with a TOML text.

Dates and floating-point numbers keep their literals: no setting and no rule field has a place for
them, so all that counts is that they are well formed. A literal may be formed like a number and
have no value, as `0x` or `1e999`; a document may hold it as long as nothing reads it.
-/

namespace PacketPriority.Toml

inductive Value where
  | string (s : String)
  | integer (n : Int)
  | float (literal : String)
  /-- A literal that is formed like a number and has no value. -/
  | unreadable (literal : String)
  | boolean (b : Bool)
  | date (literal : String)
  | array (items : List Value)
  | table (entries : List (String × Value))
deriving Repr, Inhabited

/-- The name of a value's type. -/
def Value.typeName : Value → String
  | string _ => "string"
  | integer _ => "integer"
  | float _ => "float"
  | unreadable _ => "number"
  | boolean _ => "boolean"
  | date _ => "datetime"
  | array _ => "array"
  | table _ => "table"

/-- What is wrong with a text, or with the values in it. -/
inductive Error where
  /-- A character that cannot stand where it stands. -/
  | strayCharacter (c : Char)
  /-- A carriage return that no line feed follows. -/
  | bareCarriageReturn
  | badEscape
  /-- A string that is still open at the end of the text. -/
  | unclosedString
  /-- Something that cannot stand where it stands; `expected` says what could. -/
  | unexpected (expected : String)
  | badKey (key : String)
  | badScalar (literal : String)
  | tooDeep
  | duplicateKey (key : String)
  /-- A key that should lead to a table and leads to something else. -/
  | notATable (key : String)
  | wrongType (expected actual : String)
  /-- Something that is or holds a number without a value. -/
  | noValue (text : String)
  | outOfRange (n : Int)
  /-- A string that is not of the form that its place asks for. -/
  | badText (text : String)
  | unknownField (name : String)
  | missingField (name : String)
  | wrongLength (actual : Nat)
deriving DecidableEq, Repr

def Error.message : Error → String
  | strayCharacter c => s!"stray character U+{String.ofList (Nat.toDigits 16 c.toNat)}"
  | bareCarriageReturn => "carriage return without line feed"
  | badEscape => "bad escape in a string"
  | unclosedString => "unclosed string"
  | unexpected expected => "expected " ++ expected
  | badKey key => "bad key " ++ key
  | badScalar literal => "bad value " ++ literal
  | tooDeep => "nesting too deep"
  | duplicateKey key => "duplicate key " ++ key
  | notATable key => "not a table: " ++ key
  | wrongType expected actual => "expected " ++ expected ++ ", found " ++ actual
  | noValue text => "number without a value: " ++ text
  | outOfRange n => s!"number out of range: {n}"
  | badText text => "bad text " ++ text
  | unknownField name => "unknown field " ++ name
  | missingField name => "missing field " ++ name
  | wrongLength actual => s!"wrong number of elements: {actual}"

end PacketPriority.Toml
