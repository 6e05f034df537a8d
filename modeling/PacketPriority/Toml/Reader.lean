import PacketPriority.Toml.Document
import PacketPriority.Toml.Scalar
import PacketPriority.Toml.Token

/-!
Reading TOML documents, version 1.1.

The reader takes the tokens of a text one at a time. Its state says what is expected next, which
arrays and inline tables are open, and what the document is so far; arrays and inline tables may be
nested `maxDepth` deep. Lines may end anywhere between the tokens of an array or an inline table,
except inside a dotted key. A text is read in one pass from left to right and every step is a total
function of the state, so reading ends with the text.
-/

namespace PacketPriority.Toml

/-- How deep arrays and inline tables may be nested, and how many parts a key may have. -/
def maxDepth : Nat := 80

/-- What a key is written for. -/
inductive KeyRole where
  /-- A line of the form `key = value`. -/
  | statement
  /-- A field of an inline table. -/
  | field
  /-- A header in brackets. -/
  | header
  /-- A header in double brackets. -/
  | elementHeader
deriving DecidableEq, Repr

/-- What is expected next. The parts of keys are kept backwards. -/
inductive Expect where
  /-- The first token of a line. -/
  | line
  /-- What follows the first bracket of a line. -/
  | header
  | keyPart (role : KeyRole) (parts : List String)
  /-- What follows a part of a key. -/
  | keyEnd (role : KeyRole) (parts : List String)
  /-- The equals sign of a field, on a line behind that of its key. -/
  | equals (parts : List String)
  /-- The second closing bracket of a header. -/
  | headerEnd (parts : List String)
  | lineEnd
  | value
  /-- More of a value without quotes. -/
  | scalar (text : List Char)
  /-- A word of a value without quotes, or what follows the value and the blanks behind it. -/
  | scalarBlank (text blanks : List Char)
  /-- An element of an array, or its end. -/
  | item
  | itemEnd
  /-- A field of an inline table, or its end. -/
  | field
  | fieldEnd
deriving Repr

/-- An array or inline table that is still open. -/
inductive Frame where
  /-- The elements so far, the latest first. -/
  | array (items : List Value)
  /-- The fields so far, and the key whose value is being read. -/
  | table (entries : Entries) (key : List String)

structure Reader where
  mode : Mode
  expect : Expect
  /-- What is open, the innermost first. -/
  frames : List Frame
  /-- The key of the line whose value is being read. -/
  key : List String
  /-- The header above the line. -/
  scope : List String
  root : Entries

namespace Reader

def start : Reader :=
  { mode := .between, expect := .line, frames := [], key := [], scope := [], root := [] }

/-! ### Keys -/

def isBareKeyChar (c : Char) : Bool :=
  ('a' ≤ c && c ≤ 'z') || ('A' ≤ c && c ≤ 'Z') || ('0' ≤ c && c ≤ '9') || c = '-' || c = '_'

/-- A key without quotes. -/
def bareKey (cs : List Char) : Except Error String :=
  if cs.all isBareKeyChar && !cs.isEmpty then .ok (String.ofList cs)
  else .error (.badKey (String.ofList cs))

/-- The part of a key that a token is. -/
def keyPart? : Token → Option (Except Error String)
  | .word cs => some (bareKey cs)
  | .quoted s => some (.ok s)
  | _ => none

/-- The reader behind a part of a key. -/
def addPart (r : Reader) (role : KeyRole) (parts : List String) (part : Except Error String) :
    Except Error Reader :=
  part.bind fun part =>
    if parts.length < maxDepth then .ok { r with expect := .keyEnd role (part :: parts) }
    else .error .tooDeep

/-- Puts a value into entries under a key. -/
def insertKey (key : List String) (v : Value) (es : Entries) : Except Error Entries :=
  match key.reverse with
  | [] => .error (.badKey "")
  | last :: path => es.insertAt last v path.reverse

/-- The reader behind a header, whose parts come backwards. -/
def openHeader (r : Reader) (parts : List String)
    (f : String → Option Item → Except Error Item) : Except Error Reader :=
  match parts with
  | [] => .error (.badKey "")
  | last :: path =>
    (r.root.openAt last (f last) path.reverse).map fun root =>
      { r with expect := .lineEnd, scope := parts.reverse, root := root }

/-! ### Values -/

/-- The reader behind a value. -/
def complete (r : Reader) (v : Value) : Except Error Reader :=
  match r.frames with
  | [] =>
    (Entries.within (insertKey r.key v) r.scope r.root).map fun root =>
      { r with expect := .lineEnd, root := root }
  | .array items :: frames =>
    .ok { r with expect := .itemEnd, frames := .array (v :: items) :: frames }
  | .table entries key :: frames =>
    (insertKey key v entries).map fun entries =>
      { r with expect := .fieldEnd, frames := .table entries [] :: frames }

/-- The reader with one more array or inline table open. -/
def push (r : Reader) (expect : Expect) (frame : Frame) : Except Error Reader :=
  if r.frames.length < maxDepth then
    .ok { r with expect := expect, frames := frame :: r.frames }
  else .error .tooDeep

/-- The reader behind the end of the innermost array. -/
def closeArray (r : Reader) : Except Error Reader :=
  match r.frames with
  | .array items :: frames => { r with frames := frames }.complete (.array items.reverse)
  | _ => .error (.unexpected "an open array")

/-- The reader behind the end of the innermost inline table. -/
def closeTable (r : Reader) : Except Error Reader :=
  match r.frames with
  | .table entries _ :: frames =>
    { r with frames := frames }.complete (.table (closeEntries entries))
  | _ => .error (.unexpected "an open table")

/-- The first token of a value. -/
def openValue (r : Reader) : Token → Except Error Reader
  | .quoted s | .block s => r.complete (.string s)
  | .word cs => .ok { r with expect := .scalar cs }
  | .leftBracket => r.push .item (.array [])
  | .leftBrace => r.push .field (.table [] [])
  | _ => .error (.unexpected "a value")

/-- The reader behind the last part of a key whose value comes next. -/
def expectValue (r : Reader) (role : KeyRole) (parts : List String) : Except Error Reader :=
  match role, r.frames with
  | .statement, [] => .ok { r with expect := .value, key := parts.reverse }
  | .field, .table entries _ :: frames =>
    .ok { r with expect := .value, frames := .table entries parts.reverse :: frames }
  | _, _ => .error (.unexpected "the end of a header")

/-! ### Tokens -/

/-- A token where no value without quotes is open. -/
def plainStep (r : Reader) (t : Token) : Except Error Reader :=
  match r.expect, t with
  | .line, .newline | .line, .blank _ => .ok r
  | .line, .leftBracket => .ok { r with expect := .header }
  | .line, t =>
    match keyPart? t with
    | some part => r.addPart .statement [] part
    | none => .error (.unexpected "a key or a header")
  | .header, .leftBracket => .ok { r with expect := .keyPart .elementHeader [] }
  | .header, .blank _ => .ok { r with expect := .keyPart .header [] }
  | .header, t =>
    match keyPart? t with
    | some part => r.addPart .header [] part
    | none => .error (.unexpected "a key")
  | .keyPart _ _, .blank _ => .ok r
  | .keyPart role parts, t =>
    match keyPart? t with
    | some part => r.addPart role parts part
    | none => .error (.unexpected "a key")
  | .keyEnd _ _, .blank _ => .ok r
  | .keyEnd role parts, .dot => .ok { r with expect := .keyPart role parts }
  | .keyEnd role parts, .equals => r.expectValue role parts
  | .keyEnd .field parts, .newline => .ok { r with expect := .equals parts }
  | .keyEnd .header parts, .rightBracket => r.openHeader parts Entries.openTable
  | .keyEnd .elementHeader parts, .rightBracket => .ok { r with expect := .headerEnd parts }
  | .keyEnd _ _, _ => .error (.unexpected "the end of a key")
  | .equals _, .blank _ | .equals _, .newline => .ok r
  | .equals parts, .equals => r.expectValue .field parts
  | .equals _, _ => .error (.unexpected "an equals sign")
  | .headerEnd parts, .rightBracket => r.openHeader parts Entries.openElement
  | .headerEnd _, _ => .error (.unexpected "a second bracket")
  | .lineEnd, .blank _ => .ok r
  | .lineEnd, .newline => .ok { r with expect := .line }
  | .lineEnd, _ => .error (.unexpected "the end of the line")
  | .value, .blank _ => .ok r
  | .value, .newline => if r.frames.isEmpty then .error (.unexpected "a value") else .ok r
  | .value, t => r.openValue t
  | .item, .blank _ | .item, .newline => .ok r
  | .item, .rightBracket => r.closeArray
  | .item, t => r.openValue t
  | .itemEnd, .blank _ | .itemEnd, .newline => .ok r
  | .itemEnd, .comma => .ok { r with expect := .item }
  | .itemEnd, .rightBracket => r.closeArray
  | .itemEnd, _ => .error (.unexpected "a comma or the end of the array")
  | .field, .blank _ | .field, .newline => .ok r
  | .field, .rightBrace => r.closeTable
  | .field, t =>
    match keyPart? t with
    | some part => r.addPart .field [] part
    | none => .error (.unexpected "a key or the end of the table")
  | .fieldEnd, .blank _ | .fieldEnd, .newline => .ok r
  | .fieldEnd, .comma => .ok { r with expect := .field }
  | .fieldEnd, .rightBrace => r.closeTable
  | .fieldEnd, _ => .error (.unexpected "a comma or the end of the table")
  | .scalar _, _ | .scalarBlank _ _, _ => .error (.unexpected "a value")

/-- The reader behind a value without quotes. -/
def closeScalar (r : Reader) (text : List Char) : Except Error Reader :=
  (scalar text).bind r.complete

/-- A token. Words and points that follow each other make one value, and so do words that blanks
part. Blanks behind the last word do not belong to the value. -/
def tokenStep (r : Reader) (t : Token) : Except Error Reader :=
  match r.expect, t with
  | .scalar text, .word cs => .ok { r with expect := .scalar (text ++ cs) }
  | .scalar text, .dot => .ok { r with expect := .scalar (text ++ ['.']) }
  | .scalar text, .blank c => .ok { r with expect := .scalarBlank text [c] }
  | .scalarBlank text blanks, .blank c =>
    .ok { r with expect := .scalarBlank text (blanks ++ [c]) }
  | .scalarBlank text blanks, .word cs => .ok { r with expect := .scalar (text ++ blanks ++ cs) }
  | .scalar text, t | .scalarBlank text _, t => (r.closeScalar text).bind (·.plainStep t)
  | _, t => r.plainStep t

/-- A character. -/
def step (r : Reader) (c : Char) : Except Error Reader :=
  match r.mode.step c with
  | .error e => .error e
  | .ok (ts, mode) => ts.foldlM tokenStep { r with mode := mode }

/-- The end of the text: the document, if nothing is left open. -/
def finish (r : Reader) : Except Error (List (String × Value)) := do
  let ts ← r.mode.finish
  let r ← ts.foldlM tokenStep r
  let r ← r.tokenStep .newline
  match r.expect with
  | .line => .ok (closeEntries r.root)
  | _ => .error (.unexpected "the rest of the document")

end Reader

/-- The document that a text writes: the entries of its outermost table. A byte order mark at the
start does not count. -/
def parse (text : String) : Except Error (List (String × Value)) :=
  let cs := match text.toList with
    | '\uFEFF' :: cs => cs
    | cs => cs
  (cs.foldlM Reader.step Reader.start).bind Reader.finish

end PacketPriority.Toml
