import PacketPriority.Text.Digits
import PacketPriority.Toml.Value

/-!
TOML tokens.

A text is cut into tokens by a machine that takes one character at a time: `Mode.step` gives the
tokens that the character completes and the mode behind it, `Mode.finish` those that the end of the
text completes. Strings come out decoded. Comments come out as nothing.
-/

namespace PacketPriority.Toml

/-- The two kinds of quotes: escapes count between quotation marks, not between apostrophes. -/
inductive Quote where
  | basic
  | literal
deriving DecidableEq, Repr

def Quote.char : Quote → Char
  | basic => '"'
  | literal => '\''

inductive Token where
  | leftBracket | rightBracket | leftBrace | rightBrace
  | comma | equals | dot
  | newline
  /-- A blank or a tab. -/
  | blank (c : Char)
  /-- Characters without quotes. -/
  | word (cs : List Char)
  /-- A string on one line. -/
  | quoted (s : String)
  /-- A string between triple quotes. -/
  | block (s : String)
deriving DecidableEq, Repr

/-- Where an escape stands. -/
inductive Place where
  | line
  | block
deriving DecidableEq, Repr

/-- What the machine is in the middle of. Texts are kept backwards. -/
inductive Mode where
  | between
  /-- Behind a carriage return, where a line feed must come. -/
  | carriage
  | comment
  | word (text : List Char)
  /-- Behind one opening quote, or two if `again` is set. -/
  | opening (q : Quote) (again : Bool)
  | line (q : Quote) (text : List Char)
  /-- Behind triple quotes: a line break here does not count. -/
  | blockStart (q : Quote)
  | blockStartCarriage (q : Quote)
  /-- In a block, behind `run` quotes in a row. -/
  | block (q : Quote) (text : List Char) (run : Nat)
  | blockCarriage (q : Quote) (text : List Char)
  /-- Behind a backslash. -/
  | escape (place : Place) (text : List Char)
  /-- In a numeric escape of which `left + 1` digits are to come. -/
  | code (place : Place) (text : List Char) (left value : Nat)
  /-- Behind a backslash that joins lines; `broken` tells whether the line break has come. -/
  | joining (text : List Char) (broken : Bool)
  | joiningCarriage (text : List Char)
deriving Repr

namespace Mode

/-- Whether a character may stand in comments and strings: no control character but the tab. -/
def isPlain (c : Char) : Bool := c = '\t' || (c.toNat ≥ 32 && c.toNat ≠ 127)

/-- Whether a character ends a word. -/
def endsWord (c : Char) : Bool :=
  c = '.' || c = '=' || c = ',' || c = '[' || c = ']' || c = '{' || c = '}' || c = ' '
    || c = '\t' || c = '#' || c = '\r' || c = '\n'

/-- A character where no token is open. -/
def start (c : Char) : List Token × Mode :=
  match c with
  | '[' => ([.leftBracket], between)
  | ']' => ([.rightBracket], between)
  | '{' => ([.leftBrace], between)
  | '}' => ([.rightBrace], between)
  | ',' => ([.comma], between)
  | '=' => ([.equals], between)
  | '.' => ([.dot], between)
  | '\n' => ([.newline], between)
  | '\r' => ([], carriage)
  | ' ' | '\t' => ([.blank c], between)
  | '#' => ([], comment)
  | '"' => ([], opening .basic false)
  | '\'' => ([], opening .literal false)
  | c => ([], word [c])

/-- A token, and then a character where no token is open. -/
def after (t : Token) (c : Char) : List Token × Mode :=
  let (ts, m) := start c
  (t :: ts, m)

/-- The string that a text kept backwards stands for, without its last `n` characters. -/
def stringOf (text : List Char) : String := String.ofList text.reverse

/-- The mode in a string behind an escape. -/
def resume : Place → List Char → Mode
  | .line, text => line .basic text
  | .block, text => block .basic text 0

/-- A character on one line between quotes. -/
def lineStep (q : Quote) (text : List Char) (c : Char) : Except Error (List Token × Mode) :=
  if c = q.char then .ok ([.quoted (stringOf text)], between)
  else if c = '\\' ∧ q = .basic then .ok ([], escape .line text)
  else if isPlain c then .ok ([], line q (c :: text))
  else .error (.strayCharacter c)

/-- A character that is no quote, in a block. -/
def blockStep (q : Quote) (text : List Char) (c : Char) : Except Error (List Token × Mode) :=
  if c = '\\' ∧ q = .basic then .ok ([], escape .block text)
  else if c = '\r' then .ok ([], blockCarriage q text)
  else if c = '\n' ∨ isPlain c = true then .ok ([], block q (c :: text) 0)
  else .error (.strayCharacter c)

/-- Five quotes in a row always close a block, and the first two of them belong to it. -/
def maxRun : Nat := 5

/-- A character of a block behind a run of quotes. -/
def runStep (q : Quote) (text : List Char) (run : Nat) (c : Char) :
    Except Error (List Token × Mode) :=
  if c = q.char then
    if run + 1 = maxRun then
      .ok ([.block (stringOf (List.replicate (maxRun - 3) q.char ++ text))], between)
    else .ok ([], block q text (run + 1))
  else if 3 ≤ run then
    .ok (after (.block (stringOf (List.replicate (run - 3) q.char ++ text))) c)
  else blockStep q (List.replicate run q.char ++ text) c

/-- A character behind a backslash that joins lines. -/
def joiningStep (text : List Char) (broken : Bool) (c : Char) :
    Except Error (List Token × Mode) :=
  if c = ' ' ∨ c = '\t' then .ok ([], joining text broken)
  else if c = '\n' then .ok ([], joining text true)
  else if c = '\r' then .ok ([], joiningCarriage text)
  else if broken then runStep .basic text 0 c
  else .error .badEscape

/-- A character behind a backslash. -/
def escapeStep (place : Place) (text : List Char) (c : Char) :
    Except Error (List Token × Mode) :=
  let add (d : Char) : Except Error (List Token × Mode) := .ok ([], resume place (d :: text))
  match c with
  | 'b' => add '\x08'
  | 't' => add '\t'
  | 'n' => add '\n'
  | 'f' => add '\x0c'
  | 'r' => add '\r'
  | 'e' => add '\x1b'
  | '"' => add '"'
  | '\\' => add '\\'
  | 'x' => .ok ([], code place text 1 0)
  | 'u' => .ok ([], code place text 3 0)
  | 'U' => .ok ([], code place text 7 0)
  | c =>
    match place with
    | .line => .error .badEscape
    | .block => joiningStep text false c

/-- The character with a code, if the code is that of a character. -/
def charOf? (code : Nat) : Option Char :=
  if code.isValidChar then some (Char.ofNat code) else none

/-- A digit of a numeric escape. -/
def codeStep (place : Place) (text : List Char) (left value : Nat) (c : Char) :
    Except Error (List Token × Mode) :=
  match Text.hexValue? c with
  | none => .error .badEscape
  | some d =>
    let value := 16 * value + d
    match left with
    | left + 1 => .ok ([], code place text left value)
    | 0 =>
      match charOf? value with
      | some d => .ok ([], resume place (d :: text))
      | none => .error .badEscape

/-- One character: the tokens that it completes, and the mode behind it. -/
def step (m : Mode) (c : Char) : Except Error (List Token × Mode) :=
  match m with
  | between => .ok (start c)
  | carriage => if c = '\n' then .ok ([.newline], between) else .error .bareCarriageReturn
  | comment =>
    if c = '\n' then .ok ([.newline], between)
    else if c = '\r' then .ok ([], carriage)
    else if isPlain c then .ok ([], comment)
    else .error (.strayCharacter c)
  | word text =>
    if endsWord c then .ok (after (.word text.reverse) c) else .ok ([], word (c :: text))
  | opening q false => if c = q.char then .ok ([], opening q true) else lineStep q [] c
  | opening q true => if c = q.char then .ok ([], blockStart q) else .ok (after (.quoted "") c)
  | line q text => lineStep q text c
  | blockStart q =>
    if c = '\n' then .ok ([], block q [] 0)
    else if c = '\r' then .ok ([], blockStartCarriage q)
    else runStep q [] 0 c
  | blockStartCarriage q =>
    if c = '\n' then .ok ([], block q [] 0) else .error .bareCarriageReturn
  | block q text run => runStep q text run c
  | blockCarriage q text =>
    if c = '\n' then .ok ([], block q ('\n' :: '\r' :: text) 0) else .error .bareCarriageReturn
  | escape place text => escapeStep place text c
  | code place text left value => codeStep place text left value c
  | joining text broken => joiningStep text broken c
  | joiningCarriage text =>
    if c = '\n' then .ok ([], joining text true) else .error .bareCarriageReturn

/-- The end of the text: the tokens that it completes. -/
def finish : Mode → Except Error (List Token)
  | between | comment => .ok []
  | word text => .ok [.word text.reverse]
  | opening _ true => .ok [.quoted ""]
  | block q text run =>
    if 3 ≤ run then .ok [.block (stringOf (List.replicate (run - 3) q.char ++ text))]
    else .error .unclosedString
  | carriage => .error .bareCarriageReturn
  | _ => .error .unclosedString

end Mode

end PacketPriority.Toml
