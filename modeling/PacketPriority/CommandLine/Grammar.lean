/-!
Command lines.

A command is either a leaf, which does something, or a group of other commands. Its options are
written `--name value`, `--name=value`, or with a single letter `-n value`, `-nvalue`, `-n=value`;
`--` ends the options. Every command has the options `--help` and `-h`, every group the command
`help`.

A command line is read from the left to the right, and what is wrong with it first is told. The
value of an option is stored only when the next option or operand begins or the command line ends;
what is wrong with the value is told then, and thus after anything that is wrong with the commands
in between.
-/

namespace PacketPriority.CommandLine

/-- Why a command line leads to no action. -/
inductive Misuse where
  | helpAsked
  | versionAsked
  /-- A group of commands without anything behind it. -/
  | nothingGiven
  | missingCommand
  | unknownCommand
  | unknownArgument
  /-- A value that is none of those the option knows, an empty one, or none at all. -/
  | invalidValue
  /-- A value that is not of the form that the option takes. -/
  | refusedValue
  /-- A value for an option that takes none. -/
  | surplusValue
  | missingArgument
  | repeatedOption
deriving DecidableEq, Repr

/-- To ask for help or the version is not a mistake. -/
def Misuse.exitCode : Misuse → UInt8
  | helpAsked | versionAsked => 0
  | _ => 2

def Misuse.message : Misuse → String
  | helpAsked => "help asked for"
  | versionAsked => "version asked for"
  | nothingGiven => "no command given"
  | missingCommand => "a command is missing"
  | unknownCommand => "unknown command"
  | unknownArgument => "unexpected argument"
  | invalidValue => "invalid value"
  | refusedValue => "value of the wrong form"
  | surplusValue => "value for an option that takes none"
  | missingArgument => "an argument is missing"
  | repeatedOption => "option given twice"

/-- An option or operand, and how its value is stored among the values given so far. -/
structure Parameter (σ : Type) where
  name : String
  letter : Option Char := none
  store : String → σ → Except Misuse σ

/-- A command. Values have the type `σ`, and `ρ` is what a command line asks for. -/
inductive Command (σ ρ : Type) where
  /-- A command that does something, with at most one operand. -/
  | leaf (name : String) (options : List (Parameter σ)) (operand : Option (Parameter σ))
      (finish : σ → Except Misuse ρ)
  | group (name : String) (versioned : Bool) (options : List (Parameter σ))
      (commands : List (Command σ ρ))

variable {σ ρ : Type}

namespace Command

def name : Command σ ρ → String
  | leaf name .. => name
  | group name .. => name

def options : Command σ ρ → List (Parameter σ)
  | leaf _ options .. => options
  | group _ _ options _ => options

def operand : Command σ ρ → Option (Parameter σ)
  | leaf _ _ operand _ => operand
  | group .. => none

def commands : Command σ ρ → List (Command σ ρ)
  | leaf .. => []
  | group _ _ _ commands => commands

def isGroup : Command σ ρ → Bool
  | leaf .. => false
  | group .. => true

/-- Whether the command has an option that asks for the version. -/
def versioned : Command σ ρ → Bool
  | leaf .. => false
  | group _ versioned .. => versioned

/-- The command of a name in a group. -/
def command? (c : Command σ ρ) (name : String) : Option (Command σ ρ) :=
  c.commands.find? (·.name == name)

/-- Whether a text names a command in a group. -/
def knows (c : Command σ ρ) (text : String) : Bool :=
  (c.command? text).isSome || (c.isGroup && text == "help")

/-- What the command `help` of a group says, with more words behind it. -/
def help (c : Command σ ρ) : List String → Misuse
  | [] => .helpAsked
  | word :: rest =>
    match c.command? word with
    | some inner => inner.help rest
    | none => if c.isGroup && word == "help" && rest.isEmpty then .helpAsked else .unknownCommand

/-- How a command is written. -/
def synopsis (c : Command σ ρ) : String :=
  let operand := match c.operand with
    | some p => " [" ++ p.name ++ "]"
    | none => ""
  let inner := if c.isGroup then " COMMAND" else ""
  let names := c.options.map fun p => "  --" ++ p.name ++ " VALUE\n"
  "Usage: " ++ c.name ++ " [OPTIONS]" ++ operand ++ inner ++ "\n"
    ++ (if c.isGroup then
        "Commands: " ++ String.intercalate ", " (c.commands.map name ++ ["help"]) ++ "\n"
      else "")
    ++ "Options:\n" ++ String.join names

end Command

/-! ### One command's share of the command line -/

/-- The option or operand at which the reading stands. -/
inductive Slot (σ : Type) where
  | empty
  /-- An option whose value is to come. -/
  | awaiting (p : Parameter σ)
  /-- A value still to be stored. -/
  | holding (p : Parameter σ) (value : String)

/-- What has been read of a command's share. -/
structure Level (σ : Type) where
  values : σ
  /-- The names of the options stored. -/
  given : List String := []
  slot : Slot σ := .empty
  hasOperand : Bool := false
  /-- Whether `--` has been read. -/
  literal : Bool := false

namespace Level

/-- Stores a value, for the first time. -/
def store (l : Level σ) (p : Parameter σ) (value : String) : Except Misuse (Level σ) :=
  if l.given.contains p.name then .error .repeatedOption
  else do
    let values ← p.store value l.values
    return { l with values := values, given := p.name :: l.given, slot := .empty }

/-- Empties the slot. -/
def settle (l : Level σ) : Except Misuse (Level σ) :=
  match l.slot with
  | .empty => .ok l
  | .awaiting _ => .error .invalidValue
  | .holding p value => l.store p value

def isAwaiting (l : Level σ) : Bool :=
  match l.slot with
  | .awaiting _ => true
  | _ => false

/-- Begins an option, with a value if one is attached to it. An attached value is stored at
once. -/
def begin (l : Level σ) (p : Parameter σ) : Option String → Except Misuse (Level σ)
  | none => do return { ← l.settle with slot := .awaiting p }
  | some value => do (← l.settle).store p value

/-- A switch that ends the reading. -/
def stop (l : Level σ) (m : Misuse) : Except Misuse (Level σ) := do
  let _ ← l.settle
  .error m

end Level

namespace Command

/-- An argument that is no option: the value that an option waits for, or the operand. -/
def plain (c : Command σ ρ) (l : Level σ) (arg : String) : Except Misuse (Level σ) :=
  match l.literal, l.slot with
  | false, .awaiting p => .ok { l with slot := .holding p arg }
  | _, _ =>
    match c.operand with
    | some p =>
      if l.hasOperand then .error .unknownArgument
      else do return { ← l.settle with slot := .holding p arg, hasOperand := true }
    | none =>
      if c.isGroup && !(l.literal && c.knows arg) then .error .unknownCommand
      else .error .unknownArgument

/-- A text split at its first equals sign. -/
def splitValue (cs : List Char) : String × Option String :=
  match cs.dropWhile (· ≠ '=') with
  | [] => (String.ofList cs, none)
  | _ :: value => (String.ofList (cs.takeWhile (· ≠ '=')), some (String.ofList value))

/-- An option by its name, given without the dashes. -/
def long (c : Command σ ρ) (l : Level σ) (cs : List Char) : Except Misuse (Level σ) :=
  let (name, value) := splitValue cs
  match c.options.find? (·.name == name) with
  | some p => l.begin p value
  | none =>
    if name == "help" || (c.versioned && name == "version") then
      if value.isSome then .error .surplusValue
      else l.stop (if name == "help" then .helpAsked else .versionAsked)
    else .error .unknownArgument

/-- The value behind an option's letter. -/
def attached : List Char → Option String
  | [] => none
  | '=' :: cs => some (String.ofList cs)
  | cs => some (String.ofList cs)

/-- An option by its letter, and what stands behind it. -/
def short (c : Command σ ρ) (l : Level σ) (letter : Char) (cs : List Char) :
    Except Misuse (Level σ) :=
  match c.options.find? (·.letter == some letter) with
  | some p => l.begin p (attached cs)
  | none =>
    if letter == 'h' then l.stop .helpAsked
    else if c.versioned && letter == 'V' then l.stop .versionAsked
    else .error .unknownArgument

/-- An argument that names no command. -/
def argument (c : Command σ ρ) (l : Level σ) (arg : String) : Except Misuse (Level σ) :=
  if l.literal then c.plain l arg
  else
    match arg.toList with
    | ['-', '-'] => .ok { l with literal := true }
    | '-' :: '-' :: cs => c.long l cs
    | '-' :: letter :: cs => c.short l letter cs
    | _ => c.plain l arg

/-- The end of the command line. -/
def close (c : Command σ ρ) (l : Level σ) : Except Misuse ρ := do
  let l ← l.settle
  match c with
  | leaf _ _ _ finish => finish l.values
  | group .. => .error (if l.given.isEmpty then .nothingGiven else .missingCommand)

/-- Reads the rest of a command line. -/
def read (c : Command σ ρ) (l : Level σ) : List String → Except Misuse ρ
  | [] => c.close l
  | arg :: rest =>
    if l.literal || l.isAwaiting then c.argument l arg >>= fun l => c.read l rest
    else
      match c.command? arg with
      | some inner => do
        let own := l.settle
        let values := match own with
          | .ok settled => settled.values
          | .error _ => l.values
        let asked ← inner.read { values := values } rest
        let _ ← own
        return asked
      | none =>
        if c.isGroup && arg == "help" then .error (c.help rest)
        else c.argument l arg >>= fun l => c.read l rest

/-- What a command line asks for; `unset` are the values before anything is given. -/
def parse (c : Command σ ρ) (unset : σ) (args : List String) : Except Misuse ρ :=
  c.read { values := unset } args

end Command

end PacketPriority.CommandLine
