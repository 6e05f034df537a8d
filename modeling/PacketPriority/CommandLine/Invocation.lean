import PacketPriority.Address.Ip
import PacketPriority.CommandLine.Grammar
import PacketPriority.Meter

/-!
What the program can be asked to do.

`Invocation.ofArguments` reads a command line into an `Invocation`. The options `--output` and
`--log-level` may stand behind any command; `--config` stands before the first one.
-/

namespace PacketPriority.CommandLine

/-- How reports are written. -/
inductive Format where
  | text | json
deriving DecidableEq, Repr, Inhabited

/-- What is asked for. A path that is not given is that of the settings. -/
inductive Action where
  | validateRules (path : Option String)
  | dumpRules (path : Option String) (kind : Option RuleKind)
  | showRule (path : Option String) (key : RuleKey)
  | ruleStats (path : Option String)
  /-- The packet stands for itself but for its network layer, which its two addresses give. -/
  | classify (path : Option String) (flavor : Flavor) (ends : Option (Ip × Ip)) (packet : Packet)
  | validateSettings
  | showSettings (part : Option String)
deriving DecidableEq, Repr

structure Invocation where
  configPath : String
  format : Format
  action : Action
deriving DecidableEq, Repr

/-! ### Values of options -/

/-- The values given on a command line, those of all commands together. -/
structure Given where
  configPath : String := "spm.toml"
  format : Format := .text
  path : Option String := none
  kind : Option RuleKind := none
  id : Option UInt32 := none
  part : Option String := none
  flavor : Flavor := .mesh
  srcIp : Option Ip := none
  dstIp : Option Ip := none
  packet : Packet := {}

/-- An integer with an optional sign. -/
def integer? : List Char → Option Int
  | '-' :: cs => (Text.numeral? 10 Text.decimalValue? cs).map fun n => -(n : Int)
  | cs => (Text.unsigned? cs).map fun n => (n : Int)

/-- An integer within a word's range. -/
def number? {α : Type} [Word α] (s : String) : Option α := (integer? s.toList).bind Word.ofInt?

/-- An option whose values are read by `read?`; other values are not of its form. -/
def reading {α : Type} (name : String) (read? : String → Option α) (set : α → Given → Given) :
    Parameter Given where
  name := name
  store value given :=
    match read? value with
    | some a => .ok (set a given)
    | none => .error .refusedValue

/-- An option with a fixed set of values. -/
def choosing {α : Type} (name : String) (all : List α) (toString : α → String)
    (set : α → Given → Given) : Parameter Given where
  name := name
  store value given :=
    match all.find? fun a => toString a == value with
    | some a => .ok (set a given)
    | none => .error .invalidValue

/-- A path, which must not be empty. -/
def locating (name : String) (letter : Option Char) (set : String → Given → Given) :
    Parameter Given where
  name := name
  letter := letter
  store value given := if value.isEmpty then .error .invalidValue else .ok (set value given)

/-- An option that sets a field of the packet. -/
def packetField {α : Type} (name : String) (read? : String → Option α)
    (set : α → Packet → Packet) : Parameter Given :=
  reading name read? fun a given => { given with packet := set a given.packet }

/-! ### Options -/

def Format.toString : Format → String
  | text => "text"
  | json => "json"

/-- The options that may stand behind any command. -/
def everywhere : List (Parameter Given) :=
  [choosing "output" [Format.text, Format.json] Format.toString
      fun format given => { given with format := format },
    reading "log-level" some fun _ given => given]

def configOption : Parameter Given :=
  locating "config" (some 'c') fun path given => { given with configPath := path }

def pathOperand : Parameter Given :=
  locating "path" none fun path given => { given with path := some path }

def kindOption : Parameter Given :=
  reading "type" (fun s => (RuleKind.ofString s).toOption)
    fun kind given => { given with kind := some kind }

def idOption : Parameter Given :=
  reading "id" number? fun id given => { given with id := some id }

def sectionOption : Parameter Given :=
  reading "section" some fun part given => { given with part := some part }

/-- A DSCP value, which has six bits. -/
def dscp? (s : String) : Option UInt8 := (number? s).filter (· < 64)

/-- The options that describe a packet. -/
def packetOptions : List (Parameter Given) :=
  [choosing "flavor" Flavor.all Flavor.toString fun flavor given => { given with flavor := flavor },
    packetField "src-mac" Mac.ofString? fun mac p => { p with srcMac := mac },
    packetField "dst-mac" Mac.ofString? fun mac p => { p with dstMac := mac },
    packetField "dev-addr" Mac.ofString? fun mac p => { p with devAddr := mac },
    packetField "ifindex" number? fun index p => { p with ifindex := index },
    reading "src-ip" Ip.ofString? fun ip given => { given with srcIp := some ip },
    reading "dst-ip" Ip.ofString? fun ip given => { given with dstIp := some ip },
    packetField "protocol" number? fun number p => { p with protocol := number },
    packetField "src-port" number? fun port p => { p with srcPort := port },
    packetField "dst-port" number? fun port p => { p with dstPort := port },
    packetField "dscp" dscp? fun value p => { p with dscp := value },
    packetField "vlan-tci" number? fun tci p => { p with vlanTci := some tci },
    packetField "spi" number? fun value p => { p with spi := value },
    packetField "priority" number? fun value p => { p with priority := value }]

/-! ### Commands -/

/-- What the values given ask for with an action. -/
def Given.asking (given : Given) (action : Action) : Invocation :=
  ⟨given.configPath, given.format, action⟩

/-- The action of showing a rule, which needs an identifier. -/
def Given.showRule (given : Given) : Except Misuse Invocation :=
  match given.id with
  | some id => .ok (given.asking (.showRule given.path ⟨id, given.kind.getD .sawf⟩))
  | none => .error .missingArgument

/-- The action of classifying, which needs both addresses or none. -/
def Given.classify (given : Given) : Except Misuse Invocation :=
  let asking ends := given.asking (.classify given.path given.flavor ends given.packet)
  match given.srcIp, given.dstIp with
  | some src, some dst => .ok (asking (some (src, dst)))
  | none, none => .ok (asking none)
  | _, _ => .error .missingArgument

/-- A command of some options, behind which those that may stand everywhere may stand too. -/
def leaf (name : String) (options : List (Parameter Given)) (operand : Option (Parameter Given))
    (finish : Given → Except Misuse Invocation) : Command Given Invocation :=
  .leaf name (options ++ everywhere) operand finish

/-- A command that needs nothing to be given. -/
def plainLeaf (name : String) (options : List (Parameter Given))
    (operand : Option (Parameter Given)) (action : Given → Action) : Command Given Invocation :=
  leaf name options operand fun given => .ok (given.asking (action given))

def rulesCommand : Command Given Invocation :=
  .group "rules" false everywhere
    [plainLeaf "validate" [] pathOperand fun given => .validateRules given.path,
      plainLeaf "dump" [kindOption] pathOperand fun given => .dumpRules given.path given.kind,
      leaf "show" [idOption, kindOption] pathOperand Given.showRule,
      plainLeaf "stats" [] pathOperand fun given => .ruleStats given.path]

def classifyCommand : Command Given Invocation :=
  leaf "classify" packetOptions pathOperand Given.classify

def configCommand : Command Given Invocation :=
  .group "config" false everywhere
    [plainLeaf "validate" [] none fun _ => .validateSettings,
      plainLeaf "show" [sectionOption] none fun given => .showSettings given.part]

/-- The program as a command. -/
def program : Command Given Invocation :=
  .group "spm" true (configOption :: everywhere) [rulesCommand, classifyCommand, configCommand]

/-- What a command line asks for, given without the program's name. -/
def Invocation.ofArguments (args : List String) : Except Misuse Invocation :=
  program.parse {} args

end PacketPriority.CommandLine
