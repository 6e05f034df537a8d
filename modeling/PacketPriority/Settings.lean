import PacketPriority.Document
import PacketPriority.Table
import PacketPriority.Text.Blank
import PacketPriority.Toml.Decode
import PacketPriority.Toml.Reader

/-!
Settings of the program.

Settings come from three layers: defaults, a TOML file with the sections `general` and `mapdb`, and
variables of the environment, each laid over the one before. A file has to make sense on its own
before the variables are laid over it, and the result has to make sense again.
-/

namespace PacketPriority

structure Settings where
  logLevel : String := "info"
  logFormat : String := "json"
  limits : Limits := {}
  /-- The rule file to read where no other is named. -/
  rulesPath : String := "/etc/spm/rules.toml"
deriving DecidableEq, Repr, Inhabited

namespace Settings

/-! ### What makes sense -/

def logLevels : List String := ["trace", "debug", "info", "warn", "error"]

def logFormats : List String := ["json", "pretty"]

/-- The largest limit on the number of rules. -/
def ruleMaxLimit : UInt32 := 65535

/-- What is wrong with a text that should be one of some words. -/
def wordFault? (field value : String) (words : List String) : Option ConfigError :=
  if words.contains value then none
  else
    some (.invalidValue field
      ("'" ++ value ++ "' is not one of " ++ String.intercalate "|" words))

/-- What is wrong with a limit on the number of rules. -/
def ruleMaxFault? (n : UInt32) : Option ConfigError :=
  if 1 ≤ n ∧ n ≤ ruleMaxLimit then none
  else some (.invalidValue "mapdb.rule_max" s!"must be between 1 and {ruleMaxLimit}")

/-- What is wrong with a default priority. -/
def defaultPcpFault? (pcp : UInt8) : Option ConfigError :=
  if 7 < pcp then some (.invalidValue "mapdb.default_pcp" "must be between 0 and 7") else none

/-- What is wrong with the path of the rule file. -/
def rulesPathFault? (path : String) : Option ConfigError :=
  if (Text.trim path.toList).isEmpty then
    some (.invalidValue "mapdb.rules_path" "rules path must not be empty")
  else none

/-- What is wrong with settings, as far as the first setting that is wrong. -/
def fault? (s : Settings) : Option ConfigError :=
  wordFault? "general.log_level" s.logLevel logLevels
    |>.or (wordFault? "general.log_format" s.logFormat logFormats)
    |>.or (ruleMaxFault? s.limits.ruleMax)
    |>.or (defaultPcpFault? s.limits.defaultPcp)
    |>.or (rulesPathFault? s.rulesPath)

/-- Settings that make sense, or what is wrong with them. -/
def checked (s : Settings) : Except ConfigError Settings :=
  match s.fault? with
  | none => .ok s
  | some e => .error e

/-! ### Files -/

/-- The sections of a file. Other keys are ignored. -/
def shape : Toml.Shape where
  names := ["general", "mapdb"]
  open_ := true
  short := true

def generalShape : Toml.Shape where
  names := ["log_level", "log_format"]
  open_ := true
  short := true

def mapdbShape : Toml.Shape where
  names := ["rule_max", "default_pcp", "rules_path"]
  open_ := true
  short := true

/-- Settings with those that a section `general` gives. -/
def withGeneral (s : Settings) : Toml.Decoder Settings := fun v => do
  let fields ← generalShape.fields v
  let logLevel ← fields.getD "log_level" Toml.Value.asString s.logLevel
  let logFormat ← fields.getD "log_format" Toml.Value.asString s.logFormat
  return { s with logLevel := logLevel, logFormat := logFormat }

/-- Settings with those that a section `mapdb` gives. -/
def withMapdb (s : Settings) : Toml.Decoder Settings := fun v => do
  let fields ← mapdbShape.fields v
  let ruleMax ← fields.getD "rule_max" Toml.Value.asWord s.limits.ruleMax
  let defaultPcp ← fields.getD "default_pcp" Toml.Value.asWord s.limits.defaultPcp
  let rulesPath ← fields.getD "rules_path" Toml.Value.asString s.rulesPath
  return { s with limits := ⟨ruleMax, defaultPcp⟩, rulesPath := rulesPath }

/-- The settings that a document gives, the defaults where it gives none. -/
def decode (document : List (String × Toml.Value)) : Except Toml.Error Settings := do
  let fields ← shape.fields (.table document)
  let s ← fields.getD "general" (withGeneral {}) {}
  fields.getD "mapdb" s.withMapdb s

/-- The settings that a text gives, whether or not they make sense. -/
def parse (text : String) : Except ConfigError Settings :=
  match Toml.parse text >>= decode with
  | .ok s => .ok s
  | .error e => .error (.parseFailed e.message)

/-- The settings that the file under a path gives. -/
def ofDocument (path : String) (document : Document) : Except Failure Settings :=
  match document.content with
  | .error .notFound => .error (.config (.fileNotFound path))
  | .error e => .error (.io e.message)
  | .ok text => (parse text >>= checked).mapError .config

/-! ### Variables -/

/-- The variables of the environment, by name. -/
abbrev Variables := String → Option String

/-- The variables that settings take. -/
def variableNames : List String :=
  ["SPM_GENERAL_LOG_LEVEL", "SPM_GENERAL_LOG_FORMAT", "SPM_MAPDB_RULE_MAX",
    "SPM_MAPDB_DEFAULT_PCP", "SPM_MAPDB_RULES_PATH"]

/-- A text, with a variable laid over it unless that is empty. -/
def overText (vars : Variables) (name : String) (value : String) : String :=
  match vars name with
  | none => value
  | some v => if v.isEmpty then value else v

/-- A word, with a variable laid over it if that holds a word, blanks at its ends apart. -/
def overWord {α : Type} [Word α] (vars : Variables) (name : String) (value : α) : α :=
  ((vars name).bind fun v => Text.word? (Text.trim v.toList)).getD value

/-- Settings with the variables laid over them. -/
def overlay (vars : Variables) (s : Settings) : Settings where
  logLevel := overText vars "SPM_GENERAL_LOG_LEVEL" s.logLevel
  logFormat := overText vars "SPM_GENERAL_LOG_FORMAT" s.logFormat
  limits :=
    { ruleMax := overWord vars "SPM_MAPDB_RULE_MAX" s.limits.ruleMax
      defaultPcp := overWord vars "SPM_MAPDB_DEFAULT_PCP" s.limits.defaultPcp }
  rulesPath := overText vars "SPM_MAPDB_RULES_PATH" s.rulesPath

/-! ### Loading -/

/-- Settings with the variables laid over them, if the result makes sense. -/
def settled (vars : Variables) (s : Settings) : Except Failure Settings :=
  (s.overlay vars).checked.mapError .config

/-- The settings in effect with the file under a path. -/
def load (vars : Variables) (path : String) (document : Document) : Except Failure Settings :=
  ofDocument path document >>= settled vars

/-- The settings in effect with the file under a path, or without a file if there is none. -/
def loadOrDefault (vars : Variables) (path : String) (document : Document) :
    Except Failure Settings :=
  match load vars path document with
  | .error (.config (.fileNotFound _)) => settled vars {}
  | result => result

end Settings

end PacketPriority
