import PacketPriority.Word

/-!
Failures and their texts.

A failure is kept as its cause; the wording is in the `message` function of its type and nowhere
else. `Failure` is the form in which the service as a whole reports the failures of its parts.
-/

namespace PacketPriority

/-- Why a configuration cannot be used. -/
inductive ConfigError where
  | fileNotFound (path : String)
  | parseFailed (reason : String)
  | invalidValue (field reason : String)
deriving DecidableEq, Repr

def ConfigError.message : ConfigError → String
  | fileNotFound path => "config file not found: " ++ path
  | parseFailed reason => "failed to parse config: " ++ reason
  | invalidValue field reason => "invalid config value for '" ++ field ++ "': " ++ reason

/-- Why a rule file cannot be used. -/
inductive RuleError where
  | parseFailed (path reason : String)
  | invalid (id : UInt32) (reason : String)
  | tooLarge (size max : Nat)
deriving DecidableEq, Repr

def RuleError.message : RuleError → String
  | parseFailed path reason => "failed to parse rule file '" ++ path ++ "': " ++ reason
  | invalid id reason => s!"invalid rule {id}: " ++ reason
  | tooLarge size max => s!"input too large: {size} bytes (max: {max})"

/-- Any failure of the service. -/
inductive Failure where
  | config (e : ConfigError)
  | rule (e : RuleError)
  | update (reason : String)
  | io (reason : String)
deriving DecidableEq, Repr

def Failure.message : Failure → String
  | config e => "config error: " ++ e.message
  | rule e => "rule error: " ++ e.message
  | update reason => "update rejected: " ++ reason
  | io reason => "io error: " ++ reason

/-- Why a file cannot be read. -/
inductive ReadError where
  | notFound
  | isDirectory
  | notText
  | other (reason : String)
deriving DecidableEq, Repr

def ReadError.message : ReadError → String
  | notFound => "No such file or directory (os error 2)"
  | isDirectory => "Is a directory (os error 21)"
  | notText => "stream did not contain valid UTF-8"
  | other reason => reason

end PacketPriority
