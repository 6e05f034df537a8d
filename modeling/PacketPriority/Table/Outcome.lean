import PacketPriority.Failure
import PacketPriority.Rule

/-!
What becomes of a request to change a rule table.
-/

namespace PacketPriority

/-! ### Success -/

/-- What an accepted request did. -/
inductive Outcome where
  /-- The key was not live before. -/
  | added
  /-- The rule was exchanged at its place. -/
  | modified (fieldsChanged : Bool)
  /-- The rule was taken out and placed under its new precedence. -/
  | moved (oldPrecedence : UInt8) (fieldsChanged : Bool)
  | deleted
deriving DecidableEq, Repr

def Outcome.label : Outcome → String
  | added => "added"
  | modified _ => "modified"
  | moved .. => "moved"
  | deleted => "deleted"

/-! ### Refusal -/

/-- Why a request is refused. -/
inductive UpdateError where
  | tableFull
  | tableEmpty
  | ruleNotFound
  | invalidEntry
  | allocationFailed
  | unknownCommand
  | writerBusy
  | nullRequest
deriving DecidableEq, Repr

/-- Who can do something about a refusal. -/
inductive ErrorKind where
  /-- The request has to be changed. -/
  | callerInput
  /-- Something has run out. -/
  | resource
  /-- Another change is under way. -/
  | contention
deriving DecidableEq, Repr

namespace UpdateError

def message : UpdateError → String
  | tableFull => "rule table is full"
  | tableEmpty => "rule table is empty"
  | ruleNotFound => "rule not found"
  | invalidEntry => "invalid rule entry"
  | allocationFailed => "allocation failed"
  | unknownCommand => "unknown update command"
  | writerBusy => "another writer is updating the rule table"
  | nullRequest => "null update request"

def label : UpdateError → String
  | tableFull => "table_full"
  | tableEmpty => "table_empty"
  | ruleNotFound => "rule_not_found"
  | invalidEntry => "invalid_entry"
  | allocationFailed => "allocation_failed"
  | unknownCommand => "unknown_command"
  | writerBusy => "writer_busy"
  | nullRequest => "null_request"

def kind : UpdateError → ErrorKind
  | allocationFailed => .resource
  | writerBusy => .contention
  | _ => .callerInput

/-- Whether the same request may succeed later. -/
def isRetryable (e : UpdateError) : Bool := e.kind ≠ .callerInput

def toFailure (e : UpdateError) : Failure := .update e.message

end UpdateError

/-- What becomes of a request. -/
abbrev UpdateResult := Except UpdateError Outcome

/-! ### Failures of a rule table and its files -/

/-- Any failure around a rule table. -/
inductive TableError where
  | ruleLoad (path reason : String)
  | ruleValidation (id : UInt32) (reason : String)
  | update (e : UpdateError)
deriving DecidableEq, Repr

namespace TableError

def message : TableError → String
  | ruleLoad path reason => "rule load error: " ++ path ++ ": " ++ reason
  | ruleValidation id reason => s!"rule validation error: rule {id}: " ++ reason
  | update e => "update error: " ++ e.message

def toFailure : TableError → Failure
  | ruleLoad path reason => .rule (.parseFailed path reason)
  | ruleValidation id reason => .rule (.invalid id reason)
  | update e => e.toFailure

end TableError

end PacketPriority
