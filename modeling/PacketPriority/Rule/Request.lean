import PacketPriority.Rule.Build

/-!
Requests to change a rule table.
-/

namespace PacketPriority

/-- What a request asks for. Codes other than those of the two commands are kept, so that the
refusal can name them. -/
inductive Command where
  | add
  | delete
  | unknown (code : UInt8)
deriving DecidableEq, Repr, Inhabited

/-- 0 deletes, 1 adds. -/
def Command.ofCode (code : UInt8) : Command :=
  if code = 0 then delete else if code = 1 then add else unknown code

/-- A command with the rule that it is about; of a rule to be deleted only the key counts. -/
structure Request where
  command : Command
  rule : Rule
deriving DecidableEq, Repr

namespace Request

def add (r : Rule) : Request := ⟨.add, r⟩

/-- The request to delete the rule with a given key. -/
def delete (k : RuleKey) : Request := ⟨.delete, Rule.build k.id [.kind k.kind]⟩

def key (q : Request) : RuleKey := q.rule.key

theorem key_delete (k : RuleKey) : (delete k).key = k := rfl

end Request

end PacketPriority
