import PacketPriority.Document
import PacketPriority.RuleFile.Request
import PacketPriority.Table.Outcome
import PacketPriority.Toml.Reader

/-!
Loading rule files.

A rule file is a TOML document whose array `rules` holds the entries. A file is taken as a whole or
not at all: the first fault decides. Of entries with one key only the first counts; the others are
checked and then skipped.
-/

namespace PacketPriority

namespace RuleFile

/-- The most bytes a rule file may have. -/
def maxBytes : Nat := 10485760

/-- The most entries any rule file may have. -/
def maxEntries : Nat := 65535

/-! ### Decoding -/

def shape : Toml.Shape where
  names := ["rules"]
  open_ := false
  short := true

/-- The entries of a document, in file order. -/
def entries (document : List (String × Toml.Value)) : Except Toml.Error (List Entry) := do
  let fields ← shape.fields (.table document)
  fields.getD "rules" (Toml.Value.asList Entry.decode) []

/-- The entries that a text holds, in file order. -/
def decode (text : String) : Except Toml.Error (List Entry) := do
  entries (← Toml.parse text)

/-! ### Requests -/

/-- The requests of entries, each entry checked; those whose key is among `seen` or stands further
up are skipped. -/
def requestsFrom (seen : List RuleKey) : List Entry → Except TableError (List Request)
  | [] => .ok []
  | e :: rest =>
    match e.toRequest with
    | .error fault => .error (.ruleValidation e.id fault.message)
    | .ok q =>
      if seen.contains q.key then requestsFrom seen rest
      else (requestsFrom (q.key :: seen) rest).map (q :: ·)

/-- The requests of entries, of which there may be at most `max`. -/
def requests (max : Nat) (source : String) (es : List Entry) : Except TableError (List Request) :=
  if max < es.length then
    .error (.ruleLoad source s!"too many rules: {es.length} (max {max})")
  else requestsFrom [] es

/-- The requests of a text with at most `max` entries; `source` names the text in errors. -/
def parse (max : Nat) (text source : String) : Except TableError (List Request) :=
  match decode text with
  | .error e => .error (.ruleLoad source ("TOML parse error: " ++ e.message))
  | .ok es => requests max source es

/-- The requests of the rule file under a path. -/
def load (max : Nat) (path : String) : Document → Except TableError (List Request)
  | .missing e => .error (.ruleLoad path ("failed to read file metadata: " ++ e.message))
  | .unreadable size e =>
    if maxBytes < size then
      .error (.ruleLoad path s!"file too large: {size} bytes (max: {maxBytes})")
    else .error (.ruleLoad path ("failed to read file: " ++ e.message))
  | .text size content =>
    if maxBytes < size then
      .error (.ruleLoad path s!"file too large: {size} bytes (max: {maxBytes})")
    else parse max content path

end RuleFile

end PacketPriority
