import PacketPriority.Failure

/-!
What stands under the paths that the program reads.
-/

namespace PacketPriority

/-- What stands under a path. -/
inductive Document where
  | missing (e : ReadError)
  /-- A file that cannot be read as text, with its size in bytes. -/
  | unreadable (size : Nat) (e : ReadError)
  | text (size : Nat) (content : String)
deriving DecidableEq, Repr

instance : Inhabited Document := ⟨.missing .notFound⟩

/-- The text under a path. -/
def Document.content : Document → Except ReadError String
  | missing e | unreadable _ e => .error e
  | text _ content => .ok content

end PacketPriority
