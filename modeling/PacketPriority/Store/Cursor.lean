import PacketPriority.Store

/-!
Reading a store piece by piece.

A dump walks through the buckets from the highest precedence to the lowest. It reads each bucket
once, when it comes to it, and goes on with what it has read: a later change of that bucket does
not show, a change of a bucket still to come does. Its cursor can be kept, and a new dump from there
reads the cursor's bucket anew and skips as many rules as the cursor counts.
-/

namespace PacketPriority

/-- A place in a dump: a precedence and the number of rules of it that are behind. -/
structure Cursor where
  precedence : Nat
  offset : Nat
  done : Bool
deriving DecidableEq, Repr

namespace Cursor

/-- The place before all rules. -/
def start : Cursor := ⟨bucketCount - 1, 0, false⟩

instance : Inhabited Cursor := ⟨start⟩

/-- The precedence at which the dump goes on, if it goes on. -/
def precedence? (c : Cursor) : Option Nat := if c.done then none else some c.precedence

end Cursor

/-- A dump on its way: its place, and the bucket it is reading. -/
structure Dump where
  cursor : Cursor
  held : Option (List Rule)
deriving DecidableEq, Repr

namespace Dump

/-- The dump that goes on from a place. -/
def resume (c : Cursor) : Dump := ⟨c, none⟩

def start : Dump := .resume .start

instance : Inhabited Dump := ⟨start⟩

/-- The first rule below a precedence whose bucket is used up, with the dump behind that rule. -/
def descend (s : Store) : Nat → Nat → Option Rule × Dump
  | 0, offset => (none, ⟨⟨0, offset, true⟩, none⟩)
  | p + 1, _ =>
    match s.bucketRules p with
    | [] => descend s p 0
    | r :: rest => (some r, ⟨⟨p, 1, false⟩, some (r :: rest)⟩)

/-- The next rule of a dump, if there is one, with the dump behind it. -/
def next (s : Store) (d : Dump) : Option Rule × Dump :=
  if d.cursor.done then (none, d)
  else
    let bucket := d.held.getD (s.bucketRules d.cursor.precedence)
    match bucket[d.cursor.offset]? with
    | some r => (some r, ⟨{ d.cursor with offset := d.cursor.offset + 1 }, some bucket⟩)
    | none => descend s d.cursor.precedence d.cursor.offset

/-- The next rules of a dump, at most `n`. -/
def take (s : Store) : Nat → Dump → List Rule × Dump
  | 0, d => ([], d)
  | n + 1, d =>
    match d.next s with
    | (none, d) => ([], d)
    | (some r, d) =>
      let (rs, d) := take s n d
      (r :: rs, d)

/-- All rules from a place on. -/
def drain (s : Store) (d : Dump) : List Rule :=
  (d.take s (s.nodes.length + (d.held.getD []).length)).1

end Dump

namespace Store

/-- All rules, read one by one from the start. -/
def dump (s : Store) : List Rule := Dump.start.drain s

/-- A page of at most `n` rules from a place on, and the place behind it. -/
def page (s : Store) (c : Cursor) (n : Nat) : List Rule × Cursor :=
  let (rs, d) := (Dump.resume c).take s n
  (rs, d.cursor)

end Store

end PacketPriority
