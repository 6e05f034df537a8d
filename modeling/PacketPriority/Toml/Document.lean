import PacketPriority.Toml.Value

/-!
TOML documents while they are read.

A table remembers how it came about, because that decides how it may still grow: a table with a
header of its own is complete but for sub-tables, a table implied by a longer header may still get
its header or be taken up by a dotted key, and a table that a dotted key has made or taken up may
only grow by further dotted keys and by sub-tables. A table written in braces and an array written
in brackets are values and do not grow at all.
-/

namespace PacketPriority.Toml

/-- How a table came about. -/
inductive Origin where
  /-- By a header of its own. -/
  | header
  /-- As a step on the way to another table's header. -/
  | implied
  /-- As a step on the way to a dotted key, which may have taken up an implied table. -/
  | dotted
deriving DecidableEq, Repr

/-- What stands under a key of a document that is being read. -/
inductive Item where
  | value (v : Value)
  | table (origin : Origin) (entries : List (String × Item))
  /-- Tables with one header in double brackets each, the latest first. -/
  | tables (elements : List (List (String × Item)))

/-- The contents of a table that is being read. -/
abbrev Entries := List (String × Item)

namespace Entries

/-- The entries with the item under a key changed by `f`, which is given nothing if there is no
such key. -/
def alter (key : String) (f : Option Item → Except Error Item) : Entries → Except Error Entries
  | [] => (f none).map fun item => [(key, item)]
  | (k, item) :: rest =>
    if k = key then (f (some item)).map fun item => (key, item) :: rest
    else (alter key f rest).map ((k, item) :: ·)

/-! ### Headers -/

/-- Follows the steps of a header, making implied tables, and changes the item under the last one.
An array of tables is followed to its latest table. -/
def openAt (last : String) (f : Option Item → Except Error Item) :
    List String → Entries → Except Error Entries
  | [], es => alter last f es
  | key :: path, es =>
    alter key (fun item =>
      match item with
      | none => (openAt last f path []).map (Item.table .implied)
      | some (.table origin entries) =>
        (openAt last f path entries).map (Item.table origin)
      | some (.tables (entries :: others)) =>
        (openAt last f path entries).map fun entries => Item.tables (entries :: others)
      | some _ => .error (.notATable key)) es

/-- A table gets its header. -/
def openTable (last : String) : Option Item → Except Error Item
  | none => .ok (.table .header [])
  | some (.table .implied entries) => .ok (.table .header entries)
  | some _ => .error (.duplicateKey last)

/-- An array of tables gets one more table. -/
def openElement (last : String) : Option Item → Except Error Item
  | none => .ok (.tables [[]])
  | some (.tables elements) => .ok (.tables ([] :: elements))
  | some _ => .error (.duplicateKey last)

/-! ### Values -/

/-- Puts a value under a dotted key, given as its steps and its last part. An implied table on the
way becomes a dotted one. An array of tables is followed to its latest table, but the value itself
may not go there, for that table has a header. -/
def insertAt (last : String) (v : Value) : List String → Entries → Except Error Entries
  | [], es =>
    alter last (fun item =>
      match item with
      | none => .ok (.value v)
      | some _ => .error (.duplicateKey last)) es
  | key :: path, es =>
    alter key (fun item =>
      match item with
      | none => (insertAt last v path []).map (Item.table .dotted)
      | some (.table .dotted entries) | some (.table .implied entries) =>
        (insertAt last v path entries).map (Item.table .dotted)
      | some (.tables (entries :: others)) =>
        if path.isEmpty then .error (.duplicateKey last)
        else (insertAt last v path entries).map fun entries => Item.tables (entries :: others)
      | some (.table .header _) => .error (.duplicateKey key)
      | some _ => .error (.notATable key)) es

/-- Changes the entries of the table with a header that has been opened. -/
def within (f : Entries → Except Error Entries) : List String → Entries → Except Error Entries
  | [], es => f es
  | key :: path, es =>
    alter key (fun item =>
      match item with
      | some (.table origin entries) => (within f path entries).map (Item.table origin)
      | some (.tables (entries :: others)) =>
        (within f path entries).map fun entries => Item.tables (entries :: others)
      | _ => .error (.notATable key)) es

end Entries

/-! ### The finished document -/

mutual

/-- The value that an item has become when the text is at its end. -/
def Item.close : Item → Value
  | .value v => v
  | .table _ entries => .table (closeEntries entries)
  | .tables elements => .array (closeElements elements [])

/-- The entries of a table that is complete. -/
def closeEntries : List (String × Item) → List (String × Value)
  | [] => []
  | (key, item) :: rest => (key, item.close) :: closeEntries rest

/-- The tables of an array, which come latest first, before those that are already closed. -/
def closeElements : List (List (String × Item)) → List Value → List Value
  | [], closed => closed
  | entries :: earlier, closed => closeElements earlier (.table (closeEntries entries) :: closed)

end

end PacketPriority.Toml
