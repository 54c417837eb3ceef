import ComponentServer.Toml.Value

/-!
Tables while a TOML document is read. A table remembers how it came to be, because a header may
complete a table that only deeper headers have named, while dotted keys may only go on with tables
that dotted keys have made.
-/

namespace ComponentServer.Toml

inductive Origin where
  /-- By its own header, or the document itself. -/
  | header
  /-- By the header of a table inside it. -/
  | implied
  /-- By a dotted key. -/
  | dotted
deriving DecidableEq, Repr

inductive Item where
  | value (given : Value)
  | table (origin : Origin) (entries : List (Text × Item))
  /-- Tables of a repeated header, the latest one last. -/
  | tables (items : List (List (Text × Item)))

abbrev Entries := List (Text × Item)

namespace Entries

def find? (entries : Entries) (key : Text) : Option Item :=
  (List.find? (fun entry => entry.1 == key) entries).map Prod.snd

/-- Puts an item in the place of the one with its key, or behind all. -/
def set (entries : Entries) (key : Text) (item : Item) : Entries :=
  if (entries.find? key).isSome then
    List.map (fun entry => if entry.1 == key then (key, item) else entry) entries
  else entries ++ [(key, item)]

def remove (entries : Entries) (key : Text) : Entries :=
  List.filter (fun entry => entry.1 != key) entries

/-- Adds a value under a new key. -/
def add? (entries : Entries) (key : Text) (value : Value) : Option Entries :=
  if (entries.find? key).isSome then none else some (entries ++ [(key, .value value)])

/-- Changes the table that the keys of a header lead to; missing tables are made on the way, and a
repeated header stands for its latest table. -/
def atHeader? (change : Entries → Option Entries) : List Text → Entries → Option Entries
  | [], entries => change entries
  | key :: path, entries =>
    match entries.find? key with
    | none => (atHeader? change path []).map fun inner => entries.set key (.table .implied inner)
    | some (.table origin inner) =>
      (atHeader? change path inner).map fun inner => entries.set key (.table origin inner)
    | some (.tables items) =>
      (atHeader? change path (items.getLastD [])).map fun inner =>
        entries.set key (.tables (items.dropLast ++ [inner]))
    | some (.value _) => none

/-- Adds a value under a dotted key. The key may pass through tables that no header of their own has
made, and the table it adds to must come from a dotted key. -/
def addDotted? (value : Value) (last : Text) : List Text → Entries → Option Entries
  | [], entries => entries.add? last value
  | key :: path, entries =>
    match entries.find? key with
    | none =>
      (addDotted? value last path []).map fun inner => entries.set key (.table .dotted inner)
    | some (.table .dotted inner) =>
      (addDotted? value last path inner).map fun inner => entries.set key (.table .dotted inner)
    | some (.table .implied inner) =>
      if path.isEmpty then none
      else (addDotted? value last path inner).map fun inner =>
        entries.set key (.table .implied inner)
    | some (.tables items) =>
      if path.isEmpty then none
      else (addDotted? value last path (items.getLastD [])).map fun inner =>
        entries.set key (.tables (items.dropLast ++ [inner]))
    | _ => none

end Entries

mutual

/-- The value of an item. -/
def Item.toValue : Item → Value
  | .value given => given
  | .table _ entries => .table (Item.toEntries entries)
  | .tables items => .array (Item.toTables items)

def Item.toEntries : List (Text × Item) → List (Text × Value)
  | [] => []
  | (key, item) :: others => (key, item.toValue) :: Item.toEntries others

def Item.toTables : List (List (Text × Item)) → List Value
  | [] => []
  | entries :: others => .table (Item.toEntries entries) :: Item.toTables others

end

end ComponentServer.Toml
