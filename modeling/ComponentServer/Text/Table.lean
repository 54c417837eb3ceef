import ComponentServer.Text.Basic

/-!
Tables: values by text keys, in the order of the keys' code points.
-/

namespace ComponentServer

/-- The order of texts by their code points. -/
def Text.precedes : Text → Text → Bool
  | _, [] => false
  | [], _ :: _ => true
  | a :: left, b :: right =>
    decide (a.toNat < b.toNat) || (a == b && Text.precedes left right)

structure Table (α : Type) where
  entries : List (Text × α)

namespace Table

variable {α β : Type}

def empty : Table α := ⟨[]⟩

def find? (table : Table α) (key : Text) : Option α :=
  (table.entries.find? (·.1 = key)).map Prod.snd

def contains (table : Table α) (key : Text) : Bool := (table.find? key).isSome

def keys (table : Table α) : List Text := table.entries.map Prod.fst

def insertEntry (key : Text) (value : α) : List (Text × α) → List (Text × α)
  | [] => [(key, value)]
  | entry :: others =>
    if entry.1 = key then (key, value) :: others
    else if key.precedes entry.1 then (key, value) :: entry :: others
    else entry :: insertEntry key value others

/-- The value takes the place of an earlier one with the same key. -/
def insert (table : Table α) (key : Text) (value : α) : Table α :=
  ⟨insertEntry key value table.entries⟩

def erase (table : Table α) (key : Text) : Table α :=
  ⟨table.entries.filter (·.1 != key)⟩

def map (f : α → β) (table : Table α) : Table β :=
  ⟨table.entries.map fun entry => (entry.1, f entry.2)⟩

end Table

end ComponentServer
