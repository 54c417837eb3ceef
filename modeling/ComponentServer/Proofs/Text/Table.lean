import Mathlib
import ComponentServer.Text.Table

/-!
# Looking up in tables

What is found under a key after the operations on a table. Nothing here depends on the order of the
entries: an entry that is put in stands in front of all others with its key.
-/

namespace ComponentServer.Table

variable {α β : Type} (table : Table α) {key other : Text}

@[simp]
theorem find?_empty (key : Text) : (empty : Table α).find? key = none := rfl

theorem find?_insertEntry_self (key : Text) (value : α) (entries : List (Text × α)) :
    ((insertEntry key value entries).find? (·.1 = key)).map Prod.snd = some value := by
  induction entries with
  | nil => simp [insertEntry]
  | cons entry others ih =>
    rw [insertEntry]
    split
    · simp
    next hne =>
      split
      · simp
      · rw [List.find?_cons_of_neg (by simpa using hne)]
        exact ih

theorem find?_insertEntry_of_ne (hne : other ≠ key) (value : α) (entries : List (Text × α)) :
    (insertEntry key value entries).find? (·.1 = other) = entries.find? (·.1 = other) := by
  induction entries with
  | nil => simp [insertEntry, Ne.symm hne]
  | cons entry others ih =>
    rw [insertEntry]
    split
    next heq =>
      rw [List.find?_cons_of_neg (by simpa using Ne.symm hne),
        List.find?_cons_of_neg (by simpa [heq] using Ne.symm hne)]
    · split
      · rw [List.find?_cons_of_neg (by simpa using Ne.symm hne)]
      · simp only [List.find?_cons, ih]

/-- The latest value of a key is found. -/
theorem find?_insert (key other : Text) (value : α) :
    (table.insert key value).find? other =
      if key = other then some value else table.find? other := by
  by_cases heq : key = other
  · subst heq
    rw [if_pos rfl]
    exact find?_insertEntry_self key value table.entries
  · rw [if_neg heq, find?, insert, find?_insertEntry_of_ne (Ne.symm heq)]
    rfl

theorem find?_erase (key other : Text) :
    (table.erase key).find? other = if key = other then none else table.find? other := by
  by_cases heq : key = other
  · subst heq
    have hnone : (table.entries.filter (·.1 != key)).find? (·.1 = key) = none := by
      rw [List.find?_eq_none]
      intro entry hmem
      simpa using (List.mem_filter.mp hmem).2
    rw [if_pos rfl, find?, erase, hnone, Option.map_none]
  · rw [if_neg heq, find?, find?, erase, List.find?_filter]
    congr 2
    funext entry
    by_cases hentry : entry.1 = other
    · simp [hentry, Ne.symm heq]
    · simp [hentry]

end ComponentServer.Table
