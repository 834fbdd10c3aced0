import Sigil.Text.Basic

/-! # Tables

    A table holds values under texts as keys, in increasing order of the keys
    and each key once.

    * `Table.insert`: put a value under a key, in place of the one that was there.
    * `Table.erase`: take away the value under a key.
    * `Table.get?`: the value under a key. -/

namespace Sigil

/-- Keys and values, in order of the keys. -/
abbrev Table (α : Type) := List (Text × α)

namespace Table

variable {α : Type}

/-- Put a value under a key, in place of the one that was there. -/
def insert (key : Text) (value : α) : Table α → Table α
  | [] => [(key, value)]
  | (other, old) :: rest =>
    if key = other then (key, value) :: rest
    else if key < other then (key, value) :: (other, old) :: rest
    else (other, old) :: insert key value rest

/-- Take away the value under a key. -/
def erase (key : Text) (table : Table α) : Table α :=
  table.filter fun entry => entry.1 ≠ key

/-- The value under a key. -/
def get? (key : Text) (table : Table α) : Option α :=
  (table.find? fun entry => entry.1 = key).map Prod.snd

/-- The table of a list of entries; of several under one key the last counts. -/
def ofEntries (entries : List (Text × α)) : Table α :=
  entries.foldl (fun table (key, value) => insert key value table) []

/-- The values, in order of their keys. -/
def values (table : Table α) : List α :=
  table.map Prod.snd

/-- What is put in is found, and nothing else changes. -/
theorem get?_insert (key other : Text) (value : α) (table : Table α) :
    get? other (insert key value table) = if key = other then some value else get? other table := by
  induction table with
  | nil => simp only [insert, get?]; grind
  | cons entry rest ih =>
    obtain ⟨name, old⟩ := entry
    simp only [insert]
    split
    · simp only [get?]; grind
    · split
      · simp only [get?]; grind
      · simp only [get?] at ih ⊢; grind

/-- What is taken away is gone, and nothing else changes. -/
theorem get?_erase (key other : Text) (table : Table α) :
    get? other (erase key table) = if key = other then none else get? other table := by
  induction table with
  | nil => simp [erase, get?]
  | cons entry rest ih =>
    obtain ⟨name, old⟩ := entry
    simp only [erase, get?, List.filter_cons] at ih ⊢
    grind

end Table

end Sigil
