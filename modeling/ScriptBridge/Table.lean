/-!
# Tables

Entries under text keys, one for each key, in the order of the keys. `get?` is the view of a table:
what an insertion, an erasure or a list of pairs leaves under a key is said through it.
-/

namespace ScriptBridge

/-- Entries in the order of their keys. -/
abbrev Table (α : Type) := List (String × α)

namespace Table

variable {α : Type}

/-- No entries. -/
def empty : Table α := []

def get? (key : String) : Table α → Option α
  | [] => none
  | (k, a) :: rest => if k = key then some a else get? key rest

def contains (key : String) (table : Table α) : Bool :=
  (get? key table).isSome

/-- Puts an entry under a key, in the place of one that is there. -/
def insert (key : String) (a : α) : Table α → Table α
  | [] => [(key, a)]
  | (k, b) :: rest =>
    if key = k then (key, a) :: rest
    else if key < k then (key, a) :: (k, b) :: rest
    else (k, b) :: insert key a rest

def erase (key : String) : Table α → Table α
  | [] => []
  | (k, a) :: rest => if k = key then erase key rest else (k, a) :: erase key rest

/-- Puts in pairs one after the other: the last one of a key counts. -/
def insertAll (table : Table α) (pairs : List (String × α)) : Table α :=
  pairs.foldl (fun table (k, a) => insert k a table) table

/-- The table of some pairs: the last one of a key counts. -/
def ofPairs (pairs : List (String × α)) : Table α :=
  insertAll empty pairs

/-- The keys in order. -/
def keys (table : Table α) : List String :=
  table.map (·.1)

def mapValues {β : Type} (f : α → β) (table : Table α) : Table β :=
  table.map fun (k, a) => (k, f a)

theorem get?_empty (key : String) : get? key (empty : Table α) = none := rfl

theorem get?_insert (key other : String) (a : α) (table : Table α) :
    get? other (insert key a table) = if key = other then some a else get? other table := by
  induction table with
  | nil => simp [insert, get?]
  | cons entry rest ih =>
    obtain ⟨k, b⟩ := entry
    simp only [insert]
    by_cases same : key = k
    · subst same
      by_cases eq : key = other <;> simp [get?, eq]
    · by_cases before : key < k
      · simp [same, before, get?]
      · simp only [same, before, if_false, get?, ih]
        by_cases at_k : k = other
        · simp [at_k, show key ≠ other from fun h => same (h.trans at_k.symm)]
        · simp [at_k]

theorem get?_erase (key other : String) (table : Table α) :
    get? other (erase key table) = if key = other then none else get? other table := by
  induction table with
  | nil => simp [erase, get?]
  | cons entry rest ih =>
    obtain ⟨k, b⟩ := entry
    simp only [erase]
    by_cases same : k = key
    · subst same
      by_cases eq : k = other <;> simp [get?, eq] at ih ⊢ <;> exact ih
    · by_cases at_k : k = other
      · subst at_k
        simp [same, get?, Ne.symm same]
      · simp [same, get?, at_k, ih]

end Table

end ScriptBridge
