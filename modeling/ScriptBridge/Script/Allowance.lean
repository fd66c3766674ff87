import ScriptBridge.Script.Fault

/-!
# Allowances

What a script may use up. The size of a datum counts the items of its lists, the entries of its maps
and the bytes of its texts, with those of all that it contains. Each of the three has a limit of its
own.
-/

namespace ScriptBridge.Script

/-- The size of a datum. -/
structure Extent where
  items : Nat
  entries : Nat
  bytes : Nat
  deriving Repr, DecidableEq

namespace Extent

/-- The size of a datum that contains nothing. -/
def none : Extent := ⟨0, 0, 0⟩

def add (a b : Extent) : Extent :=
  ⟨a.items + b.items, a.entries + b.entries, a.bytes + b.bytes⟩

def addItem (list item : Extent) : Extent :=
  { list.add item with items := list.items + item.items + 1 }

def addEntry (map entry : Extent) : Extent :=
  { map.add entry with entries := map.entries + entry.entries + 1 }

end Extent

namespace Datum

mutual

def extent : Datum → Extent
  | .text value => ⟨0, 0, value.utf8ByteSize⟩
  | .array items => extentOfItems items
  | .map entries => extentOfEntries entries
  | _ => .none

def extentOfItems : List Datum → Extent
  | [] => .none
  | item :: rest => (extentOfItems rest).addItem (extent item)

def extentOfEntries : List (String × Datum) → Extent
  | [] => .none
  | (_, entry) :: rest => (extentOfEntries rest).addEntry (extent entry)

end

end Datum

/-- What a script may use up. Zero stands for no limit. -/
structure Allowance where
  operations : Nat
  textSize : Nat
  arraySize : Nat
  mapSize : Nat
  deriving Repr, DecidableEq

namespace Allowance

/-- Whether a size is beyond a limit. -/
def isBeyond (limit size : Nat) : Bool :=
  limit != 0 && limit < size

/-- What a size is too large in, if it is. -/
def excess? (allowance : Allowance) (extent : Extent) : Option RunCause :=
  if isBeyond allowance.textSize extent.bytes then some .textTooLong
  else if isBeyond allowance.arraySize extent.items then some .arrayTooLong
  else if isBeyond allowance.mapSize extent.entries then some .mapTooLarge
  else none

/-- A datum, unless it is too large. -/
def accept (allowance : Allowance) (datum : Datum) : Except RunCause Datum :=
  match allowance.excess? datum.extent with
  | some cause => .error cause
  | none => .ok datum

end Allowance

end ScriptBridge.Script
