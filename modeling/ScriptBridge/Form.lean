import ScriptBridge.Text.Percent
import ScriptBridge.Value

/-!
# Forms

Fields of a url-encoded form as a map of values. A field `tags[]` appends to a list, a field
`user[name]` puts an entry into a map, and any other field holds its last value. A list that gets a
named entry becomes a map from its positions.
-/

namespace ScriptBridge.Form

/-- Where a field goes. -/
inductive Target where
  | whole (field : String)
  | element (field : String)
  | entry (field name : String)
  deriving Repr, DecidableEq

namespace Target

def field : Target → String
  | .whole field | .element field | .entry field _ => field

/-- Splits `field[name]`: the field is not empty, and there is no other bracket. -/
def splitBrackets (key : List Char) : Option (List Char × List Char) :=
  match ScriptBridge.cutFirst? '[' key with
  | none => none
  | some (field, behind) =>
    if field.isEmpty then none
    else if behind.getLast? = some ']' then
      let name := behind.dropLast
      if name.contains '[' || name.contains ']' then none else some (field, name)
    else none

def ofKey (key : String) : Target :=
  match splitBrackets key.toList with
  | none => .whole key
  | some (field, []) => .element (String.ofList field)
  | some (field, name) => .entry (String.ofList field) (String.ofList name)

end Target

def indexed (items : List Value) : Table Value :=
  Table.ofPairs (items.zipIdx.map fun (item, i) => (toString i, item))

def appendTo (old : Option Value) (value : String) : Value :=
  match old with
  | some (.list items) => .list (items ++ [.str value])
  | some (.map entries) => .map (Table.insert (toString entries.length) (.str value) entries)
  | _ => .list [.str value]

def putInto (old : Option Value) (name value : String) : Value :=
  match old with
  | some (.list items) => .map (Table.insert name (.str value) (indexed items))
  | some (.map entries) => .map (Table.insert name (.str value) entries)
  | some _ => .map [(name, .str value)]
  | none => .map [(name, .str value)]

/-- What a field holds after a pair. -/
def update (old : Option Value) (target : Target) (value : String) : Value :=
  match target with
  | .whole _ => .str value
  | .element _ => appendTo old value
  | .entry _ name => putInto old name value

/-- Takes in a pair. One without a key is left out. -/
def insert (fields : Table Value) (pair : String × String) : Table Value :=
  if pair.1.isEmpty then fields
  else
    let target := Target.ofKey pair.1
    let old := Table.get? target.field fields
    Table.insert target.field (update old target pair.2) fields

def ofPairs (pairs : List (String × String)) : Table Value :=
  pairs.foldl insert .empty

def decode (data : Bytes) : Value :=
  .map (ofPairs (UrlEncoded.pairs data))

end ScriptBridge.Form
