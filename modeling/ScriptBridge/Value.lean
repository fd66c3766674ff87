import ScriptBridge.Json.Value
import ScriptBridge.Table

/-!
# Values for scripts

What a host hands to a script under a name: truth values, integers of 64 bits, texts, lists and
maps. `ofJson?` reads a value from JSON and `toJson` writes it; the kind of a value is not written,
it shows in the JSON itself.
-/

namespace ScriptBridge

/-- A value that a host hands to a script. -/
inductive Value where
  | bool (value : Bool)
  | int (value : Int64)
  | str (value : String)
  | list (items : List Value)
  | map (entries : List (String × Value))
  deriving Repr, BEq, Inhabited

namespace Value

/-- A map without entries. -/
def emptyMap : Value := .map []

def ofTexts (table : Table String) : Value :=
  .map (table.map fun (k, s) => (k, .str s))

/-- The text, if the value is one. -/
def asStr? : Value → Option String
  | .str value => some value
  | _ => none

/-- The entries, if the value is a map. -/
def asMap? : Value → Option (Table Value)
  | .map entries => some entries
  | _ => none

/-- The entry under a key, if the value is a map that has one. -/
def get? (key : String) (value : Value) : Option Value :=
  value.asMap?.bind (Table.get? key)

def kind : Value → String
  | .bool _ => "bool"
  | .int _ => "int"
  | .str _ => "str"
  | .list _ => "list"
  | .map _ => "map"

/-- The text that a value shows as. A list and a map show as their size. -/
def display : Value → String
  | .bool value => if value then "true" else "false"
  | .int value => toString value.toInt
  | .str value => value
  | .list items => "[" ++ toString items.length ++ " items]"
  | .map entries => "\x7b" ++ toString entries.length ++ " entries\x7d"

/-- Whether an integer has 64 bits. -/
def fitsInt64 (n : Int) : Bool :=
  -0x8000000000000000 ≤ n && n < 0x8000000000000000

mutual

/-- The value that JSON stands for. There is none for null, for a fraction or for an integer beyond
    64 bits, anywhere inside; of members of one name the last counts. -/
def ofJson? : Json → Option Value
  | .null => none
  | .bool value => some (.bool value)
  | .whole n => if fitsInt64 n then some (.int (Int64.ofInt n)) else none
  | .fractional _ | .unpaired _ => none
  | .text value => some (.str value)
  | .list items => (listOfJson? items).map .list
  | .object members => (pairsOfJson? members).map fun pairs => .map (Table.ofPairs pairs)

def listOfJson? : List Json → Option (List Value)
  | [] => some []
  | item :: rest => do
    let value ← ofJson? item
    let values ← listOfJson? rest
    some (value :: values)

def pairsOfJson? : List (String × Json) → Option (List (String × Value))
  | [] => some []
  | (name, member) :: rest => do
    let value ← ofJson? member
    let pairs ← pairsOfJson? rest
    some ((name, value) :: pairs)

end

mutual

def toJson : Value → Json
  | .bool value => .bool value
  | .int value => .whole value.toInt
  | .str value => .text value
  | .list items => .list (listToJson items)
  | .map entries => .object (pairsToJson entries)

def listToJson : List Value → List Json
  | [] => []
  | item :: rest => toJson item :: listToJson rest

def pairsToJson : List (String × Value) → List (String × Json)
  | [] => []
  | (key, entry) :: rest => (key, toJson entry) :: pairsToJson rest

end

end Value

end ScriptBridge
