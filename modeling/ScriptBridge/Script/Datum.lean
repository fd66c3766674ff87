import ScriptBridge.Script.Decimal
import ScriptBridge.Text.Quoted
import ScriptBridge.Value

/-!
# Data of scripts

What a script works on. `display` is the text of a datum as it is written out, `inspect` the text
that it has within a list or a map. Texts that are put together take `shown` instead, which leaves
characters within lists and maps bare.
-/

namespace ScriptBridge.Script

/-- A datum of a script. -/
inductive Datum where
  | unit
  | bool (value : Bool)
  | int (value : Int64)
  | decimal (value : Decimal)
  | char (value : Char)
  | text (value : String)
  | array (items : List Datum)
  | map (entries : List (String × Datum))
  /-- The integers from `low` up to `high`, without it unless it is `inclusive`. -/
  | range (low high : Int64) (inclusive : Bool)
  deriving Repr, Inhabited

namespace Datum

def typeName : Datum → String
  | .unit => "()"
  | .bool _ => "bool"
  | .int _ => "i64"
  | .decimal _ => "f64"
  | .char _ => "char"
  | .text _ => "string"
  | .array _ => "array"
  | .map _ => "map"
  | .range _ _ inclusive => if inclusive then "range=" else "range"

/-- The type of a datum as an argument of a function: texts have three names. -/
def argumentType : Datum → String
  | .text _ => "&str | ImmutableString | String"
  | datum => datum.typeName

def quotedChar (c : Char) : String :=
  let inner := match c with
    | '\'' => "\\'"
    | '"' => "\""
    | c => Text.escaped c
  "'" ++ inner ++ "'"

/-- The text of a range, which leaves out a bound that no integer is beyond. -/
def rangeText (low high : Int64) (inclusive : Bool) : String :=
  toString low.toInt ++ (if inclusive then "..=" else "..") ++
    (if high = Int64.maxValue then "" else toString high.toInt)

mutual

def inspect : Datum → String
  | .unit => "()"
  | .bool value => if value then "true" else "false"
  | .int value => toString value.toInt
  | .decimal value => value.render
  | .char value => quotedChar value
  | .text value => Text.quoted value
  | .array items => "[" ++ String.intercalate ", " (inspectItems items) ++ "]"
  | .map entries => "#\x7b" ++ String.intercalate ", " (inspectEntries entries) ++ "\x7d"
  | .range low high inclusive => rangeText low high inclusive

def inspectItems : List Datum → List String
  | [] => []
  | item :: rest => inspect item :: inspectItems rest

def inspectEntries : List (String × Datum) → List String
  | [] => []
  | (key, entry) :: rest => (Text.quoted key ++ ": " ++ inspect entry) :: inspectEntries rest

end

def display : Datum → String
  | .unit => ""
  | .char value => value.toString
  | .text value => value
  | datum => datum.inspect

mutual

/-- The text of a datum within a list or a map that becomes part of a text. -/
def bare : Datum → String
  | .char value => value.toString
  | .array items => "[" ++ String.intercalate ", " (bareItems items) ++ "]"
  | .map entries => "#\x7b" ++ String.intercalate ", " (bareEntries entries) ++ "\x7d"
  | datum => datum.inspect

def bareItems : List Datum → List String
  | [] => []
  | item :: rest => bare item :: bareItems rest

def bareEntries : List (String × Datum) → List String
  | [] => []
  | (key, entry) :: rest => (Text.quoted key ++ ": " ++ bare entry) :: bareEntries rest

end

def shown : Datum → String
  | .unit => ""
  | .text value => value
  | datum => datum.bare

/-- Whether a character is all of a text. -/
def isText (c : Char) (s : String) : Bool :=
  s.toList == [c]

mutual

/-- Whether two data are equal. Data of different types are not, but a character equals the text of
    it, and a decimal can be a whole number. -/
def equals : Datum → Datum → Bool
  | .unit, .unit => true
  | .bool a, .bool b => a == b
  | .int a, .int b => a == b
  | .decimal a, .decimal b => a.order? b == some .eq
  | .int a, .decimal b => (Decimal.ofInt a.toInt).order? b == some .eq
  | .decimal a, .int b => a.order? (.ofInt b.toInt) == some .eq
  | .char a, .char b => a == b
  | .text a, .text b => a == b
  | .char a, .text b => isText a b
  | .text a, .char b => isText b a
  | .array as, .array bs => equalItems as bs
  | .map as, .map bs => equalEntries as bs
  | .range low high inclusive, .range low' high' inclusive' =>
    low == low' && high == high' && inclusive == inclusive'
  | _, _ => false

def equalItems : List Datum → List Datum → Bool
  | [], [] => true
  | a :: as, b :: bs => equals a b && equalItems as bs
  | _, _ => false

def equalEntries : List (String × Datum) → List (String × Datum) → Bool
  | [], [] => true
  | (k, a) :: as, (l, b) :: bs => k == l && equals a b && equalEntries as bs
  | _, _ => false

end

mutual

def ofValue : Value → Datum
  | .bool value => .bool value
  | .int value => .int value
  | .str value => .text value
  | .list items => .array (ofItems items)
  | .map entries => .map (ofEntries entries)

def ofItems : List Value → List Datum
  | [] => []
  | item :: rest => ofValue item :: ofItems rest

def ofEntries : List (String × Value) → List (String × Datum)
  | [] => []
  | (key, entry) :: rest => (key, ofValue entry) :: ofEntries rest

end

/-- The integer of a number that fits into 64 bits. -/
def ofInt? (n : Int) : Option Datum :=
  if Value.fitsInt64 n then some (.int (Int64.ofInt n)) else none

def ofCount (n : Nat) : Datum :=
  .int (Int64.ofNat n)

end Datum

end ScriptBridge.Script
