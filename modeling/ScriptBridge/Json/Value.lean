/-!
# JSON values

Members of an object keep the order and the repetitions of the text they were read from. A number is
`whole` when it was written as an integer and `fractional` when it was written with a fraction, an
exponent, or as a negative zero.
-/

namespace ScriptBridge

/-- A JSON value as written. -/
inductive Json where
  | null
  | bool (value : Bool)
  | whole (value : Int)
  | fractional (written : String)
  | text (value : String)
  | list (items : List Json)
  | object (members : List (String × Json))
  /-- A text with half of a surrogate pair, or an object with such a name: there is no text of it
      but what is written. -/
  | unpaired (written : String)
  deriving Repr, BEq, Inhabited

namespace Json

/-- The last member of a name, if the value is an object that has one. -/
def get? (name : String) : Json → Option Json
  | .object members => (members.reverse.find? (·.1 == name)).map (·.2)
  | _ => none

/-- The last member of a name unless it is missing or null. -/
def present? (name : String) (json : Json) : Option Json :=
  match json.get? name with
  | some .null => none
  | found => found

/-- The text, if the value is one. -/
def asText? : Json → Option String
  | .text value => some value
  | _ => none

/-- The integer, if the value is one. -/
def asWhole? : Json → Option Int
  | .whole value => some value
  | _ => none

/-- The truth value, if the value is one. -/
def asBool? : Json → Option Bool
  | .bool value => some value
  | _ => none

/-- The items, if the value is a list. -/
def asList? : Json → Option (List Json)
  | .list items => some items
  | _ => none

/-- The members, if the value is an object. -/
def asMembers? : Json → Option (List (String × Json))
  | .object members => some members
  | _ => none

end Json

end ScriptBridge
