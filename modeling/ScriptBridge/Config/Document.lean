import ScriptBridge.Json.Value
import ScriptBridge.Text.CodePoint

/-!
# Documents

What the three formats of configuration files have in common: a tree of scalars, lists and tables.
Members of a table keep their order and their repetitions.
-/

namespace ScriptBridge

/-- The tree of a configuration file. -/
inductive Document where
  | null
  | bool (value : Bool)
  | whole (value : Int)
  /-- Something that no setting takes: a fraction, a date, half of a character. -/
  | other
  | text (value : String)
  /-- A scalar without quotes, whose kind is up to who reads it. -/
  | plain (written : String)
  | list (items : List Document)
  | table (members : List (String × Document))
  deriving Repr, Inhabited

namespace Document

mutual

def ofJson : Json → Document
  | .null => .null
  | .bool value => .bool value
  | .whole value => .whole value
  | .fractional _ | .unpaired _ => .other
  | .text value => .text value
  | .list items => .list (ofJsonItems items)
  | .object members => .table (ofJsonMembers members)

def ofJsonItems : List Json → List Document
  | [] => []
  | item :: rest => ofJson item :: ofJsonItems rest

def ofJsonMembers : List (String × Json) → List (String × Document)
  | [] => []
  | (name, member) :: rest => (name, ofJson member) :: ofJsonMembers rest

end

/-- The unsigned integer that a scalar without quotes writes: decimal without a leading zero, or in
    base 16, 8 or 2 behind `0x`, `0o` or `0b`. -/
def plainNat? (written : String) : Option Nat :=
  let cs := match written.toList with
    | '+' :: rest => rest
    | cs => cs
  match cs with
  | '0' :: 'x' :: digits => Text.readRadix? 16 digits
  | '0' :: 'o' :: digits => Text.readRadix? 8 digits
  | '0' :: 'b' :: digits => Text.readRadix? 2 digits
  | '0' :: _ :: _ => none
  | digits => Text.readRadix? 10 digits

/-- The integer from 0 to `limit` that a document is. -/
def nat? (limit : Nat) (doc : Document) : Option Nat :=
  let n := match doc with
    | .whole value => if 0 ≤ value then some value.toNat else none
    | .plain written => plainNat? written
    | _ => none
  n.filter (· ≤ limit)

def bool? : Document → Option Bool
  | .bool value => some value
  | .plain written =>
    if written = "true" ∨ written = "True" ∨ written = "TRUE" then some true
    else if written = "false" ∨ written = "False" ∨ written = "FALSE" then some false
    else none
  | _ => none

/-- The text that a document is. A scalar without quotes is its own text. -/
def text? : Document → Option String
  | .text value => some value
  | .plain written => some written
  | _ => none

/-- The members of a document that is a table; an empty scalar has none. -/
def members? : Document → Option (List (String × Document))
  | .table members => some members
  | .plain "" => some []
  | _ => none

end Document

end ScriptBridge
