import ScriptBridge.Json.Value

/-!
# Writing JSON

Two layouts of the same text: `compress` puts no blank anywhere, `pretty` puts each item and member
on a line of its own, two spaces further in than what holds it. Between quotes only the quote, the
backslash and the control characters are escaped.
-/

namespace ScriptBridge.Json

def hexDigit (n : Nat) : Char :=
  Nat.digitChar (n % 16)

def escapeChar (c : Char) : List Char :=
  match c with
  | '"' => ['\\', '"']
  | '\\' => ['\\', '\\']
  | '\x08' => ['\\', 'b']
  | '\x0C' => ['\\', 'f']
  | '\n' => ['\\', 'n']
  | '\r' => ['\\', 'r']
  | '\t' => ['\\', 't']
  | c =>
    if c.toNat < 0x20 then ['\\', 'u', '0', '0', hexDigit (c.toNat / 16), hexDigit c.toNat]
    else [c]

def quote (s : String) : String :=
  String.ofList ('"' :: s.toList.flatMap escapeChar ++ ['"'])

mutual

/-- The text of a value without blanks. -/
def compress : Json → String
  | .null => "null"
  | .bool value => if value then "true" else "false"
  | .whole value => toString value
  | .fractional written | .unpaired written => written
  | .text value => quote value
  | .list items => "[" ++ ",".intercalate (compressItems items) ++ "]"
  | .object members => "\x7b" ++ ",".intercalate (compressMembers members) ++ "\x7d"

def compressItems : List Json → List String
  | [] => []
  | item :: rest => compress item :: compressItems rest

def compressMembers : List (String × Json) → List String
  | [] => []
  | (name, member) :: rest => (quote name ++ ":" ++ compress member) :: compressMembers rest

end

def indent (depth : Nat) : String :=
  String.ofList (List.replicate (2 * depth) ' ')

/-- Lines between brackets, one step further in than the brackets. -/
def bracketed (opening closing : String) (depth : Nat) (lines : List String) : String :=
  if lines.isEmpty then opening ++ closing
  else
    opening ++ "\n" ++ ",\n".intercalate (lines.map (indent (depth + 1) ++ ·)) ++ "\n" ++
      indent depth ++ closing

mutual

/-- The text of a value whose brackets stand `depth` steps in. -/
def prettyAt (depth : Nat) : Json → String
  | .null => "null"
  | .bool value => if value then "true" else "false"
  | .whole value => toString value
  | .fractional written | .unpaired written => written
  | .text value => quote value
  | .list items => bracketed "[" "]" depth (prettyItems (depth + 1) items)
  | .object members => bracketed "\x7b" "\x7d" depth (prettyMembers (depth + 1) members)

def prettyItems (depth : Nat) : List Json → List String
  | [] => []
  | item :: rest => prettyAt depth item :: prettyItems depth rest

def prettyMembers (depth : Nat) : List (String × Json) → List String
  | [] => []
  | (name, member) :: rest =>
    (quote name ++ ": " ++ prettyAt depth member) :: prettyMembers depth rest

end

def pretty (json : Json) : String :=
  prettyAt 0 json

end ScriptBridge.Json
