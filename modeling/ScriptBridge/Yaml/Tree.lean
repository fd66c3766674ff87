import ScriptBridge.Config.Document
import ScriptBridge.Yaml.Layout

/-!
# YAML documents

The tree that the tokens of a text stand for: blocks of items and of keys, lists in brackets, tables
in braces, and scalars. Where a node may stand and none does, there is nothing, which is an empty
scalar. A file holds one document.
-/

namespace ScriptBridge.Yaml

/-- A place where nothing is written. -/
def nothing : Document := .plain ""

/-- What reads a node from the tokens that are left. -/
abbrev NodeReader := List Token → Option (Document × List Token)

/-- Reads a node, unless one of some tokens comes first. -/
def readUnless (stops : List Token) (read : NodeReader) : NodeReader
  | [] => none
  | token :: rest =>
    if stops.contains token then some (nothing, token :: rest) else read (token :: rest)

/-- The table of members. One with a key that is no scalar can only be passed over. -/
def tableOf (members : List (Document × Document)) : Document :=
  match members.mapM fun (key, value) => key.text?.map fun name => (name, value) with
  | some named => .table named
  | none => .other

def readBlockItems (read : NodeReader) : Nat → List Document → NodeReader
  | 0, _, _ => none
  | fuel + 1, before, tokens =>
    match tokens with
    | .item :: rest => do
      let (item, rest) ← readUnless [.item, .blockEnd] read rest
      readBlockItems read fuel (item :: before) rest
    | .blockEnd :: rest => some (.list before.reverse, rest)
    | _ => none

/-- Reads items in the column of the key that holds them; anything but a dash ends them. -/
def readBareItems (read : NodeReader) : Nat → List Document → NodeReader
  | 0, _, _ => none
  | fuel + 1, before, tokens =>
    match tokens with
    | .item :: rest => do
      let (item, rest) ← readUnless [.item, .key, .value, .blockEnd] read rest
      readBareItems read fuel (item :: before) rest
    | rest => some (.list before.reverse, rest)

/-- Reads what a key of a block holds, if there is something. -/
def readHeld (read : NodeReader) : NodeReader
  | .value :: rest => readUnless [.key, .value, .blockEnd] read rest
  | tokens => some (nothing, tokens)

/-- Reads the keys of a block up to its end, each with its value. -/
def readBlockKeys (read : NodeReader) : Nat → List (Document × Document) → NodeReader
  | 0, _, _ => none
  | fuel + 1, before, tokens =>
    match tokens with
    | .key :: rest => do
      let (key, rest) ← readUnless [.key, .value, .blockEnd] read rest
      let (value, rest) ← readHeld read rest
      readBlockKeys read fuel ((key, value) :: before) rest
    | .blockEnd :: rest => some (tableOf before.reverse, rest)
    | _ => none

/-- Passes the comma that stands before all but the first of things between brackets. -/
def passComma (first : Bool) : List Token → Option (List Token)
  | .comma :: rest => if first then none else some rest
  | tokens => if first then some tokens else none

/-- Reads the value behind a key in brackets, if there is one. -/
def readFlowValue (close : Token) (read : NodeReader) : NodeReader
  | .value :: rest => readUnless [.comma, close] read rest
  | tokens => some (nothing, tokens)

/-- Reads the items of a list up to its bracket. A key among them is a table of its own. -/
def readListItems (read : NodeReader) : Nat → List Document → NodeReader
  | 0, _, _ => none
  | fuel + 1, before, tokens =>
    match tokens with
    | .listEnd :: rest => some (.list before.reverse, rest)
    | tokens => do
      match ← passComma before.isEmpty tokens with
      | .listEnd :: rest => some (.list before.reverse, rest)
      | .key :: rest => do
        let (key, rest) ← readUnless [.value, .comma, .listEnd] read rest
        let (value, rest) ← readFlowValue .listEnd read rest
        readListItems read fuel (tableOf [(key, value)] :: before) rest
      | tokens => do
        let (item, rest) ← read tokens
        readListItems read fuel (item :: before) rest

/-- Reads the members of a table up to its brace. A scalar without a colon is a key with nothing. -/
def readTableMembers (read : NodeReader) : Nat → List (Document × Document) → NodeReader
  | 0, _, _ => none
  | fuel + 1, before, tokens =>
    match tokens with
    | .tableEnd :: rest => some (tableOf before.reverse, rest)
    | tokens => do
      match ← passComma before.isEmpty tokens with
      | .tableEnd :: rest => some (tableOf before.reverse, rest)
      | .key :: rest => do
        let (key, rest) ← readUnless [.value, .comma, .tableEnd] read rest
        let (value, rest) ← readFlowValue .tableEnd read rest
        readTableMembers read fuel ((key, value) :: before) rest
      | tokens => do
        let (key, rest) ← read tokens
        readTableMembers read fuel ((key, nothing) :: before) rest

/-- Where a node stands. -/
inductive Position where
  | block
  /-- As a key or a value of a block, which may hold items in its own column. -/
  | held
  | flow
  deriving DecidableEq

/-- Reads a node that nests at most `depth` times. -/
def readNode : Nat → Position → NodeReader
  | 0, _, _ => none
  | depth + 1, position, tokens =>
    match tokens with
    | .plain written :: rest => some (.plain written, rest)
    | .quoted text :: rest => some (.text text, rest)
    | .listStart :: rest => readListItems (readNode depth .flow) tokens.length.succ [] rest
    | .tableStart :: rest => readTableMembers (readNode depth .flow) tokens.length.succ [] rest
    | .blockItems :: rest =>
      if position = .flow then none
      else readBlockItems (readNode depth .block) tokens.length.succ [] rest
    | .blockKeys :: rest =>
      if position = .flow then none
      else readBlockKeys (readNode depth .held) tokens.length.succ [] rest
    | .item :: rest =>
      if position = .held then
        readBareItems (readNode depth .block) tokens.length.succ [] (.item :: rest)
      else none
    | _ => none

def parse? (s : String) : Option Document := do
  let tokens ← tokens? s
  if tokens.isEmpty then some nothing
  else
    let (doc, rest) ←
      match tokens with
      | .documentStart :: .documentStart :: rest => some (nothing, .documentStart :: rest)
      | .documentStart :: .documentEnd :: rest => some (nothing, .documentEnd :: rest)
      | .documentStart :: [] => some (nothing, [])
      | .documentStart :: rest => readNode rest.length.succ .block rest
      | tokens => readNode tokens.length.succ .block tokens
    if rest.all (· == .documentEnd) then some doc else none

end ScriptBridge.Yaml
