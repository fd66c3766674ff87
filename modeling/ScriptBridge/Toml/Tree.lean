import ScriptBridge.Toml.Value

/-!
# TOML documents

A document is a run of lines: headers that open a table, headers that open an element of an array of
tables, and keys with values. No table may be opened twice, no name given twice, and what was given
as a value cannot be opened.
-/

namespace ScriptBridge.Toml

/-- How a table came about. -/
inductive Origin where
  | implied
  | header
  | dotted
  deriving DecidableEq

/-- What stands under a name while lines are read. -/
inductive Node where
  | value (doc : Document)
  | table (origin : Origin) (members : List (String × Node))
  /-- The elements of an array of tables, the last one first. -/
  | tables (elements : List (List (String × Node)))

abbrev Members := List (String × Node)

mutual

def Node.document : Node → Document
  | .value doc => doc
  | .table _ members => .table (Node.documents members)
  | .tables elements => .list (Node.elementDocuments elements).reverse

def Node.documents : List (String × Node) → List (String × Document)
  | [] => []
  | (name, node) :: rest => (name, node.document) :: Node.documents rest

def Node.elementDocuments : List (List (String × Node)) → List Document
  | [] => []
  | members :: rest => .table (Node.documents members) :: Node.elementDocuments rest

end

namespace Members

def get? (members : Members) (name : String) : Option Node :=
  (members.find? (·.1 == name)).map (·.2)

/-- Puts something under a name, in the place of what stands there. -/
def put (members : Members) (name : String) (node : Node) : Members :=
  if members.any (·.1 == name) then
    members.map fun (n, old) => if n == name then (n, node) else (n, old)
  else members ++ [(name, node)]

/-- Changes the table that the names of headers lead to. A missing table comes about on the way; of
    an array of tables the last element is meant. -/
def change (f : Members → Option Members) : List String → Members → Option Members
  | [], members => f members
  | name :: path, members =>
    match members.get? name with
    | none => do
      let inner ← change f path []
      some (members.put name (.table .implied inner))
    | some (.table origin inner) => do
      let inner ← change f path inner
      some (members.put name (.table origin inner))
    | some (.tables (last :: before)) => do
      let last ← change f path last
      some (members.put name (.tables (last :: before)))
    | some _ => none

def openTable (name : String) (members : Members) : Option Members :=
  match members.get? name with
  | none => some (members.put name (.table .header []))
  | some (.table .implied inner) => some (members.put name (.table .header inner))
  | some _ => none

def openElement (name : String) (members : Members) : Option Members :=
  match members.get? name with
  | none => some (members.put name (.tables [[]]))
  | some (.tables elements) => some (members.put name (.tables ([] :: elements)))
  | some _ => none

def putValue (doc : Document) (name : String) (members : Members) : Option Members :=
  match members.get? name with
  | none => some (members.put name (.value doc))
  | some _ => none

/-- Does something with the last name of a header in the table that the other names lead to. -/
def changeAt (f : String → Members → Option Members) (path : List String) (members : Members) :
    Option Members := do
  let name ← path.getLast?
  change (f name) path.dropLast members

/-- Puts a value under the parts of a key. On the way no table is entered that a header opened, and
    the table that takes the value has come of a key with points too. -/
def putDotted (doc : Document) : List String → Members → Option Members
  | [], _ => none
  | [name], members => members.putValue doc name
  | name :: part :: parts, members =>
    match members.get? name with
    | none => do
      let inner ← putDotted doc (part :: parts) []
      some (members.put name (.table .dotted inner))
    | some (.table origin inner) =>
      if origin = .header ∨ (parts = [] ∧ origin ≠ .dotted) then none
      else do
        let inner ← putDotted doc (part :: parts) inner
        some (members.put name (.table origin inner))
    | some (.tables (last :: before)) =>
      if parts = [] then none
      else do
        let last ← putDotted doc (part :: parts) last
        some (members.put name (.tables (last :: before)))
    | some _ => none

end Members

/-- What was read so far: all members, and the path of the open table. -/
structure Reading where
  root : Members
  current : List String

/-- Reads a header behind its opening brackets, up to the closing ones. -/
def readHeader (closing : List Char) (cs : List Char) : Option (List String × List Char) := do
  let (path, rest) ← readKey nestingLimit cs
  let rest := skipBlanks rest
  if closing.isPrefixOf rest then some (path, rest.drop closing.length) else none

/-- Takes in one line that is neither empty nor a comment. -/
def readLine (reading : Reading) (cs : List Char) : Option (Reading × List Char) :=
  match cs with
  | '[' :: '[' :: rest => do
    let (path, rest) ← readHeader [']', ']'] rest
    let root ← reading.root.changeAt Members.openElement path
    some (⟨root, path⟩, rest)
  | '[' :: rest => do
    let (path, rest) ← readHeader [']'] rest
    let root ← reading.root.changeAt Members.openTable path
    some (⟨root, path⟩, rest)
  | cs => do
    let (key, rest) ← readKey nestingLimit cs
    match skipBlanks rest with
    | '=' :: rest => do
      let (doc, rest) ← readValue nestingLimit (skipBlanks rest)
      let root ← reading.root.change (Members.putDotted doc key) reading.current
      some ({ reading with root }, rest)
    | _ => none

/-- Takes in lines up to the end; `fuel` bounds their number. -/
def readLines : Nat → Reading → List Char → Option Members
  | 0, _, _ => none
  | fuel + 1, reading, cs => do
    match ← skipLines cs.length.succ cs with
    | [] => some reading.root
    | cs => do
      let (reading, rest) ← readLine reading cs
      let rest ← skipComment (skipBlanks rest)
      let rest ← readLineEnd rest
      readLines fuel reading rest

def parse? (s : String) : Option Document := do
  let cs := match s.toList with
    | '\uFEFF' :: rest => rest
    | cs => cs
  let members ← readLines cs.length.succ ⟨[], []⟩ cs
  some (.table (Node.documents members))

end ScriptBridge.Toml
