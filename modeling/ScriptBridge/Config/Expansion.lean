import ScriptBridge.Table

/-!
# References to variables

A configuration text may refer to variables as `${NAME}` or `${NAME:-default}`. Expansion goes once
through the text from left to right; what it puts in is not looked at again, and what looks like a
reference but is none stays as it is.
-/

namespace ScriptBridge.Expansion

/-- A reference to a variable. -/
structure Reference where
  name : List Char
  fallback : Option (List Char)
  deriving Repr, DecidableEq

/-- A character that the name of a variable may start with. -/
def isNameStart (c : Char) : Bool :=
  c.isAlpha || c == '_'

def isNameChar (c : Char) : Bool :=
  c.isAlphanum || c == '_'

/-- Cuts a text at the first closing brace. -/
def cutBrace : List Char → Option (List Char × List Char)
  | [] => none
  | '\x7d' :: rest => some ([], rest)
  | c :: rest => (cutBrace rest).map fun (inside, behind) => (c :: inside, behind)

/-- Reads the name of a reference behind its opening brace. -/
def readName (cs : List Char) : Option (List Char × List Char) :=
  match cs with
  | [] => none
  | c :: _ =>
    if isNameStart c then some (cs.takeWhile isNameChar, cs.dropWhile isNameChar) else none

/-- Reads a reference behind its dollar sign, with how many characters it has. -/
def readReference (cs : List Char) : Option (Reference × List Char) :=
  match cs with
  | '\x7b' :: cs => do
    let (name, rest) ← readName cs
    match rest with
    | '\x7d' :: rest => some (⟨name, none⟩, rest)
    | ':' :: '-' :: rest => do
      let (fallback, rest) ← cutBrace rest
      some (⟨name, some fallback⟩, rest)
    | _ => none
  | _ => none

/-- Why a text cannot be expanded: a variable without a value and without a default. -/
structure Fault where
  name : String
  deriving Repr, DecidableEq

def Fault.message (fault : Fault) : String :=
  "Environment variable '" ++ fault.name ++ "' not set and no default provided"

/-- What a reference stands for: the value of its variable, even an empty one, or its default. -/
def Reference.value (vars : Table String) (reference : Reference) : Except Fault (List Char) :=
  let name := String.ofList reference.name
  match Table.get? name vars, reference.fallback with
  | some value, _ => .ok value.toList
  | none, some fallback => .ok fallback
  | none, none => .error ⟨name⟩

/-- A text as pieces: characters that stay and references. -/
inductive Piece where
  | char (c : Char)
  | reference (reference : Reference)
  deriving Repr, DecidableEq

/-- The pieces of a text; `fuel` bounds their number. -/
def pieces : Nat → List Char → List Piece
  | 0, _ => []
  | _, [] => []
  | fuel + 1, '$' :: rest =>
    match readReference rest with
    | some (reference, rest) => .reference reference :: pieces fuel rest
    | none => .char '$' :: pieces fuel rest
  | fuel + 1, c :: rest => .char c :: pieces fuel rest

/-- The pieces put together, with values for references. -/
def assemble (vars : Table String) : List Piece → Except Fault (List Char)
  | [] => .ok []
  | .char c :: rest => do
    let behind ← assemble vars rest
    .ok (c :: behind)
  | .reference reference :: rest => do
    let value ← reference.value vars
    let behind ← assemble vars rest
    .ok (value ++ behind)

def expand (vars : Table String) (s : String) : Except Fault String :=
  (assemble vars (pieces s.length s.toList)).map String.ofList

end ScriptBridge.Expansion
