import ScriptBridge.Text.Blank
import ScriptBridge.Text.CodePoint
import ScriptBridge.Text.Letter

/-!
# Patterns of field values

A log filter may ask for the value of a field by a regular expression. Only whether a text is one
matters here: groups and classes are closed, every repetition has something to repeat, and every
escape is known. A directive takes a closing brace as the end of its fields, so no pattern holds
one, and whatever needs a closing brace is no pattern. Boundaries of words are allowed between bytes
only, and nothing may match bytes that are not text.
-/

namespace ScriptBridge.Pattern

/-- How a part of a pattern is read. -/
structure Mode where
  spaced : Bool
  /-- The pattern speaks of characters and not of bytes. -/
  unicode : Bool
  deriving Repr, DecidableEq

/-- What an escape stands for. -/
inductive Escape where
  | literal (c : Char)
  | charClass
  | assertion
  deriving Repr, DecidableEq

def skip (mode : Mode) : Nat → List Char → List Char
  | 0, cs => cs
  | fuel + 1, cs =>
    if mode.spaced then
      match cs.dropWhile Text.isBlank with
      | '#' :: rest => skip mode fuel (rest.dropWhile (· != '\n'))
      | rest => rest
    else cs

/-- The punctuation that may stand behind a backslash. -/
def isPunctuation (c : Char) : Bool :=
  c.toNat < 0x80 && !c.isAlphanum && c != '<' && c != '>'

/-- The general categories of characters by their first letter. -/
def categories : List Char :=
  ['c', 'l', 'm', 'n', 'p', 's', 'z']

/-- Reads a character given by so many digits of its code point. -/
def readCodePoint (count : Nat) (cs : List Char) : Option (Char × List Char) := do
  if cs.length < count then none
  let c ← Text.charOf? (← Text.hexNumber? (cs.take count))
  some (c, cs.drop count)

/-- Reads an escape behind its backslash. -/
def readEscape (mode : Mode) : List Char → Option (Escape × List Char)
  | [] => none
  | 'x' :: rest => do
    let (c, rest) ← readCodePoint 2 rest
    if mode.unicode || c.toNat < 0x80 then some (.literal c, rest) else none
  | 'u' :: rest => (readCodePoint 4 rest).map fun (c, rest) => (.literal c, rest)
  | 'U' :: rest => (readCodePoint 8 rest).map fun (c, rest) => (.literal c, rest)
  | c :: rest =>
    if c == 'p' || c == 'P' then
      match rest with
      | name :: rest =>
        if mode.unicode && categories.contains name.toLower then some (.charClass, rest) else none
      | [] => none
    else if c == 'd' || c == 's' || c == 'w' then some (.charClass, rest)
    else if c == 'D' || c == 'S' || c == 'W' then
      if mode.unicode then some (.charClass, rest) else none
    else if c == 'A' || c == 'z' then some (.assertion, rest)
    else if c == 'b' || c == 'B' || c == '<' || c == '>' then
      if mode.unicode then none else some (.assertion, rest)
    else
      match [('a', '\x07'), ('f', '\x0C'), ('t', '\t'), ('n', '\n'), ('r', '\r'),
          ('v', '\x0B')].lookup c with
      | some literal => some (.literal literal, rest)
      | none => if isPunctuation c then some (.literal c, rest) else none

def classNames : List String :=
  ["alnum", "alpha", "ascii", "blank", "cntrl", "digit", "graph", "lower", "print", "punct",
   "space", "upper", "word", "xdigit"]

/-- Reads a class with a name behind its bracket. -/
def readNamedClass (mode : Mode) : List Char → Option (List Char)
  | ':' :: rest =>
    let negated := rest.head? == some '^'
    let rest := if negated then rest.drop 1 else rest
    let name := String.ofList (rest.takeWhile (· != ':'))
    match rest.dropWhile (· != ':') with
    | ':' :: ']' :: rest =>
      if classNames.contains name && (mode.unicode || !negated) then some rest else none
    | _ => none
  | _ => none

/-- Reads the start of a class behind its bracket: a caret that negates it, dashes, and a bracket
    that closes nothing since it comes first. -/
def openClass (mode : Mode) (cs : List Char) : Option (List Char) :=
  let cs := skip mode cs.length cs
  let negated := cs.head? == some '^'
  let cs := if negated then skip mode cs.length (cs.drop 1) else cs
  if negated && !mode.unicode then none
  else
    match cs with
    | '-' :: rest => some (rest.dropWhile (· == '-'))
    | ']' :: rest => some rest
    | cs => some cs

/-- Reads one character or one class among the items of a class. -/
def readItem (mode : Mode) : List Char → Option (Escape × List Char)
  | [] => none
  | '\\' :: rest => do
    let (item, rest) ← readEscape mode rest
    if item = .assertion then none else some (item, rest)
  | c :: rest => if mode.unicode || c.toNat < 0x80 then some (.literal c, rest) else none

/-- Reads an item of a class, or a range between two characters. -/
def readRange (mode : Mode) (cs : List Char) : Option (List Char) := do
  let (low, rest) ← readItem mode cs
  let rest := skip mode rest.length rest
  match rest with
  | '-' :: behind =>
    let behind := skip mode behind.length behind
    match behind with
    | ']' :: _ => some rest
    | '-' :: _ => some rest
    | behind => do
      let (high, behind) ← readItem mode behind
      match low, high with
      | .literal low, .literal high => if low ≤ high then some behind else none
      | _, _ => none
  | rest => some rest

/-- Reads a class up to the bracket that closes it; `depth` classes are open around the present one.
    -/
def readClass (mode : Mode) : Nat → Nat → List Char → Option (List Char)
  | 0, _, _ => none
  | fuel + 1, depth, cs =>
    match skip mode cs.length cs with
    | [] => none
    | '[' :: rest =>
      match readNamedClass mode rest with
      | some rest => readClass mode fuel depth rest
      | none => (openClass mode rest).bind (readClass mode fuel (depth + 1))
    | ']' :: rest => if depth = 0 then some rest else readClass mode fuel (depth - 1) rest
    | '&' :: '&' :: rest => readClass mode fuel depth rest
    | '-' :: '-' :: rest => readClass mode fuel depth rest
    | '~' :: '~' :: rest => readClass mode fuel depth rest
    | cs => (readRange mode cs).bind (readClass mode fuel depth)

/-- The flags of groups, and the dash that turns those behind it off. -/
def groupFlags : List Char := ['i', 'm', 's', 'U', 'u', 'R', 'x', '-']

/-- Reads flags up to the colon or the bracket behind them: those read, the mode that they lead to,
    and the rest. No flag is given twice, and a dash stands before a flag. -/
def readFlags (before : List Char) (mode : Mode) :
    List Char → Option (List Char × Mode × List Char)
  | [] => none
  | c :: rest =>
    if c == ':' || c == ')' then
      if before.head? == some '-' then none else some (before, mode, c :: rest)
    else if before.contains c || !groupFlags.contains c then none
    else
      let on := !before.contains '-'
      let mode :=
        if c == 'u' then { mode with unicode := on }
        else if c == 'x' then { mode with spaced := on }
        else mode
      readFlags (c :: before) mode rest

/-- Reads the name of a group up to the bracket behind it. -/
def readName (cs : List Char) : Option (List Char × List Char) :=
  let name := cs.takeWhile (· != '>')
  match name, cs.dropWhile (· != '>') with
  | first :: others, _ :: rest =>
    let isFirst := first == '_' || (Text.isAlphanumeric first && !first.isDigit)
    let isOther := fun c => c == '_' || c == '.' || c == '[' || c == ']' || Text.isAlphanumeric c
    if isFirst && others.all isOther then some (name, rest) else none
  | _, _ => none

/-- What was read of a pattern. -/
structure Reading where
  mode : Mode
  /-- The modes around the open groups, the innermost first. -/
  outer : List Mode
  names : List (List Char)
  repeatable : Bool

/-- Reads what opens a group behind its bracket. -/
def openGroup (reading : Reading) (cs : List Char) : Option (Reading × List Char) :=
  let inside := { reading with outer := reading.mode :: reading.outer, repeatable := false }
  let named := fun cs => do
    let (name, rest) ← readName cs
    if reading.names.contains name then none
    else some ({ inside with names := name :: reading.names }, rest)
  match skip reading.mode cs.length cs with
  | '?' :: '=' :: _ => none
  | '?' :: '!' :: _ => none
  | '?' :: '<' :: '=' :: _ => none
  | '?' :: '<' :: '!' :: _ => none
  | '?' :: 'P' :: '<' :: rest => named rest
  | '?' :: '<' :: rest => named rest
  | '?' :: rest => do
    let (flags, mode, rest) ← readFlags [] reading.mode rest
    match rest with
    | ':' :: rest => some ({ inside with mode }, rest)
    | rest =>
      if flags.isEmpty then none
      else some ({ reading with mode, repeatable := false }, rest.drop 1)
  | rest => some (inside, rest)

/-- Reads one part of a pattern that is not at its end. -/
def readPart (reading : Reading) : List Char → Option (Reading × List Char)
  | [] => none
  | '(' :: rest => openGroup reading rest
  | ')' :: rest =>
    match reading.outer with
    | mode :: outer => some ({ reading with mode, outer, repeatable := true }, rest)
    | [] => none
  | '|' :: rest => some ({ reading with repeatable := false }, rest)
  | '[' :: rest => do
    let rest ← openClass reading.mode rest
    let rest ← readClass reading.mode rest.length.succ 0 rest
    some ({ reading with repeatable := true }, rest)
  | '\x7b' :: _ => none
  | '\\' :: rest => do
    let (_, rest) ← readEscape reading.mode rest
    some ({ reading with repeatable := true }, rest)
  | '.' :: rest =>
    if reading.mode.unicode then some ({ reading with repeatable := true }, rest) else none
  | c :: rest =>
    if c == '?' || c == '*' || c == '+' then
      if reading.repeatable then
        some (reading, if rest.head? == some '?' then rest.drop 1 else rest)
      else none
    else some ({ reading with repeatable := true }, rest)

/-- Reads parts up to the end; `fuel` bounds their number. -/
def readParts : Nat → Reading → List Char → Option Reading
  | 0, _, _ => none
  | fuel + 1, reading, cs =>
    match skip reading.mode cs.length cs with
    | [] => some reading
    | cs => (readPart reading cs).bind fun (reading, rest) => readParts fuel reading rest

def isPattern (cs : List Char) : Bool :=
  (readParts cs.length.succ ⟨⟨false, true⟩, [], [], false⟩ cs).any fun reading =>
    reading.outer.isEmpty

end ScriptBridge.Pattern
