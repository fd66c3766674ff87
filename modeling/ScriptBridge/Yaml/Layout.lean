import ScriptBridge.Yaml.Scalar

/-!
# The layout of YAML documents

A text as a list of tokens, in which the columns of the lines have become tokens too: blocks of
items and of keys open where a greater column starts and end before a smaller one. That a scalar is
a key shows only at the colon behind it, so every place where a key could start is remembered, and
the tokens that a key begins with are put in there when the colon comes.
-/

namespace ScriptBridge.Yaml

/-- A part of a document. -/
inductive Token where
  | documentStart
  | documentEnd
  | blockItems
  | blockKeys
  | blockEnd
  | listStart
  | listEnd
  | tableStart
  | tableEnd
  | item
  | comma
  | key
  | value
  | plain (written : String)
  | quoted (text : String)
  deriving Repr, DecidableEq

/-- A place where a key may have started. -/
structure PossibleKey where
  /-- Whether nothing else can stand there. -/
  required : Bool
  /-- How many tokens are before it. -/
  number : Nat
  place : Place

def longestKey : Nat := 1024

/-- What was read of a text. -/
structure Layout where
  cursor : Cursor
  /-- The tokens, the last one first. -/
  tokens : List Token
  /-- The column of the innermost block; outside all blocks it is -1. -/
  indent : Int
  outer : List Int
  keyAllowed : Bool
  key : Option PossibleKey
  /-- Where a key may have started, for each open bracket, the innermost first. -/
  flowKeys : List (Option PossibleKey)

namespace Layout

def start (cs : List Char) : Layout :=
  ⟨.start cs, [], -1, [], true, none, []⟩

def inFlow (layout : Layout) : Bool :=
  !layout.flowKeys.isEmpty

def possibleKey (layout : Layout) : Option PossibleKey :=
  match layout.flowKeys with
  | key :: _ => key
  | [] => layout.key

/-- Remembers where a key may have started on the present level. -/
def setPossibleKey (key : Option PossibleKey) (layout : Layout) : Layout :=
  match layout.flowKeys with
  | _ :: outer => { layout with flowKeys := key :: outer }
  | [] => { layout with key }

def push (token : Token) (layout : Layout) : Layout :=
  { layout with tokens := token :: layout.tokens }

/-- Puts tokens in behind the first `number` ones. -/
def insert (number : Nat) (tokens : List Token) (layout : Layout) : Layout :=
  let behind := layout.tokens.length - number
  { layout with
    tokens := layout.tokens.take behind ++ tokens.reverse ++ layout.tokens.drop behind }

/-- Adds a token of so many characters. -/
def take (width : Nat) (token : Token) (layout : Layout) : Layout :=
  { layout with cursor := layout.cursor.skip width, tokens := token :: layout.tokens }

/-- Whether a key that started at a place would have come to its end: it stands on one line and is
    not too long. -/
def isStale (key : PossibleKey) (layout : Layout) : Bool :=
  key.place.line < layout.cursor.line || key.place.index + longestKey < layout.cursor.index

/-- Forgets a place where a key may have started. It is a fault if one had to be there. -/
def forget : Option PossibleKey → Option (Option PossibleKey)
  | some key => if key.required then none else some none
  | none => some none

/-- Forgets the places of keys that have not come to their colon in time. -/
def dropStale (layout : Layout) : Option Layout := do
  let fresh := fun (key : Option PossibleKey) =>
    if key.any layout.isStale then forget key else some key
  let key ← fresh layout.key
  let flowKeys ← layout.flowKeys.mapM fresh
  some { layout with key, flowKeys }

/-- Forgets where a key may have started on the present level. -/
def forgetKey (layout : Layout) : Option Layout := do
  let key ← forget layout.possibleKey
  some (layout.setPossibleKey key)

def saveKey (layout : Layout) : Option Layout :=
  if layout.keyAllowed then do
    let required := !layout.inFlow && layout.indent == layout.cursor.column
    let layout ← layout.forgetKey
    some (layout.setPossibleKey (some ⟨required, layout.tokens.length, layout.cursor.toPlace⟩))
  else some layout

/-- Ends the blocks in columns behind `column`, as many of them as `outer` names at most. -/
def closeBlocks (column : Int) : Int → List Int → List Token → Int × List Int × List Token
  | indent, [], tokens => (indent, [], tokens)
  | indent, before :: outer, tokens =>
    if column < indent then closeBlocks column before outer (.blockEnd :: tokens)
    else (indent, before :: outer, tokens)

/-- Ends the blocks in columns behind `column`. -/
def unroll (column : Int) (layout : Layout) : Layout :=
  if layout.inFlow then layout
  else
    let (indent, outer, tokens) :=
      closeBlocks column layout.indent layout.outer layout.tokens
    { layout with indent, outer, tokens }

/-- Opens a block in a column, if it is behind that of the present block. The token goes behind the
    first `number` ones. -/
def roll (column number : Nat) (token : Token) (layout : Layout) : Layout :=
  if !layout.inFlow && layout.indent < column then
    { layout with indent := column, outer := layout.indent :: layout.outer }.insert number [token]
  else layout

def rollHere (token : Token) (layout : Layout) : Layout :=
  layout.roll layout.cursor.column layout.tokens.length token

/-- Passes blanks, comments and line ends; `fuel` bounds them. Outside brackets a key may start on
    every new line, and where it may no tab is a blank. A mark of byte order may start a line. -/
def skipToToken : Nat → Layout → Layout
  | 0, layout => layout
  | fuel + 1, layout =>
    match layout.cursor.rest with
    | [] => layout
    | c :: _ =>
      let passed := { layout with cursor := layout.cursor.next }
      if c == '\uFEFF' && layout.cursor.column == 0 then skipToToken fuel passed
      else if c == ' ' || (c == '\t' && (layout.inFlow || !layout.keyAllowed)) then
        skipToToken fuel passed
      else if c == '#' then skipToToken fuel { layout with cursor := layout.cursor.skipLine }
      else if isBreak c then
        let cursor := layout.cursor.passBreak.2
        skipToToken fuel { layout with cursor, keyAllowed := layout.keyAllowed || !layout.inFlow }
      else layout

def readSeparator (token : Token) (layout : Layout) : Option Layout := do
  let layout ← (layout.unroll (-1)).forgetKey
  some ({ layout with keyAllowed := false }.take 3 token)

/-- Takes an opening bracket. It may start a key, and a key may start behind it. -/
def readOpening (token : Token) (layout : Layout) : Option Layout := do
  let layout ← layout.saveKey
  some ({ layout with keyAllowed := true, flowKeys := none :: layout.flowKeys }.take 1 token)

def readClosing (token : Token) (layout : Layout) : Option Layout := do
  let layout ← layout.forgetKey
  some ({ layout with keyAllowed := false, flowKeys := layout.flowKeys.drop 1 }.take 1 token)

def readComma (layout : Layout) : Option Layout := do
  let layout ← layout.forgetKey
  some ({ layout with keyAllowed := true }.take 1 .comma)

/-- Opens a block here if needed; outside brackets that is allowed only where a key is. -/
def openHere (token : Token) (layout : Layout) : Option Layout :=
  if layout.inFlow then some layout
  else if layout.keyAllowed then some (layout.rollHere token)
  else none

def readItem (layout : Layout) : Option Layout := do
  let layout ← (← layout.openHere .blockItems).forgetKey
  some ({ layout with keyAllowed := true }.take 1 .item)

/-- Takes a question mark, behind which a key of any kind stands. -/
def readKeyMark (layout : Layout) : Option Layout := do
  let layout ← (← layout.openHere .blockKeys).forgetKey
  some ({ layout with keyAllowed := !layout.inFlow }.take 1 .key)

/-- Takes a colon. What stands before it is a key, if one may have started. -/
def readColon (layout : Layout) : Option Layout :=
  match layout.possibleKey with
  | some key =>
    let layout := layout.setPossibleKey none
    let layout := (layout.insert key.number [.key]).roll key.place.column key.number .blockKeys
    some ({ layout with keyAllowed := false }.take 1 .value)
  | none => do
    let layout ← layout.openHere .blockKeys
    some ({ layout with keyAllowed := !layout.inFlow }.take 1 .value)

def readQuotedToken (quote : Char) (layout : Layout) : Option Layout := do
  let layout ← layout.saveKey
  let (text, cursor) ← readQuoted quote layout.cursor
  some ({ layout with cursor, keyAllowed := false }.push (.quoted text))

/-- Takes a scalar without quotes. If a line end stands behind it, a key may follow. -/
def readPlainToken (layout : Layout) : Option Layout := do
  let layout ← layout.saveKey
  let indent := (layout.indent + 1).toNat
  let (written, keyAllowed, cursor) ← readPlain layout.inFlow indent layout.cursor
  some ({ layout with cursor, keyAllowed }.push (.plain written))

def readToken (c : Char) (rest : List Char) (layout : Layout) : Option Layout :=
  let marksHere := layout.inFlow || atGap rest
  if layout.cursor.atDocumentStart then layout.readSeparator .documentStart
  else if layout.cursor.atDocumentEnd then layout.readSeparator .documentEnd
  else if c == '[' then layout.readOpening .listStart
  else if c == '\x7b' then layout.readOpening .tableStart
  else if c == ']' then layout.readClosing .listEnd
  else if c == '\x7d' then layout.readClosing .tableEnd
  else if c == ',' then layout.readComma
  else if c == '-' && atGap rest then layout.readItem
  else if c == '?' && marksHere then layout.readKeyMark
  else if c == ':' && marksHere then layout.readColon
  else if c == '\'' || c == '"' then layout.readQuotedToken c
  else if startsPlain layout.inFlow (c :: rest) then layout.readPlainToken
  else none

/-- Takes tokens up to the end of the text, which ends all blocks; `fuel` bounds their number. -/
def readTokens : Nat → Layout → Option (List Token)
  | 0, _ => none
  | fuel + 1, layout => do
    let layout ← (layout.skipToToken layout.cursor.rest.length.succ).dropStale
    let layout := layout.unroll layout.cursor.column
    match layout.cursor.rest with
    | [] =>
      let layout ← (layout.unroll (-1)).forgetKey
      some layout.tokens.reverse
    | c :: rest => (layout.readToken c rest).bind (readTokens fuel)

end Layout

def tokens? (s : String) : Option (List Token) :=
  let cs := s.toList
  if cs.all isPrintable then (Layout.start cs).readTokens (cs.length + 2) else none

end ScriptBridge.Yaml
