import ScriptBridge.Yaml.Cursor

/-!
# YAML scalars

Scalars without quotes, in single quotes and in double quotes, each of which may run over several
lines: a line end in a scalar stands for a space, and every further empty line for a line end.
Blanks around line ends do not count.
-/

namespace ScriptBridge.Yaml

/-- Blanks and line ends between two parts of a scalar. -/
structure Gap where
  /-- The blanks before the first line end, the last one first. -/
  blanks : List Char
  broken : Bool
  /-- The first line end, unless it was escaped. -/
  first : Option Char
  /-- The further line ends, the last one first. -/
  more : List Char

namespace Gap

/-- Nothing. -/
def none : Gap := ⟨[], false, .none, []⟩

/-- An escaped line end, which stands for nothing. -/
def escaped : Gap := ⟨[], true, .none, []⟩

def addBreak (gap : Gap) (c : Char) : Gap :=
  if gap.broken then { gap with more := c :: gap.more }
  else { gap with blanks := [], broken := true, first := some c }

def text (gap : Gap) : List Char :=
  if gap.broken then
    if gap.first = some '\n' then if gap.more.isEmpty then [' '] else gap.more.reverse
    else gap.first.toList ++ gap.more.reverse
  else gap.blanks.reverse

end Gap

/-- Passes blanks and line ends. On further lines no tab may stand in a column before `indent`;
    `fuel` bounds the characters. -/
def passGap (indent : Nat) : Nat → Gap → Cursor → Option (Gap × Cursor)
  | 0, gap, cur => some (gap, cur)
  | fuel + 1, gap, cur =>
    match cur.rest with
    | [] => some (gap, cur)
    | c :: _ =>
      if Text.isLineBlank c then
        if gap.broken then
          if c == '\t' && cur.column < indent then .none else passGap indent fuel gap cur.next
        else passGap indent fuel { gap with blanks := c :: gap.blanks } cur.next
      else if isBreak c then
        let (lineEnd, cur) := cur.passBreak
        passGap indent fuel (gap.addBreak lineEnd) cur
      else some (gap, cur)

/-- Passes blanks and line ends behind those of a gap. -/
def Cursor.passGap (indent : Nat) (gap : Gap) (cur : Cursor) : Option (Gap × Cursor) :=
  Yaml.passGap indent cur.rest.length.succ gap cur

/-- A bracket, a brace or a comma, which mean something between brackets. -/
def isFlowMark (c : Char) : Bool :=
  c == ',' || c == '[' || c == ']' || c == '\x7b' || c == '\x7d'

/-- Whether a scalar without quotes can start here. `flow` tells that it stands between brackets. -/
def startsPlain (flow : Bool) : List Char → Bool
  | [] => false
  | c :: rest =>
    if c == '-' then !(rest.head?.any Text.isLineBlank)
    else if c == '?' || c == ':' then !flow && !atGap rest
    else !(atGap [c] || isFlowMark c || "#&*!|>'\"%@\x60".toList.contains c)

/-- A scalar without quotes as read so far. -/
structure PlainReading where
  /-- The characters read, the last one first. -/
  before : List Char
  /-- What stands behind them. -/
  gap : Gap
  cursor : Cursor

/-- Reads one part of a scalar without quotes up to a blank, a line end or a mark. Between brackets
    a colon must not stand before one of their marks. -/
def readPart (flow : Bool) : Nat → PlainReading → Option PlainReading
  | 0, reading => some reading
  | fuel + 1, reading =>
    match reading.cursor.rest with
    | [] => some reading
    | c :: rest =>
      if atGap [c] then some reading
      else if flow && c == ':' && rest.head?.any (fun d => isFlowMark d || d == '?') then .none
      else if (c == ':' && atGap rest) || (flow && isFlowMark c) then some reading
      else
        readPart flow fuel
          ⟨c :: (reading.gap.text.reverse ++ reading.before), .none, reading.cursor.next⟩

/-- Reads the parts of a scalar without quotes. It ends at a mark, before a comment, at a line that
    separates documents, and outside brackets before a line in a column before `indent`. -/
def readParts (flow : Bool) (indent : Nat) : Nat → PlainReading → Option PlainReading
  | 0, reading => some reading
  | fuel + 1, reading =>
    if reading.cursor.atSeparator || startsWith '#' reading.cursor.rest then some reading
    else do
      let reading ← readPart flow reading.cursor.rest.length.succ reading
      if reading.cursor.rest.isEmpty || !atGap reading.cursor.rest then some reading
      else
        let (gap, cursor) ← reading.cursor.passGap indent reading.gap
        let reading := { reading with gap, cursor }
        if !flow && cursor.column < indent then some reading
        else readParts flow indent fuel reading

/-- Reads a scalar without quotes: what is written, whether a line end stands behind it, and the
    place of what follows the blanks behind it. -/
def readPlain (flow : Bool) (indent : Nat) (cur : Cursor) : Option (String × Bool × Cursor) := do
  let reading ← readParts flow indent cur.rest.length.succ ⟨[], .none, cur⟩
  some (String.ofList reading.before.reverse, reading.gap.broken, reading.cursor)

def plainEscape? (c : Char) : Option Char :=
  match c with
  | '0' => some '\x00'
  | 'a' => some '\x07'
  | 'b' => some '\x08'
  | 't' => some '\t'
  | '\t' => some '\t'
  | 'n' => some '\n'
  | 'v' => some '\x0B'
  | 'f' => some '\x0C'
  | 'r' => some '\r'
  | 'e' => some '\x1B'
  | ' ' => some ' '
  | '"' => some '"'
  | '/' => some '/'
  | '\\' => some '\\'
  | 'N' => some '\u0085'
  | '_' => some '\u00A0'
  | 'L' => some '\u2028'
  | 'P' => some '\u2029'
  | _ => .none

/-- How many hexadecimal digits follow a letter of an escape. -/
def escapeWidth? (c : Char) : Option Nat :=
  match c with
  | 'x' => some 2
  | 'u' => some 4
  | 'U' => some 8
  | _ => .none

/-- Reads an escape behind its backslash. -/
def readEscape (cur : Cursor) : Option (Char × Cursor) := do
  let c ← cur.rest.head?
  match escapeWidth? c with
  | .none => do
    let e ← plainEscape? c
    some (e, cur.next)
  | some width => do
    let digits := (cur.rest.drop 1).take width
    if digits.length < width then .none
    let e ← Text.charOf? (← Text.hexNumber? digits)
    some (e, cur.skip (width + 1))

/-- Reads a scalar in quotes behind the first of them. In single quotes two of them stand for one;
    in double quotes there are escapes, and a backslash at a line end joins the lines. -/
def readQuotedRest (quote : Char) : Nat → List Char → Cursor → Option (String × Cursor)
  | 0, _, _ => .none
  | fuel + 1, before, cur =>
    if cur.atSeparator then .none
    else
      match cur.rest with
      | [] => .none
      | c :: rest =>
        if atGap [c] then do
          let (gap, cur) ← cur.passGap 0 .none
          readQuotedRest quote fuel (gap.text.reverse ++ before) cur
        else if c == quote then
          if quote == '\'' && startsWith '\'' rest then
            readQuotedRest quote fuel ('\'' :: before) (cur.skip 2)
          else some (String.ofList before.reverse, cur.next)
        else if quote == '"' && c == '\\' then
          if rest.head?.any isBreak then do
            let (gap, cur) ← (cur.next.passBreak).2.passGap 0 .escaped
            readQuotedRest quote fuel (gap.text.reverse ++ before) cur
          else do
            let (e, cur) ← readEscape cur.next
            readQuotedRest quote fuel (e :: before) cur
        else readQuotedRest quote fuel (c :: before) cur.next

def readQuoted (quote : Char) (cur : Cursor) : Option (String × Cursor) :=
  readQuotedRest quote cur.rest.length.succ [] cur.next

end ScriptBridge.Yaml
