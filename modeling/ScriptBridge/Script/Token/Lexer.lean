import ScriptBridge.Script.Token.Basic
import ScriptBridge.Text.Blank
import ScriptBridge.Text.CodePoint

/-!
# Reading tokens

`Lexeme.scan` cuts a script into tokens. Blanks and comments stand between tokens; a block comment
can hold others, and one that is not closed reaches to the end. Scanning stops at the first fault.
-/

namespace ScriptBridge.Script

/-- What is left of a script, and the place where it starts. -/
structure Source where
  rest : List Char
  pos : Position
  deriving Inhabited

namespace Source

/-- The source behind so many characters of its line. -/
def skip (source : Source) (n : Nat) : Source :=
  ⟨source.rest.drop n, source.pos.right n⟩

/-- The longest front of characters with a property, and what is behind it. It is within a line. -/
def takeSpan (p : Char → Bool) (source : Source) : List Char × Source :=
  let span := source.rest.takeWhile p
  (span, source.skip span.length)

/-- A blank between tokens. Others are no part of a script. -/
def isGap (c : Char) : Bool :=
  c == ' ' || c == '\t' || c == '\n' || c == '\x0C' || c == '\r'

/-- What follows a comment that reaches to the end of its line. -/
def skipLine : List Char → Position → Source
  | [], pos => ⟨[], pos⟩
  | '\r' :: '\n' :: rest, pos | '\r' :: rest, pos | '\n' :: rest, pos => ⟨rest, pos.newLine⟩
  | _ :: rest, pos => skipLine rest (pos.right 1)

/-- What follows so many block comments that are open. -/
def skipComments : Nat → List Char → Position → Source
  | 0, rest, pos => ⟨rest, pos⟩
  | _, [], pos => ⟨[], pos⟩
  | depth + 1, '*' :: '/' :: rest, pos => skipComments depth rest (pos.right 2)
  | depth, '/' :: '*' :: rest, pos => skipComments (depth + 1) rest (pos.right 2)
  | depth, c :: rest, pos => skipComments depth rest (pos.next c)

end Source

/-- A token, or the fault that is there instead, and what is behind it. -/
structure Reading where
  lexeme : Lexeme
  next : Source

namespace Reading

/-- A fault at a place, behind which nothing is read. -/
def fault (cause : CompileCause) (pos : Position) : Reading :=
  ⟨⟨.bad cause, pos⟩, ⟨[], pos⟩⟩

end Reading

/-- What a quoted text is read for. -/
structure Quotation where
  /-- The mark that ends the text, and that is written twice within it. -/
  close : Char
  /-- Whether the text goes on behind a backslash at the end of a line. -/
  continues : Bool
  /-- How many bytes the text has at most; zero stands for no limit. -/
  limit : Nat
  start : Position

namespace Quotation

/-- What a reader of quoted text waits for. -/
inductive Awaited where
  | plain
  | escape
  /-- More digits of a code point, behind what was written of the escape. -/
  | digits (left code : Nat) (written : String)

/-- The character that an escape of one letter stands for. -/
def plainEscape? (close c : Char) : Option Char :=
  match c with
  | 'n' => some '\n'
  | 't' => some '\t'
  | 'r' => some '\r'
  | '\\' => some '\\'
  | c => if c = close then some c else none

/-- How many digits of a code point follow the letter of an escape. -/
def escapeDigits? (c : Char) : Option Nat :=
  match c with
  | 'x' => some 2
  | 'u' => some 4
  | 'U' => some 8
  | _ => none

/-- How far a text has been read. -/
structure Progress where
  /-- The characters of the text, the last one first. -/
  taken : List Char
  size : Nat
  /-- The column up to which blanks at the start of a line are no part of the text. -/
  margin : Nat

/-- A text of which nothing was read. -/
def Progress.none : Progress := ⟨[], 0, 0⟩

def Progress.add (progress : Progress) (c : Char) : Progress :=
  { progress with taken := c :: progress.taken, size := progress.size + c.utf8Size }

/-- Whether a text has more bytes than it may have. -/
def exceeds (q : Quotation) (progress : Progress) : Bool :=
  q.limit != 0 && q.limit < progress.size

/-- Reads a text up to its closing mark. The place is that of the next character. -/
def read (q : Quotation) : Awaited → Progress → List Char → Position →
    Except CompileFault (List Char × Source)
  | .digits _ _ written, _, [], pos => .error ⟨.badEscape written, ⟨pos.line, pos.column - 1⟩⟩
  | .digits left code written, progress, c :: rest, pos =>
    let written := written.push c
    match Text.digitOf? 16 c with
    | none => .error ⟨.badEscape written, pos⟩
    | some digit =>
      let code := 16 * code + digit
      if 1 < left then q.read (.digits (left - 1) code written) progress rest (pos.right 1)
      else
        match Text.charOf? code with
        | none => .error ⟨.badEscape written, pos⟩
        | some d => q.read .plain (progress.add d) rest (pos.right 1)
  | _, _, [], _ => .error ⟨.openText, q.start⟩
  | .plain, progress, c :: rest, pos =>
    if q.exceeds progress then .error ⟨.longText q.limit, q.start⟩
    else if c = q.close then
      match rest with
      | d :: more =>
        if d = q.close then q.read .plain { progress.add c with margin := 0 } more (pos.right 2)
        else .ok (progress.taken.reverse, ⟨rest, pos.right 1⟩)
      | [] => .ok (progress.taken.reverse, ⟨[], pos.right 1⟩)
    else if c = '\\' then q.read .escape progress rest (pos.right 1)
    else if c = '\n' then .error ⟨.openText, q.start⟩
    else if (c = '\r' ∧ rest.head? = some '\n') ∨
        (Text.isBlank c ∧ pos.column < progress.margin) then
      q.read .plain progress rest (pos.right 1)
    else q.read .plain { progress.add c with margin := 0 } rest (pos.right 1)
  | .escape, progress, c :: rest, pos =>
    if q.exceeds progress then .error ⟨.longText q.limit, q.start⟩
    else if c = '\r' ∧ rest.head? = some '\n' then q.read .escape progress rest (pos.right 1)
    else if c = '\n' then
      if q.continues then
        q.read .plain { progress with margin := q.start.column + 1 } rest pos.newLine
      else .error ⟨.openText, q.start⟩
    else
      match plainEscape? q.close c, escapeDigits? c with
      | some d, _ => q.read .plain (progress.add d) rest (pos.right 1)
      | none, some n => q.read (.digits n 0 ("\\" ++ c.toString)) progress rest (pos.right 1)
      | none, none => .error ⟨.badEscape ("\\" ++ c.toString), pos⟩

/-- Reads the text behind an opening mark as a token. -/
def token (q : Quotation) (ofChars : List Char → Token) (rest : List Char) : Reading :=
  match q.read .plain .none rest (q.start.right 1) with
  | .ok (cs, next) => ⟨⟨ofChars cs, q.start⟩, next⟩
  | .error fault => .fault fault.cause fault.pos

end Quotation

namespace Token

def isNameStart (c : Char) : Bool := c.isAlpha || c == '_'

def isNameChar (c : Char) : Bool := c.isAlphanum || c == '_'

def ofQuoted (cs : List Char) : Token := .text (String.ofList cs)

def ofQuotedChar : List Char → Token
  | [c] => .char c
  | cs => .bad (.badChar (String.ofList cs))

/-- The base that a letter behind a zero gives. -/
def radix? (c : Char) : Option Nat :=
  match c with
  | 'x' | 'X' => some 16
  | 'o' | 'O' => some 8
  | 'b' | 'B' => some 2
  | _ => none

/-- A digit that a number of a base is read with. In bases below ten all decimal digits are, so that
    those that do not fit are found. -/
def isDigitOf (base : Nat) (c : Char) : Bool :=
  (Text.digitOf? (max base 10) c).isSome

/-- The token of digits in a base other than ten: the bits of an integer. Such a number takes no
    sign. -/
def ofRadix (base : Nat) (letter : Char) (minus : Bool) (digits : List Char) : Token :=
  if minus then .bad (.badNumber (String.ofList (letter :: digits)))
  else
    match Text.readRadix? base digits with
    | some n =>
      if n < 0x10000000000000000 then .integer (UInt64.ofNat n).toInt64
      else .bad (.badNumber (String.ofList digits))
    | none => .bad (.badNumber (String.ofList digits))

/-- The integer of 64 bits that digits write. -/
def integer? (minus : Bool) (written : List Char) : Option Int64 :=
  (Text.readRadix? 10 written).bind fun n =>
    let value : Int := if minus then -Int.ofNat n else Int.ofNat n
    if Value.fitsInt64 value then some (Int64.ofInt value) else none

/-- The token of a decimal number. An integer beyond 64 bits is one of double precision. -/
def ofDecimal (minus : Bool) (written : List Char) : Token :=
  match integer? minus written, Decimal.read? written with
  | some value, _ => .integer value
  | none, some value => .decimal (if minus then value.negate else value)
  | none, none => .bad (.badNumber (String.ofList (if minus then '-' :: written else written)))

/-- Characters that go on with a number, without the lines between digits, and how many characters
    that is with them. A point belongs to a number if a digit follows, or what can start no name. -/
def spanNumber (point exponent : Bool) : List Char → List Char × Nat
  | [] => ([], 0)
  | '_' :: rest =>
    let (cs, n) := spanNumber point exponent rest
    (cs, n + 1)
  | '.' :: d :: rest =>
    if point || d == '_' || d == '.' || d.isAlpha then ([], 0)
    else
      let (cs, n) := spanNumber true exponent (d :: rest)
      (if d.isDigit then '.' :: cs else '.' :: '0' :: cs, n + 1)
  | 'e' :: d :: rest =>
    if exponent then ([], 0)
    else if d.isDigit then
      let (cs, n) := spanNumber point true (d :: rest)
      ('e' :: cs, n + 1)
    else if d == '+' || d == '-' then
      let (cs, n) := spanNumber point true rest
      ('e' :: d :: cs, n + 2)
    else ([], 0)
  | c :: rest =>
    if c.isDigit then
      let (cs, n) := spanNumber point exponent rest
      (c :: cs, n + 1)
    else ([], 0)

/-- The number that a source starts with, and how many characters it has. -/
def readNumber (minus : Bool) (cs : List Char) : Token × Nat :=
  let lines := ((cs.drop 1).takeWhile (· == '_')).length
  let radix := (cs.drop (1 + lines)).head?.bind fun letter => (radix? letter).map (letter, ·)
  match cs.head?, radix with
  | some '0', some (letter, base) =>
    let span := (cs.drop (2 + lines)).takeWhile fun c => isDigitOf base c || c == '_'
    (ofRadix base letter minus (span.filter (· != '_')), 2 + lines + span.length)
  | _, _ =>
    let (written, n) := spanNumber false false cs
    (ofDecimal minus written, n)

/-- The longest punctuation that a source starts with, if there is one, and how many characters it
    has. -/
def readSymbol? (cs : List Char) : Option (Token × Nat) :=
  let fitting := symbols.filter fun (symbol, _) => symbol.toList.isPrefixOf cs
  let longest := (fitting.map fun (symbol, _) => symbol.length).foldl max 0
  (fitting.find? fun (symbol, _) => symbol.length == longest).map fun (symbol, token) =>
    (token, symbol.length)

/-- The token that a source starts with. A minus is part of the number behind it where `sign` says
    that nothing can be subtracted from. -/
def read (limit : Nat) (sign : Bool) (c : Char) (rest : List Char) (pos : Position) : Reading :=
  let source : Source := ⟨c :: rest, pos⟩
  let behind := fun (token : Token) (n : Nat) => Reading.mk ⟨token, pos⟩ (source.skip n)
  if c = '"' then Quotation.token ⟨'"', true, limit, pos⟩ ofQuoted rest
  else if c = '\'' then
    if rest.head? = some '\'' then .fault (.badChar "") pos
    else Quotation.token ⟨'\'', false, limit, pos⟩ ofQuotedChar rest
  else if c.isDigit then
    let (token, n) := readNumber false source.rest
    behind token n
  else if c = '-' ∧ sign ∧ (rest.head?.map Char.isDigit) = some true then
    let (token, n) := readNumber true rest
    behind token (n + 1)
  else if isNameStart c then
    let (word, next) := source.takeSpan isNameChar
    ⟨⟨ofWord word, pos⟩, next⟩
  else
    match readSymbol? source.rest with
    | some (token, n) => behind token n
    | none => .fault (.unexpected c.toString) pos

end Token

namespace Lexeme

/-- Reads tokens. Each one takes a character at least, so that `fuel` need not exceed their number.
    -/
def scanFrom (limit : Nat) : Nat → Bool → List Char → Position → List Lexeme
  | 0, _, _, pos | _, _, [], pos => [⟨.endOfScript, pos⟩]
  | fuel + 1, sign, c :: rest, pos =>
    if Source.isGap c then scanFrom limit fuel sign rest (pos.next c)
    else
      match c, rest with
      | '/', '/' :: more =>
        let next := Source.skipLine more (pos.right 2)
        scanFrom limit fuel sign next.rest next.pos
      | '/', '*' :: more =>
        let next := Source.skipComments 1 more (pos.right 2)
        scanFrom limit fuel sign next.rest next.pos
      | _, _ =>
        let reading := Token.read limit sign c rest pos
        match reading.lexeme.token with
        | .bad _ => [reading.lexeme]
        | token =>
          reading.lexeme :: scanFrom limit fuel token.allowsSign reading.next.rest reading.next.pos

/-- The tokens of a script, of which the last one is its end or a fault. Texts in it are at most
    `limit` bytes long; zero stands for no limit. -/
def scan (limit : Nat) (script : String) : List Lexeme :=
  let cs := script.toList
  scanFrom limit (cs.length + 1) true cs .first

end Lexeme

end ScriptBridge.Script
