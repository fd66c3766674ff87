import ScriptBridge.Config.Document
import ScriptBridge.Text.Numeral
import ScriptBridge.Value

/-!
# TOML values

Reading keys and values of TOML 1.0: strings in four quotations, integers in four bases, truth
values, fractions and dates (whose value nobody needs), arrays and inline tables. Every reader takes
the characters that are left and gives back those that it leaves.
-/

namespace ScriptBridge.Toml

def skipBlanks (cs : List Char) : List Char :=
  cs.dropWhile Text.isLineBlank

/-- A control character other than the tab. -/
def isControl (c : Char) : Bool :=
  (c.toNat < 0x20 && c != '\t') || c.toNat == 0x7F

def readLineEnd : List Char → Option (List Char)
  | [] => some []
  | '\n' :: rest => some rest
  | '\r' :: '\n' :: rest => some rest
  | _ => none

/-- Reads a comment up to the line end, if there is one. -/
def skipComment : List Char → Option (List Char)
  | '#' :: rest =>
    let comment := rest.takeWhile fun c => c != '\n' && c != '\r'
    if comment.any isControl then none
    else some (rest.dropWhile fun c => c != '\n' && c != '\r')
  | cs => some cs

/-- Skips blanks, comments and line ends; `fuel` bounds the lines. -/
def skipLines : Nat → List Char → Option (List Char)
  | 0, cs => some cs
  | fuel + 1, cs => do
    let cs ← skipComment (skipBlanks cs)
    match cs with
    | '\n' :: rest => skipLines fuel rest
    | '\r' :: '\n' :: rest => skipLines fuel rest
    | cs => some cs

/-- Reads an escape behind its backslash. -/
def readEscape : List Char → Option (Char × List Char)
  | 'b' :: rest => some ('\x08', rest)
  | 't' :: rest => some ('\t', rest)
  | 'n' :: rest => some ('\n', rest)
  | 'f' :: rest => some ('\x0C', rest)
  | 'r' :: rest => some ('\r', rest)
  | '"' :: rest => some ('"', rest)
  | '\\' :: rest => some ('\\', rest)
  | 'u' :: rest => do
    if rest.length < 4 then none
    let c ← Text.charOf? (← Text.hexNumber? (rest.take 4))
    some (c, rest.drop 4)
  | 'U' :: rest => do
    if rest.length < 8 then none
    let c ← Text.charOf? (← Text.hexNumber? (rest.take 8))
    some (c, rest.drop 8)
  | _ => none

/-- Reads a text in double quotes behind the first of them. -/
def readBasic : Nat → List Char → List Char → Option (String × List Char)
  | 0, _, _ => none
  | fuel + 1, before, cs =>
    match cs with
    | '"' :: rest => some (String.ofList before.reverse, rest)
    | '\\' :: rest => do
      let (c, rest) ← readEscape rest
      readBasic fuel (c :: before) rest
    | c :: rest => if isControl c then none else readBasic fuel (c :: before) rest
    | [] => none

/-- Reads a text in single quotes behind the first of them. -/
def readLiteral (cs : List Char) : Option (String × List Char) :=
  let inside := cs.takeWhile (· != '\'')
  match cs.dropWhile (· != '\'') with
  | _ :: rest => if inside.any isControl then none else some (String.ofList inside, rest)
  | [] => none

/-- Drops the line end that comes first in a text of several lines. -/
def dropFirstLineEnd : List Char → List Char
  | '\n' :: rest => rest
  | '\r' :: '\n' :: rest => rest
  | cs => cs

def skipSpace : List Char → List Char
  | '\r' :: '\n' :: rest => skipSpace rest
  | c :: rest => if c == '\n' || Text.isLineBlank c then skipSpace rest else c :: rest
  | [] => []

/-- Joins lines behind a backslash, if nothing but blanks stands between it and the line end. -/
def joinLines? (cs : List Char) : Option (List Char) :=
  match readLineEnd (skipBlanks cs) with
  | some rest => some (skipSpace rest)
  | none => none

/-- Reads a text of several lines behind its first quotes; `quote` ends it, three times in a row,
    and up to two more of them belong to the text. -/
def readLong (quote : Char) (escapes : Bool) :
    Nat → List Char → List Char → Option (String × List Char)
  | 0, _, _ => none
  | fuel + 1, before, cs =>
    match cs with
    | a :: b :: c :: rest =>
      if a == quote && b == quote && c == quote then
        let more := (rest.takeWhile (· == quote)).take 2
        some (String.ofList (before.reverse ++ more), rest.drop more.length)
      else if escapes && a == '\\' then
        match joinLines? (b :: c :: rest) with
        | some rest => readLong quote escapes fuel before rest
        | none => do
          let (e, rest) ← readEscape (b :: c :: rest)
          readLong quote escapes fuel (e :: before) rest
      else if a == '\r' && b == '\n' then
        readLong quote escapes fuel ('\n' :: before) (c :: rest)
      else if isControl a && a != '\n' then none
      else readLong quote escapes fuel (a :: before) (b :: c :: rest)
    | _ => none

def readText : List Char → Option (String × List Char)
  | '"' :: '"' :: '"' :: rest =>
    readLong '"' true rest.length.succ [] (dropFirstLineEnd rest)
  | '\'' :: '\'' :: '\'' :: rest =>
    readLong '\'' false rest.length.succ [] (dropFirstLineEnd rest)
  | '"' :: rest => readBasic rest.length.succ [] rest
  | '\'' :: rest => readLiteral rest
  | _ => none

/-- A character of a key without quotes. -/
def isBareChar (c : Char) : Bool :=
  c.isAlphanum || c == '-' || c == '_'

def readKeyPart (cs : List Char) : Option (String × List Char) :=
  match cs with
  | '"' :: rest => readBasic rest.length.succ [] rest
  | '\'' :: rest => readLiteral rest
  | cs =>
    match cs.takeWhile isBareChar with
    | [] => none
    | name => some (String.ofList name, cs.dropWhile isBareChar)

/-- The most parts that a key may have, and the most arrays and inline tables that may stand one in
    the other. -/
def nestingLimit : Nat := 79

/-- Reads a key of at most so many parts with points between them. -/
def readKey : Nat → List Char → Option (List String × List Char)
  | 0, _ => none
  | room + 1, cs => do
    let (part, rest) ← readKeyPart (skipBlanks cs)
    match skipBlanks rest with
    | '.' :: rest => do
      let (parts, rest) ← readKey room rest
      some (part :: parts, rest)
    | rest => some ([part], rest)

/-- Digits of a base with single underscores between them. -/
def digitsOf? (base : Nat) (cs : List Char) : Option Nat :=
  let wellPlaced :=
    cs.head? != some '_' && cs.getLast? != some '_' &&
      !(cs.zip (cs.drop 1)).any fun (a, b) => a == '_' && b == '_'
  if wellPlaced then Text.readRadix? base (cs.filter (· != '_')) else none

/-- A decimal number without leading zeros. -/
def decimal? (cs : List Char) : Option Nat :=
  match cs with
  | '0' :: _ :: _ => none
  | cs => digitsOf? 10 cs

/-- An integer of 64 bits in decimal. -/
def signedInteger? (cs : List Char) : Option Int := do
  let n ← match cs with
    | '+' :: digits => (decimal? digits).map Int.ofNat
    | '-' :: digits => (decimal? digits).map fun n => -Int.ofNat n
    | digits => (decimal? digits).map Int.ofNat
  if Value.fitsInt64 n then some n else none

/-- An integer of 64 bits. -/
def integer? (cs : List Char) : Option Int :=
  let based := fun base digits => (digitsOf? base digits).filter (· ≤ Numeral.maxInt64)
  match cs with
  | '0' :: 'x' :: digits => (based 16 digits).map Int.ofNat
  | '0' :: 'o' :: digits => (based 8 digits).map Int.ofNat
  | '0' :: 'b' :: digits => (based 2 digits).map Int.ofNat
  | cs => signedInteger? cs

/-- The characters behind a sign. -/
def dropSign : List Char → List Char
  | '+' :: rest => rest
  | '-' :: rest => rest
  | cs => cs

/-- Whether `significand · 10^(exponent - places)` is too great for a float of 64 bits: at least
    half a step of the last place above the greatest one. -/
def overflows (significand places : Nat) (exponent : Int) : Bool :=
  let digits := (toString significand).length
  let magnitude := exponent + digits - places
  if significand = 0 then false
  else if 309 < magnitude then true
  else if magnitude < 309 then false
  else
    let bound := Nat.pow 2 1024 - Nat.pow 2 970
    bound * Nat.pow 10 (places - exponent).toNat ≤
      significand * Nat.pow 10 (exponent - places).toNat

/-- The number behind an exponent mark. -/
def exponent? (cs : List Char) : Option Int :=
  match cs with
  | '-' :: digits => (digitsOf? 10 digits).map fun n => -Int.ofNat n
  | '+' :: digits => (digitsOf? 10 digits).map Int.ofNat
  | digits => (digitsOf? 10 digits).map Int.ofNat

/-- Whether a number with a fraction or an exponent stands there that is not too great. -/
def isFraction (cs : List Char) : Bool :=
  let unsigned := dropSign cs
  if unsigned == "inf".toList || unsigned == "nan".toList then true
  else
    let isMark := fun c => c == 'e' || c == 'E'
    let mantissa := unsigned.takeWhile (!isMark ·)
    let behind := unsigned.dropWhile (!isMark ·)
    let whole := mantissa.takeWhile (· != '.')
    let fraction := mantissa.dropWhile (· != '.')
    let exponent := if behind.isEmpty then some 0 else exponent? (behind.drop 1)
    let places := if fraction.isEmpty then some [] else
      (digitsOf? 10 (fraction.drop 1)).map fun _ => fraction.drop 1 |>.filter (· != '_')
    match decimal? whole, places, exponent with
    | some _, some places, some exponent =>
      let digits := whole.filter (· != '_') ++ places
      let significand := (Text.readRadix? 10 digits).getD 0
      !(fraction.isEmpty && behind.isEmpty) &&
        (cs.head? == some '-' || !overflows significand places.length exponent)
    | _, _, _ => false

def pair? (a b : Char) : Option Nat :=
  if a.isDigit && b.isDigit then some ((a.toNat - 48) * 10 + (b.toNat - 48)) else none

/-- Whether two digits give a number between two bounds. -/
def isPair (low high : Nat) (a b : Char) : Bool :=
  (pair? a b).any fun n => low ≤ n && n ≤ high

/-- Whether a year has a day more: every fourth but for those of full hundreds, of which every
    fourth again. -/
def isLeapYear (year : Nat) : Bool :=
  year % 4 == 0 && (year % 100 != 0 || year % 400 == 0)

def daysIn (year month : Nat) : Nat :=
  if month = 2 then if isLeapYear year then 29 else 28
  else if month ∈ [4, 6, 9, 11] then 30
  else 31

/-- Whether a day of the calendar stands there, as two digits each for the hundreds of years, the
    years, the month and the day. -/
def isDay (hundreds years month day : Char × Char) : Bool :=
  match pair? hundreds.1 hundreds.2, pair? years.1 years.2, pair? month.1 month.2,
      pair? day.1 day.2 with
  | some hundreds, some years, some month, some day =>
    1 ≤ month && month ≤ 12 && 1 ≤ day && day ≤ daysIn (hundreds * 100 + years) month
  | _, _, _, _ => false

def isTime : List Char → Bool
  | a :: b :: ':' :: c :: d :: ':' :: e :: f :: rest =>
    isPair 0 23 a b && isPair 0 59 c d && isPair 0 60 e f &&
      match rest with
      | [] => true
      | '.' :: digits => !digits.isEmpty && digits.all Char.isDigit
      | _ => false
  | _ => false

def isOffsetTime (cs : List Char) : Bool :=
  let time := cs.takeWhile fun c => c.isDigit || c == ':' || c == '.'
  isTime time &&
    match cs.dropWhile (fun c => c.isDigit || c == ':' || c == '.') with
    | [] => true
    | ['Z'] => true
    | ['z'] => true
    | [s, a, b, ':', c, d] => (s == '+' || s == '-') && isPair 0 23 a b && isPair 0 59 c d
    | _ => false

/-- Whether a date, a time, or both stand there. -/
def isDate : List Char → Bool
  | a :: b :: c :: d :: '-' :: e :: f :: '-' :: g :: h :: rest =>
    isDay (a, b) (c, d) (e, f) (g, h) &&
      match rest with
      | [] => true
      | t :: time => (t == 'T' || t == 't' || t == ' ') && isOffsetTime time
  | cs => isTime cs

/-- The value of a scalar without quotes. -/
def scalar? (cs : List Char) : Option Document :=
  if cs == "true".toList then some (.bool true)
  else if cs == "false".toList then some (.bool false)
  else
    match integer? cs with
    | some n => some (.whole n)
    | none => if isFraction cs || isDate cs then some .other else none

/-- A character that ends a scalar without quotes. -/
def endsScalar (c : Char) : Bool :=
  c == ',' || c == ']' || c == '\x7d' || c == '#' || c == '\n' || c == '\r' || Text.isLineBlank c

/-- Reads a scalar without quotes. A space may stand between a date and a time. -/
def readScalar (cs : List Char) : Option (Document × List Char) :=
  let word := cs.takeWhile (!endsScalar ·)
  let rest := cs.dropWhile (!endsScalar ·)
  match rest with
  | ' ' :: behind =>
    let time := behind.takeWhile (!endsScalar ·)
    if isDate (word ++ ' ' :: time) then some (.other, behind.drop time.length)
    else (scalar? word).map fun value => (value, rest)
  | rest => (scalar? word).map fun value => (value, rest)

/-- Members by name, where a member that came of a key with points can take more of them. -/
inductive Inline where
  | value (doc : Document)
  | table (members : List (String × Inline))

mutual

def Inline.document : Inline → Document
  | .value doc => doc
  | .table members => .table (Inline.documents members)

def Inline.documents : List (String × Inline) → List (String × Document)
  | [] => []
  | (name, member) :: rest => (name, member.document) :: Inline.documents rest

end

/-- Puts a value under the parts of a key. A name that is taken cannot be given again. -/
def putInline (doc : Document) :
    List String → List (String × Inline) → Option (List (String × Inline))
  | [], _ => none
  | [name], members =>
    if members.any (·.1 == name) then none else some (members ++ [(name, .value doc)])
  | name :: parts, members =>
    match members.find? (·.1 == name) with
    | none => do
      let inner ← putInline doc parts []
      some (members ++ [(name, .table inner)])
    | some (_, .table inner) => do
      let inner ← putInline doc parts inner
      some (members.map fun (n, m) => if n == name then (n, .table inner) else (n, m))
    | some (_, .value _) => none

/-- Reads the items of an array behind its bracket or a comma; they may stand on several lines. -/
def readItems (read : List Char → Option (Document × List Char)) :
    Nat → List Document → List Char → Option (Document × List Char)
  | 0, _, _ => none
  | fuel + 1, before, cs => do
    match ← skipLines cs.length.succ cs with
    | ']' :: rest => some (.list before.reverse, rest)
    | cs => do
      let (item, rest) ← read cs
      match ← skipLines rest.length.succ rest with
      | ',' :: rest => readItems read fuel (item :: before) rest
      | ']' :: rest => some (.list (item :: before).reverse, rest)
      | _ => none

/-- Reads the members of an inline table behind its brace or a comma; they stand on one line. -/
def readMembers (read : List Char → Option (Document × List Char)) :
    Nat → List (String × Inline) → List Char → Option (Document × List Char)
  | 0, _, _ => none
  | fuel + 1, members, cs => do
    let (key, rest) ← readKey nestingLimit cs
    match skipBlanks rest with
    | '=' :: rest => do
      let (doc, rest) ← read (skipBlanks rest)
      let members ← putInline doc key members
      match skipBlanks rest with
      | ',' :: rest => readMembers read fuel members rest
      | '\x7d' :: rest => some (Inline.document (.table members), rest)
      | _ => none
    | _ => none

/-- Reads a text or a scalar without quotes. -/
def readAtom (cs : List Char) : Option (Document × List Char) :=
  match cs with
  | '"' :: _ => (readText cs).map fun (value, rest) => (.text value, rest)
  | '\'' :: _ => (readText cs).map fun (value, rest) => (.text value, rest)
  | cs => readScalar cs

/-- Reads a value in which at most `depth` arrays and inline tables stand one in the other. -/
def readValue : Nat → List Char → Option (Document × List Char)
  | 0, cs => readAtom cs
  | depth + 1, cs =>
    match cs with
    | '[' :: rest => readItems (readValue depth) rest.length.succ [] rest
    | '\x7b' :: rest =>
      match skipBlanks rest with
      | '\x7d' :: rest => some (.table [], rest)
      | rest => readMembers (readValue depth) rest.length.succ [] rest
    | cs => readAtom cs

end ScriptBridge.Toml
