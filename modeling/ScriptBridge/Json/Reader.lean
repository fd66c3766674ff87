import ScriptBridge.Json.Value

/-!
# Reading JSON

A strict reader: only blanks may follow a value, text between quotes has no raw control
character, and numbers have no leading zeros. An unpaired surrogate is well-formed, but what holds
it is no text. Every reader takes the characters that are left and gives back those that it leaves.
-/

namespace ScriptBridge.Json

def skipBlanks (cs : List Char) : List Char :=
  cs.dropWhile fun c => c == ' ' || c == '\t' || c == '\n' || c == '\r'

def hexValue? (c : Char) : Option Nat :=
  if '0' ≤ c ∧ c ≤ '9' then some (c.toNat - 48)
  else if 'a' ≤ c ∧ c ≤ 'f' then some (c.toNat - 87)
  else if 'A' ≤ c ∧ c ≤ 'F' then some (c.toNat - 55)
  else none

def readUnit : List Char → Option (Nat × List Char)
  | a :: b :: c :: d :: rest => do
    let a ← hexValue? a
    let b ← hexValue? b
    let c ← hexValue? c
    let d ← hexValue? d
    some (((a * 16 + b) * 16 + c) * 16 + d, rest)
  | _ => none

def readLowSurrogate : List Char → Option (Nat × List Char)
  | '\\' :: 'u' :: rest => (readUnit rest).filter fun (low, _) => 0xDC00 ≤ low && low ≤ 0xDFFF
  | _ => none

/-- Reads what stands behind `\u`: one unit, or the two of a surrogate pair. Half of a pair is no
    character. -/
def readEscapedUnits (cs : List Char) : Option (Option Char × List Char) := do
  let (unit, rest) ← readUnit cs
  if unit < 0xD800 ∨ 0xDFFF < unit then some (some (Char.ofNat unit), rest)
  else
    match if unit < 0xDC00 then readLowSurrogate rest else none with
    | some (low, rest) =>
      some (some (Char.ofNat (0x10000 + (unit - 0xD800) * 1024 + (low - 0xDC00))), rest)
    | none => some (none, rest)

def plainEscape? (c : Char) : Option Char :=
  match c with
  | '"' => some '"'
  | '\\' => some '\\'
  | '/' => some '/'
  | 'b' => some '\x08'
  | 'f' => some '\x0C'
  | 'n' => some '\n'
  | 'r' => some '\r'
  | 't' => some '\t'
  | _ => none

/-- Reads text up to its closing quote; `fuel` bounds the characters. There is no text if a
    character is missing. -/
def readText : Nat → Option (List Char) → List Char → Option (Option String × List Char)
  | 0, _, _ => none
  | fuel + 1, before, cs =>
    match cs with
    | '"' :: rest => some (before.map fun before => String.ofList before.reverse, rest)
    | '\\' :: 'u' :: rest => do
      let (c, rest) ← readEscapedUnits rest
      readText fuel (c.bind fun c => before.map (c :: ·)) rest
    | '\\' :: c :: rest => do
      let c ← plainEscape? c
      readText fuel (before.map (c :: ·)) rest
    | c :: rest => if c.toNat < 0x20 then none else readText fuel (before.map (c :: ·)) rest
    | [] => none

def digits (cs : List Char) : List Char × List Char :=
  (cs.takeWhile Char.isDigit, cs.dropWhile Char.isDigit)

def natOfDigits (ds : List Char) : Nat :=
  ds.foldl (fun n d => n * 10 + (d.toNat - 48)) 0

/-- Reads the digits behind a point, if there is one. -/
def readFraction : List Char → Option (List Char × List Char)
  | '.' :: rest =>
    match digits rest with
    | ([], _) => none
    | (ds, rest) => some ('.' :: ds, rest)
  | cs => some ([], cs)

/-- Reads the digits of an exponent, signed or not. -/
def readExponentDigits (mark : List Char) (cs : List Char) : Option (List Char × List Char) :=
  match digits cs with
  | ([], _) => none
  | (ds, rest) => some (mark ++ ds, rest)

/-- Reads an exponent, if there is one. -/
def readExponent : List Char → Option (List Char × List Char)
  | e :: '+' :: rest => if e = 'e' ∨ e = 'E' then readExponentDigits ['e', '+'] rest
    else some ([], e :: '+' :: rest)
  | e :: '-' :: rest => if e = 'e' ∨ e = 'E' then readExponentDigits ['e', '-'] rest
    else some ([], e :: '-' :: rest)
  | e :: rest => if e = 'e' ∨ e = 'E' then readExponentDigits ['e'] rest
    else some ([], e :: rest)
  | [] => some ([], [])

/-- Reads a number without its sign. -/
def readMagnitude (negative : Bool) (cs : List Char) : Option (Json × List Char) := do
  let (ds, rest) := digits cs
  match ds with
  | [] => none
  | '0' :: _ :: _ => none
  | ds =>
    let (fraction, rest) ← readFraction rest
    let (exponent, rest) ← readExponent rest
    let n := natOfDigits ds
    if fraction.isEmpty && exponent.isEmpty && !(negative && n == 0) then
      some (.whole (if negative then -Int.ofNat n else Int.ofNat n), rest)
    else
      let sign := if negative then ['-'] else []
      some (.fractional (String.ofList (sign ++ ds ++ fraction ++ exponent)), rest)

/-- Reads the items of a list behind its opening bracket or a comma. -/
def readItems (read : List Char → Option (Json × List Char)) :
    Nat → List Json → List Char → Option (Json × List Char)
  | 0, _, _ => none
  | fuel + 1, before, cs => do
    let (item, rest) ← read cs
    match skipBlanks rest with
    | ',' :: rest => readItems read fuel (item :: before) rest
    | ']' :: rest => some (.list (item :: before).reverse, rest)
    | _ => none

/-- Reads the members of an object behind its opening brace or a comma. There are none if a name is
    no text. -/
def readMembers (read : List Char → Option (Json × List Char)) :
    Nat → Option (List (String × Json)) → List Char →
      Option (Option (List (String × Json)) × List Char)
  | 0, _, _ => none
  | fuel + 1, before, cs =>
    match skipBlanks cs with
    | '"' :: rest => do
      let (name, rest) ← readText rest.length.succ (some []) rest
      match skipBlanks rest with
      | ':' :: rest => do
        let (member, rest) ← read rest
        let members := name.bind fun name => before.map ((name, member) :: ·)
        match skipBlanks rest with
        | ',' :: rest => readMembers read fuel members rest
        | '\x7d' :: rest => some (members.map List.reverse, rest)
        | _ => none
      | _ => none
    | _ => none

/-- What is written before the rest of a text. -/
def written (cs rest : List Char) : String :=
  String.ofList (cs.take (cs.length - rest.length))

/-- Reads a value that nests at most `depth` times. -/
def readValue : Nat → List Char → Option (Json × List Char)
  | 0, _ => none
  | depth + 1, cs =>
    let cs := skipBlanks cs
    match cs with
    | 'n' :: 'u' :: 'l' :: 'l' :: rest => some (.null, rest)
    | 't' :: 'r' :: 'u' :: 'e' :: rest => some (.bool true, rest)
    | 'f' :: 'a' :: 'l' :: 's' :: 'e' :: rest => some (.bool false, rest)
    | '"' :: rest => do
      let (value, rest) ← readText rest.length.succ (some []) rest
      some (value.elim (.unpaired (written cs rest)) .text, rest)
    | '-' :: rest => readMagnitude true rest
    | '[' :: rest =>
      match skipBlanks rest with
      | ']' :: rest => some (.list [], rest)
      | rest => readItems (readValue depth) rest.length.succ [] rest
    | '\x7b' :: rest =>
      match skipBlanks rest with
      | '\x7d' :: rest => some (.object [], rest)
      | rest => do
        let (members, rest) ← readMembers (readValue depth) rest.length.succ (some []) rest
        some (members.elim (.unpaired (written cs rest)) .object, rest)
    | cs => readMagnitude false cs

def parse? (s : String) : Option Json := do
  let cs := s.toList
  let (json, rest) ← readValue cs.length.succ cs
  if (skipBlanks rest).isEmpty then some json else none

end ScriptBridge.Json
