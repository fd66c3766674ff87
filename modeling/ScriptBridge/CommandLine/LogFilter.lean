import ScriptBridge.CommandLine.Pattern
import ScriptBridge.Text.Cut
import ScriptBridge.Text.Numeral

/-!
# Log filters

A filter says which messages of a program are shown: directives with commas between them, each with
a level, a target, a span in brackets with fields in braces, or a target and a span with a level
behind an equals sign. Only whether a text is a filter matters here.

Directives are scanned without the blanks around them, but their parts are cut out at the same
places of the text with its blanks. So blanks in front shift the parts, and a part may even end
within a character.
-/

namespace ScriptBridge

namespace LogFilter

/-- Why a text is not a filter. -/
inductive Flaw where
  | malformed
  | splitsCharacter
  deriving Repr, DecidableEq

def levelNames : List String :=
  ["error", "warn", "info", "debug", "trace", "off"]

/-- Whether a text is a level: a name in any case, a number up to five, or nothing. -/
def isLevel (s : String) : Bool :=
  s.isEmpty || levelNames.any (Text.eqIgnoreAsciiCase s) ||
    match Numeral.readNat 5 s with
    | .ok _ => true
    | .error _ => false

/-- The first bytes of a text and the characters behind them. -/
def splitBytes? (n : Nat) : List Char → Option (List Char × List Char)
  | [] => if n = 0 then some ([], []) else none
  | c :: rest =>
    if n = 0 then some ([], c :: rest)
    else if c.utf8Size ≤ n then
      (splitBytes? (n - c.utf8Size) rest).map fun (front, behind) => (c :: front, behind)
    else none

/-- The part of a text between two places, counted in bytes. -/
def part (text : List Char) (first behind : Nat) : Except Flaw (List Char) :=
  match (splitBytes? first text).bind fun (_, rest) => splitBytes? (behind - first) rest with
  | some (cs, _) => .ok cs
  | none => .error .splitsCharacter

/-- Digits, at most one point among them, and an exponent. -/
def isUnsignedFraction (cs : List Char) : Bool :=
  let isMark := fun c => c == 'e' || c == 'E'
  let mantissa := cs.takeWhile (!isMark ·)
  let exponent := cs.dropWhile (!isMark ·)
  let digits := mantissa.filter (· != '.')
  let digitsOnly := fun (cs : List Char) => !cs.isEmpty && cs.all Char.isDigit
  digitsOnly digits && mantissa.length ≤ digits.length + 1 &&
    (exponent.isEmpty ||
      match exponent.drop 1 with
      | '+' :: rest => digitsOnly rest
      | '-' :: rest => digitsOnly rest
      | rest => digitsOnly rest)

/-- Whether a text can be asked for as the value of a field: a pattern, or a number with a plus
    sign, which is no pattern. -/
def isFieldValue : List Char → Bool
  | '+' :: rest =>
    ["inf", "infinity", "nan"].contains (Text.lowerAscii (String.ofList rest)) ||
      isUnsignedFraction rest
  | cs => Pattern.isPattern cs

/-- Whether a text names a field, with or without a value. -/
def isField (cs : List Char) : Bool :=
  !cs.isEmpty &&
    match cutAll '=' cs with
    | _ :: value :: _ => isFieldValue value
    | _ => true

/-- How far the scanning of a directive is, with the place that the present part starts at. -/
inductive Scan where
  | start
  | levelOrTarget
  | span (first : Nat)
  | field (first : Nat)
  /-- Behind the fields of a span. -/
  | fields
  /-- Behind a span. -/
  | target
  /-- Behind an equals sign. -/
  | level (first : Nat)
  deriving Repr, DecidableEq

/-- Whether a directive without a span can start with a character. -/
def isStart (c : Char) : Bool :=
  Text.isAlphanumeric c || c == '-' || c == ':' || c == '_'

/-- Scans a character that stands at a place. Parts are cut out of `text`. -/
def Scan.next (text : List Char) (place : Nat) : Scan → Char → Except Flaw Scan
  | .start, c =>
    if c == '[' then .ok (.span (place + 1))
    else if isStart c then .ok .levelOrTarget
    else .error .malformed
  | .levelOrTarget, c => do
    if c == '=' then
      let _ ← part text 0 place
      .ok (.level (place + 1))
    else if c == '[' then
      let _ ← part text 0 place
      .ok (.span (place + 1))
    else .ok .levelOrTarget
  | .span first, c => do
    if c == ']' then
      let _ ← part text first place
      .ok .target
    else if c == '\x7b' then
      let _ ← part text first place
      .ok (.field (place + 1))
    else .ok (.span first)
  | .field first, c => do
    if c == '\x7d' then
      if isField (← part text first place) then .ok .fields else .error .malformed
    else .ok (.field first)
  | .fields, c => if c == ']' then .ok .target else .error .malformed
  | .target, c => if c == '=' then .ok (.level (place + 1)) else .error .malformed
  | .level first, _ => .ok (.level first)

/-- Scans characters from a place on. -/
def Scan.run (text : List Char) (place : Nat) : Scan → List Char → Except Flaw Scan
  | scan, [] => .ok scan
  | scan, c :: rest => do
    let scan ← scan.next text place c
    scan.run text (place + c.utf8Size) rest

def Scan.finish (text : List Char) : Scan → Except Flaw Unit
  | .levelOrTarget | .target => .ok ()
  | .level first => do
    let level ← part text first (text.foldl (fun size c => size + c.utf8Size) 0)
    if isLevel (String.ofList level) then .ok () else .error .malformed
  | .start | .span _ | .field _ | .fields => .error .malformed

def checkDirective (s : String) : Except Flaw Unit := do
  let scan ← Scan.start.run s.toList 0 (Text.trim s).toList
  scan.finish s.toList

/-- Looks whether a text is a filter: the first directive with a flaw tells. -/
def check (s : String) : Except Flaw Unit :=
  ((Text.cutAll ',' s).filter fun piece => !piece.isEmpty).forM checkDirective

end LogFilter

end ScriptBridge
