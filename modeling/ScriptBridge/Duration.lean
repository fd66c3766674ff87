import ScriptBridge.Text.Blank
import ScriptBridge.Word

/-!
# Durations

A time span in seconds and nanoseconds, written as amounts of units such as `1h 30m`. Reading takes
units in any order and as often as they come, with fractions that come out even in the grain of
their unit: nanoseconds up to the minute, seconds from the hour on. Writing uses each unit at most
once, the greatest first.
-/

namespace ScriptBridge

/-- A time span. -/
structure Duration where
  seconds : UInt64
  nanos : Fin 1000000000
  deriving Repr, DecidableEq

namespace Duration

/-- No time. -/
def zero : Duration := ⟨0, 0⟩

def ofSeconds (seconds : UInt64) : Duration := ⟨seconds, 0⟩

def nanosPerSecond : Nat := 1000000000

/-- What a unit is counted in. -/
inductive Grain where
  | nanos
  | seconds
  deriving DecidableEq

/-- A unit of time. Its whole amounts and its fractions may be counted in different grains. -/
structure TimeUnit where
  names : List String
  /-- The length of the unit in the grain of its whole amounts. -/
  length : UInt64
  grain : Grain
  /-- The length of the unit in the grain of its fractions, if it has fractions. -/
  fraction : Option (UInt64 × Grain)

/-- A unit whose fractions have the grain of its whole amounts. -/
def TimeUnit.uniform (names : List String) (length : UInt64) (grain : Grain) : TimeUnit :=
  ⟨names, length, grain, some (length, grain)⟩

def units : List TimeUnit :=
  [⟨["nanos", "nsec", "ns"], 1, .nanos, none⟩,
   .uniform ["usec", "us", "µs"] 1000 .nanos,
   .uniform ["millis", "msec", "ms"] 1000000 .nanos,
   ⟨["seconds", "second", "secs", "sec", "s"], 1, .seconds, some (1000000000, .nanos)⟩,
   ⟨["minutes", "minute", "min", "mins", "m"], 60, .seconds, some (60000000000, .nanos)⟩,
   .uniform ["hours", "hour", "hr", "hrs", "h"] 3600 .seconds,
   .uniform ["days", "day", "d"] 86400 .seconds,
   .uniform ["weeks", "week", "wk", "wks", "w"] 604800 .seconds,
   .uniform ["months", "month", "M"] 2630016 .seconds,
   .uniform ["years", "year", "yr", "yrs", "y"] 31557600 .seconds]

def unit? (name : String) : Option TimeUnit :=
  units.find? fun timeUnit => timeUnit.names.contains name

/-- An amount as written: the digits before and behind the point, and the unit. -/
structure Amount where
  whole : UInt64
  fraction : Option (UInt64 × UInt64)
  unit : String

def isUnitChar (c : Char) : Bool :=
  ('a' ≤ c && c ≤ 'z') || ('A' ≤ c && c ≤ 'Z') || c == 'µ'

def pushDigit? (n : UInt64) (c : Char) : Option UInt64 := do
  let tens ← Word.mul? n 10
  Word.add? tens (UInt64.ofNat (c.toNat - '0'.toNat))

def readWhole (n : UInt64) : List Char → Option (UInt64 × List Char)
  | [] => some (n, [])
  | c :: rest =>
    if c.isDigit then do
      let n ← pushDigit? n c
      readWhole n rest
    else if Text.isBlank c then readWhole n rest
    else some (n, c :: rest)

/-- Reads the digits of a fraction, with blanks anywhere between them: the numerator and the
    denominator, neither of which may overflow. -/
def readFraction (numerator denominator : UInt64) :
    List Char → Option ((UInt64 × UInt64) × List Char)
  | [] => some ((numerator, denominator), [])
  | c :: rest =>
    if c.isDigit then do
      let numerator ← pushDigit? numerator c
      let denominator ← Word.mul? denominator 10
      readFraction numerator denominator rest
    else if Text.isBlank c then readFraction numerator denominator rest
    else some ((numerator, denominator), c :: rest)

/-- Reads a fraction behind its point, with at least one digit. -/
def readOptionalFraction : List Char → Option (Option (UInt64 × UInt64) × List Char)
  | '.' :: rest => do
    let (fraction, rest) ← readFraction 0 1 rest
    if fraction.2 = 1 then none else some (some fraction, rest)
  | cs => some (none, cs)

/-- Reads one amount. A digit has to come first, and a digit or a blank ends the unit. -/
def readAmount (cs : List Char) : Option (Amount × List Char) := do
  match cs with
  | [] => none
  | c :: _ =>
    if c.isDigit then
      let (whole, rest) ← readWhole 0 cs
      let (fraction, rest) ← readOptionalFraction rest
      let unit := rest.takeWhile isUnitChar
      let rest := rest.dropWhile isUnitChar
      match rest with
      | [] => some (⟨whole, fraction, String.ofList unit⟩, [])
      | c :: _ =>
        if c.isDigit || Text.isBlank c then
          some (⟨whole, fraction, String.ofList unit⟩, rest)
        else none
    else none

/-- Reads amounts up to the end; `fuel` bounds their number. -/
def readAmounts : Nat → List Char → Option (List Amount)
  | 0, _ => none
  | fuel + 1, cs =>
    match cs.dropWhile Text.isBlank with
    | [] => some []
    | cs => do
      let (amount, rest) ← readAmount cs
      let amounts ← readAmounts fuel rest
      some (amount :: amounts)

/-- The sum of a time span and some seconds and nanoseconds. -/
def add? (span : Duration) (seconds nanos : Nat) : Option Duration := do
  let total := span.nanos.val + nanos
  let seconds ← Word.ofNat? (span.seconds.toNat + seconds + total / nanosPerSecond)
  some ⟨seconds, Fin.ofNat _ total⟩

/-- The sum of a time span and a count of a grain. -/
def addGrains? (span : Duration) (count : UInt64) : Grain → Option Duration
  | .nanos => span.add? 0 count.toNat
  | .seconds => span.add? count.toNat 0

/-- What a fraction of a length comes to, if it is whole. -/
def shareOf? (length : UInt64) (fraction : UInt64 × UInt64) : Option UInt64 := do
  let product ← Word.mul? fraction.1 length
  if product % fraction.2 = 0 then some (product / fraction.2) else none

def addAmount? (span : Duration) (amount : Amount) : Option Duration := do
  let timeUnit ← unit? amount.unit
  let span ← span.addGrains? (← Word.mul? amount.whole timeUnit.length) timeUnit.grain
  match amount.fraction with
  | none => some span
  | some fraction => do
    let (length, grain) ← timeUnit.fraction
    span.addGrains? (← shareOf? length fraction) grain

/-- Reads a time span: `0`, or at least one amount. -/
def parse? (s : String) : Option Duration :=
  if s = "0" then some zero
  else
    match readAmounts (s.length + 1) s.toList with
    | none | some [] => none
    | some amounts => amounts.foldlM addAmount? zero

/-- An amount of a unit whose name takes an `s` behind more than one. -/
def countOf (name : String) (n : Nat) : Option String :=
  if n = 0 then none
  else if n = 1 then some ("1" ++ name)
  else some (toString n ++ name ++ "s")

def amountOf (name : String) (n : Nat) : Option String :=
  if n = 0 then none else some (toString n ++ name)

/-- The amounts of a time span, the greatest unit first. -/
def amounts (span : Duration) : List String :=
  let seconds := span.seconds.toNat
  let nanos := span.nanos.val
  let inYear := seconds % 31557600
  let inMonth := inYear % 2630016
  let inDay := inMonth % 86400
  [countOf "year" (seconds / 31557600), countOf "month" (inYear / 2630016),
   countOf "day" (inMonth / 86400), amountOf "h" (inDay / 3600),
   amountOf "m" (inDay % 3600 / 60), amountOf "s" (inDay % 60),
   amountOf "ms" (nanos / 1000000), amountOf "us" (nanos / 1000 % 1000),
   amountOf "ns" (nanos % 1000)].filterMap id

def render (span : Duration) : String :=
  match span.amounts with
  | [] => "0s"
  | amounts => " ".intercalate amounts

end Duration

end ScriptBridge
