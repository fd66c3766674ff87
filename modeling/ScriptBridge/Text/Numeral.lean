/-!
# Decimal numerals

Whole numbers written as an optional sign and ASCII digits, read within bounds. Leading zeros are
allowed. A numeral is read from its first digit on, and the first fault ends the reading.
-/

namespace ScriptBridge

/-- Why a text is not a numeral within its bounds. -/
inductive NumeralError where
  | empty
  | invalidDigit
  | tooLarge
  | tooSmall
  deriving Repr, DecidableEq

def NumeralError.message : NumeralError → String
  | .empty => "cannot parse integer from empty string"
  | .invalidDigit => "invalid digit found in string"
  | .tooLarge => "number too large to fit in target type"
  | .tooSmall => "number too small to fit in target type"

namespace Numeral

def digit? (c : Char) : Option Nat :=
  if '0' ≤ c ∧ c ≤ '9' then some (c.toNat - '0'.toNat) else none

/-- Reads digits behind `value`; `exceeded` is the fault of a value above `limit`. -/
def readDigits (limit : Nat) (exceeded : NumeralError) (value : Nat) :
    List Char → Except NumeralError Nat
  | [] => .ok value
  | c :: rest =>
    match digit? c with
    | none => .error .invalidDigit
    | some d =>
      let value := value * 10 + d
      if limit < value then .error exceeded else readDigits limit exceeded value rest

/-- Reads at least one digit. -/
def readMagnitude (limit : Nat) (exceeded : NumeralError) :
    List Char → Except NumeralError Nat
  | [] => .error .invalidDigit
  | cs => readDigits limit exceeded 0 cs

/-- Reads a number from 0 to `limit`; a `+` may stand in front. -/
def readNat (limit : Nat) (s : String) : Except NumeralError Nat :=
  match s.toList with
  | [] => .error .empty
  | '+' :: digits => readMagnitude limit .tooLarge digits
  | digits => readMagnitude limit .tooLarge digits

/-- Reads a number from `-(limit + 1)` to `limit`; a sign may stand in front. -/
def readInt (limit : Nat) (s : String) : Except NumeralError Int :=
  match s.toList with
  | [] => .error .empty
  | '+' :: digits => (readMagnitude limit .tooLarge digits).map Int.ofNat
  | '-' :: digits => (readMagnitude (limit + 1) .tooSmall digits).map fun n => -Int.ofNat n
  | digits => (readMagnitude limit .tooLarge digits).map Int.ofNat

/-- The greatest unsigned number of 64 bits. -/
def maxWord : Nat := 0xFFFFFFFFFFFFFFFF

/-- The greatest signed number of 64 bits. -/
def maxInt64 : Nat := 0x7FFFFFFFFFFFFFFF

/-- Reads an unsigned number of 64 bits. -/
def readWord (s : String) : Except NumeralError UInt64 :=
  (readNat maxWord s).map UInt64.ofNat

/-- Reads a signed number of 64 bits. -/
def readInt64 (s : String) : Except NumeralError Int :=
  readInt maxInt64 s

end Numeral

end ScriptBridge
