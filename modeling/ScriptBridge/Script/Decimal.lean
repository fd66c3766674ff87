import ScriptBridge.Text.CodePoint

/-!
# Decimals

Numbers of double precision. Such a number is a fraction of two with 53 bits, and is kept as the
shortest decimal that is nearer to it than to any other one. Arithmetic is exact first and then
rounded to the nearest such number, to an even one if two are.
-/

namespace ScriptBridge.Script

/-- A number of double precision. -/
inductive Decimal where
  /-- `units` of the last of `places` decimal places. -/
  | finite (units : Int) (places : Nat)
  | infinite (negative : Bool)
  /-- What is no number. -/
  | undefined
  deriving Repr, DecidableEq, Inhabited

namespace Decimal

/-- The nearest integer to a fraction, the even one if two are. -/
def roundEven (n d : Nat) : Nat :=
  let q := n / d
  let r := 2 * (n % d)
  if d < r || (r == d && q % 2 == 1) then q + 1 else q

/-- The numerator and the denominator of a fraction divided by a power of a base. -/
def shift (base n d : Nat) (exponent : Int) : Nat × Nat :=
  (n * Nat.pow base (-exponent).toNat, d * Nat.pow base exponent.toNat)

/-- How many bits a number has behind its first one. -/
def precision : Nat := 52

/-- The least exponent of the last bit. -/
def minExponent : Int := -1074

/-- The greatest exponent of the last bit. -/
def maxExponent : Int := 971

/-- The bits and the exponent of the number that is nearest to a fraction other than zero. -/
def bitsOf (n d : Nat) : Nat × Int :=
  let guess := Int.ofNat n.log2 - Int.ofNat d.log2 - Int.ofNat precision
  let (m, k) := shift 2 n d guess
  let exponent := max minExponent (if m / k < Nat.pow 2 precision then guess - 1 else guess)
  let (m, k) := shift 2 n d exponent
  let bits := roundEven m k
  if bits = Nat.pow 2 (precision + 1) then (Nat.pow 2 precision, exponent + 1) else (bits, exponent)

/-- The exponent of ten of the first digit of a fraction other than zero. -/
def magnitude (n d : Nat) : Int :=
  if d ≤ n then Int.ofNat (Nat.toDigits 10 (n / d)).length - 1
  else -Int.ofNat (Nat.toDigits 10 ((d + n - 1) / n - 1)).length

def trim (units : Int) : Nat → Decimal
  | 0 => .finite units 0
  | places + 1 => if units % 10 = 0 then trim (units / 10) places else .finite units (places + 1)

/-- A number of so many units of a power of ten. -/
def ofUnits (units : Int) (exponent : Int) : Decimal :=
  trim (units * Int.ofNat (Nat.pow 10 exponent.toNat)) (-exponent).toNat

/-- The shortest decimal with at least so many digits that has the bits. No number needs more than
    seventeen digits. -/
def shortest (bits : Nat) (binary : Int) : Nat → (digits : Nat) → Nat × Int
  | 0, _ => (bits, 0)
  | fuel + 1, digits =>
    let (n, d) := shift 2 bits 1 (-binary)
    let exponent := magnitude n d - Int.ofNat digits + 1
    let (m, k) := shift 10 n d exponent
    let units := roundEven m k
    let (n, d) := shift 10 units 1 (-exponent)
    if bitsOf n d = (bits, binary) then (units, exponent)
    else shortest bits binary fuel (digits + 1)

def ofRatio (n : Int) (d : Nat) : Decimal :=
  if n = 0 then .finite 0 0
  else if d = 0 then .infinite (n < 0)
  else
    let (bits, binary) := bitsOf n.natAbs d
    if bits = 0 then .finite 0 0
    else if maxExponent < binary then .infinite (n < 0)
    else
      let (units, exponent) := shortest bits binary 17 1
      ofUnits (if n < 0 then -Int.ofNat units else Int.ofNat units) exponent

def ofInt (n : Int) : Decimal := ofRatio n 1

/-- The fraction that a number is: that of its bits, which its decimal is near to. -/
def ratio (units : Int) (places : Nat) : Int × Nat :=
  if units = 0 then (0, 1)
  else
    let (bits, binary) := bitsOf units.natAbs (Nat.pow 10 places)
    let (n, d) := shift 2 bits 1 (-binary)
    (if units < 0 then -Int.ofNat n else Int.ofNat n, d)

/-- The number on the other side of zero. -/
def negate : Decimal → Decimal
  | .finite units places => .finite (-units) places
  | .infinite negative => .infinite !negative
  | .undefined => .undefined

def isNegative : Decimal → Bool
  | .finite units _ => units < 0
  | .infinite negative => negative
  | .undefined => false

def isZero : Decimal → Bool
  | .finite units _ => units == 0
  | _ => false

def add : Decimal → Decimal → Decimal
  | .finite a p, .finite b q =>
    let (n, d) := ratio a p
    let (m, k) := ratio b q
    ofRatio (n * k + m * d) (d * k)
  | .infinite a, .infinite b => if a == b then .infinite a else .undefined
  | .infinite a, .finite .. | .finite .., .infinite a => .infinite a
  | _, _ => .undefined

def subtract (a b : Decimal) : Decimal := a.add b.negate

def multiply : Decimal → Decimal → Decimal
  | .finite a p, .finite b q =>
    let (n, d) := ratio a p
    let (m, k) := ratio b q
    ofRatio (n * m) (d * k)
  | .undefined, _ | _, .undefined => .undefined
  | a, b => if a.isZero || b.isZero then .undefined else .infinite (a.isNegative != b.isNegative)

def divide : Decimal → Decimal → Decimal
  | .finite a p, .finite b q =>
    let (n, d) := ratio a p
    let (m, k) := ratio b q
    if a = 0 ∧ b = 0 then .undefined
    else ofRatio (if b < 0 then -(n * k) else n * k) (d * m.natAbs)
  | .finite .., .infinite _ => .finite 0 0
  | .infinite a, .finite units places => .infinite (a != (Decimal.finite units places).isNegative)
  | _, _ => .undefined

/-- The remainder of two numbers, which has the sign of the first one. -/
def remainder : Decimal → Decimal → Decimal
  | .finite a p, .finite b q =>
    let (n, d) := ratio a p
    let (m, k) := ratio b q
    if b = 0 then .undefined else ofRatio (Int.tmod (n * k) (m * d)) (d * k)
  | .finite units places, .infinite _ => .finite units places
  | _, _ => .undefined

/-- How two numbers are ordered, if they are. -/
def order? : Decimal → Decimal → Option Ordering
  | .finite a p, .finite b q =>
    some (compare (a * Int.ofNat (Nat.pow 10 q)) (b * Int.ofNat (Nat.pow 10 p)))
  | .infinite a, .infinite b => some (compare b.toNat a.toNat)
  | .infinite a, .finite .. => some (if a then .lt else .gt)
  | .finite .., .infinite b => some (if b then .gt else .lt)
  | _, _ => none

/-- The digits of the whole part, and those of the fraction. -/
def digits (units places : Nat) : List Char × List Char :=
  let ds := Nat.toDigits 10 units
  let padded := List.replicate (places + 1 - ds.length) '0' ++ ds
  padded.splitAt (padded.length - places)

/-- The digits with one before the point, and the exponent of ten. -/
def scientific (units places : Nat) : String :=
  let ds := Nat.toDigits 10 units
  let fraction := ((ds.drop 1).reverse.dropWhile (· == '0')).reverse
  let mantissa := ds.take 1 ++ (if fraction.isEmpty then [] else '.' :: fraction)
  String.ofList mantissa ++ "e" ++ toString (Int.ofNat (ds.length - 1) - Int.ofNat places)

/-- Whether a number is too great or too small to be written without an exponent. -/
def isExtreme (units places : Nat) : Bool :=
  Nat.pow 10 (13 + places) < units || units * Nat.pow 10 7 < Nat.pow 10 places

/-- The text of a number, with at least one place. -/
def render : Decimal → String
  | .undefined => "NaN"
  | .infinite negative => if negative then "-inf" else "inf"
  | .finite units places =>
    let mark := if units < 0 then "-" else ""
    if units ≠ 0 ∧ isExtreme units.natAbs places then mark ++ scientific units.natAbs places
    else
      let (whole, fraction) := digits units.natAbs places
      mark ++ String.ofList whole ++ "." ++
        (if fraction.isEmpty then "0" else String.ofList fraction)

/-- The largest power of ten by which a number that is written is shifted. Beyond it every number is
    zero or infinite, however many digits a line of a script has. -/
def maxShift : Nat := 100000

/-- The exponent that is written behind its letter. -/
def exponent? : List Char → Option Int
  | '-' :: digits => (Text.readRadix? 10 digits).map fun n => -Int.ofNat n
  | '+' :: digits => (Text.readRadix? 10 digits).map Int.ofNat
  | digits => (Text.readRadix? 10 digits).map Int.ofNat

/-- The number nearest to the one that is written without a sign. -/
def read? (cs : List Char) : Option Decimal := do
  let mantissa := cs.takeWhile (· != 'e')
  let whole := mantissa.takeWhile (· != '.')
  let fraction := (mantissa.dropWhile (· != '.')).drop 1
  let exponent ← match (cs.dropWhile (· != 'e')).drop 1 with
    | [] => if cs.contains 'e' then none else some 0
    | written => exponent? written
  let units ← Text.readRadix? 10 (whole ++ fraction)
  let exponent := max (-Int.ofNat maxShift) (min (Int.ofNat maxShift) (exponent - fraction.length))
  let (n, d) := shift 10 units 1 (-exponent)
  pure (ofRatio n d)

end Decimal

end ScriptBridge.Script
