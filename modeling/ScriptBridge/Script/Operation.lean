import ScriptBridge.Script.Allowance
import ScriptBridge.Script.Syntax
import ScriptBridge.Text.Cut

/-!
# Operations

What operators do to data. Integers are exact or fail; with a number of double precision all are; a
sum with a text is the two texts one behind the other; data of different types are neither equal nor
in order. What an operator builds may not be larger than an allowance accepts.
-/

namespace ScriptBridge.Script

/-- The datum of an exact result, if it fits into 64 bits. -/
def exactly (fault : ArithmeticFault) (a b : Int64) (n : Int) : Except RunCause Datum :=
  match Datum.ofInt? n with
  | some datum => .ok datum
  | none => .error (.arithmetic fault a b)

def quotient (a b : Int64) : Except RunCause Datum :=
  if b = 0 then .error (.arithmetic .divisionByZero a b)
  else exactly .division a b (Int.tdiv a.toInt b.toInt)

/-- The remainder, which has the sign of the dividend. There is none where there is no quotient. -/
def remainder (a b : Int64) : Except RunCause Datum :=
  if b = 0 ∨ (a = Int64.minValue ∧ b = -1) then .error (.arithmetic .remainder a b)
  else exactly .remainder a b (Int.tmod a.toInt b.toInt)

namespace Datum

def number? : Datum → Option Decimal
  | .int value => some (.ofInt value.toInt)
  | .decimal value => some value
  | _ => none

def chars? : Datum → Option String
  | .char value => some value.toString
  | .text value => some value
  | _ => none

/-- How two texts are ordered: by their first characters that differ. -/
def compareTexts (a b : String) : Ordering :=
  if a = b then .eq else if a < b then .lt else .gt

/-- How two data are ordered, if they are. -/
def order? (a b : Datum) : Option Ordering :=
  match a, b with
  | .bool a, .bool b => some (compare a.toNat b.toNat)
  | .int a, .int b => some (compare a.toInt b.toInt)
  | _, _ =>
    match a.number?, b.number?, a.chars?, b.chars? with
    | some a, some b, _, _ => a.order? b
    | _, _, some a, some b => some (compareTexts a b)
    | _, _, _, _ => none

/-- An operator that has no meaning for its operands. -/
def noOperator (op : BinaryOp) (a b : Datum) : Except RunCause Datum :=
  .error (.unknownFunction op.spelling [a.argumentType, b.argumentType])

/-- Whether two data are ordered as asked. Two lists or two maps have no order at all; else data
    that are not in order are just not. -/
def ordered (op : BinaryOp) (asked : Ordering → Bool) (a b : Datum) : Except RunCause Datum :=
  match a, b with
  | .array _, .array _ | .map _, .map _ | .range _ _ false, .range _ _ false
  | .range _ _ true, .range _ _ true => noOperator op a b
  | _, _ =>
    match order? a b with
    | some order => .ok (.bool (asked order))
    | none => .ok (.bool false)

/-- The result of an operation on numbers, if two data are. -/
def calculate (op : BinaryOp) (operation : Decimal → Decimal → Decimal) (a b : Datum) :
    Except RunCause Datum :=
  match a.number?, b.number? with
  | some x, some y => .ok (.decimal (operation x y))
  | _, _ => noOperator op a b

/-- Whether two data are characters or texts of them, and one of them is empty. -/
def hasEmptyText (a b : Datum) : Bool :=
  match a.chars?, b.chars? with
  | some a, some b => a.isEmpty || b.isEmpty
  | _, _ => false

/-- The sum of two data: of numbers, of lists, of maps, or of anything with a text. Entries of the
    right map take the places of those of the left one. -/
def sum (a b : Datum) : Except RunCause Datum :=
  match a, b with
  | .int a, .int b => exactly .addition a b (a.toInt + b.toInt)
  | .text a, b => .ok (.text (a ++ b.shown))
  | a, .text b => .ok (.text (a.shown ++ b))
  | .char a, .char b => .ok (.text (a.toString ++ b.toString))
  | .array as, .array bs => .ok (.array (as ++ bs))
  | .map as, .map bs => .ok (.map (Table.insertAll as bs))
  | a, b => calculate .add Decimal.add a b

/-- The first text without the parts of it that are the second one. An empty text is left alone, and
    of two texts only the other one is left. -/
def without (a b : String) : String :=
  if b.isEmpty then a
  else if a.isEmpty then b
  else String.ofList (dropParts b.toList 0 a.toList)

end Datum

namespace BinaryOp

def apply (op : BinaryOp) (a b : Datum) : Except RunCause Datum :=
  match op, a, b with
  | .add, a, b => a.sum b
  | .subtract, .int a, .int b => exactly .subtraction a b (a.toInt - b.toInt)
  | .subtract, .text a, .text b => .ok (.text (Datum.without a b))
  | .subtract, .text a, .char b => .ok (.text (String.ofList (a.toList.filter (· != b))))
  | .multiply, .int a, .int b => exactly .multiplication a b (a.toInt * b.toInt)
  | .divide, .int a, .int b => quotient a b
  | .remainder, .int a, .int b => Script.remainder a b
  | .less, a, b => Datum.ordered op (· == .lt) a b
  | .lessEqual, a, b => Datum.ordered op (· != .gt) a b
  | .greater, a, b => Datum.ordered op (· == .gt) a b
  | .greaterEqual, a, b => Datum.ordered op (· != .lt) a b
  | .subtract, a, b => Datum.calculate op Decimal.subtract a b
  | .multiply, a, b => Datum.calculate op Decimal.multiply a b
  | .divide, a, b => Datum.calculate op Decimal.divide a b
  | .remainder, a, b => Datum.calculate op Decimal.remainder a b
  | .equal, a, b => .ok (.bool (a.equals b))
  | .notEqual, a, b => .ok (.bool (!a.equals b))
  | .range, .int a, .int b => .ok (.range a b false)
  | .rangeInclusive, .int a, .int b => .ok (.range a b true)
  | op, a, b => Datum.noOperator op a b

/-- The result of an operator, unless it is a sum that is too large. A text that only has an empty
    one added to it is not measured again. -/
def result (allowance : Allowance) (op : BinaryOp) (a b : Datum) : Except RunCause Datum := do
  let datum ← op.apply a b
  if op == .add && !Datum.hasEmptyText a b then allowance.accept datum else pure datum

/-- The result of an operator that changes its left operand. A list grows by a datum, or by the
    items of another one; the latter is measured only before. -/
def accumulate (allowance : Allowance) (op : BinaryOp) (old new : Datum) : Except RunCause Datum :=
  match op, old, new with
  | .add, .array items, .array more => do
    if items.isEmpty || more.isEmpty then pure ()
    else let _ ← allowance.accept old
    pure (.array (items ++ more))
  | .add, .array items, new => allowance.accept (.array (items ++ [new]))
  | op, old, new => op.result allowance old new

/-- Whether an operator is part of the language for operands, and not a function. -/
def isBuiltIn (op : BinaryOp) (a b : Datum) : Bool :=
  match a, b with
  | .bool _, .bool _ | .unit, .unit => true
  | .array _, .array _ | .map _, .map _ | .range .., _ | _, .range .. => false
  | a, b =>
    (a.number?.isSome && b.number?.isSome) || (a.chars?.isSome && b.chars?.isSome) ||
      op.defaultsToFalse || op == .notEqual

/-- What an operator gives for constant operands. What fails, or is left to a function, is left for
    the run. -/
def fold? (allowance : Allowance) (op : BinaryOp) (a b : Datum) : Option Datum :=
  if op.isBuiltIn a b then (op.result allowance a b).toOption else none

end BinaryOp

/-- The result of an operator before its operand. -/
def UnaryOp.apply (op : UnaryOp) (a : Datum) : Except RunCause Datum :=
  match op, a with
  | .plus, .int a => .ok (.int a)
  | .plus, .decimal a => .ok (.decimal a)
  | .minus, .int a =>
    match Datum.ofInt? (-a.toInt) with
    | some datum => .ok datum
    | none => .error (.negation a)
  | .minus, .decimal a => .ok (.decimal a.negate)
  | .not, .bool a => .ok (.bool !a)
  | op, a => .error (.unknownFunction op.spelling [a.argumentType])

end ScriptBridge.Script
