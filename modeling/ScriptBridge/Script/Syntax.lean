import ScriptBridge.Script.Datum
import ScriptBridge.Script.Position
import ScriptBridge.Table

/-!
# Syntax of scripts

Expressions and statements as trees. What a message can point at carries its place. An expression
has two places: `start`, where it begins, and `pos`, where what it does is written.
-/

namespace ScriptBridge.Script

/-- An operator before its operand. -/
inductive UnaryOp where
  | plus
  | minus
  | not
  deriving Repr, DecidableEq

def UnaryOp.spelling : UnaryOp → String
  | .plus => "+"
  | .minus => "-"
  | .not => "!"

/-- An operator between two operands that are both evaluated. -/
inductive BinaryOp where
  | add
  | subtract
  | multiply
  | divide
  | remainder
  | less
  | lessEqual
  | greater
  | greaterEqual
  | equal
  | notEqual
  | range
  | rangeInclusive
  deriving Repr, DecidableEq

namespace BinaryOp

def spelling : BinaryOp → String
  | .add => "+"
  | .subtract => "-"
  | .multiply => "*"
  | .divide => "/"
  | .remainder => "%"
  | .less => "<"
  | .lessEqual => "<="
  | .greater => ">"
  | .greaterEqual => ">="
  | .equal => "=="
  | .notEqual => "!="
  | .range => ".."
  | .rangeInclusive => "..="

/-- Whether the operator can stand before the mark of an assignment. -/
def assigns : BinaryOp → Bool
  | .add | .subtract | .multiply | .divide | .remainder => true
  | _ => false

/-- Whether the operator is a comparison that holds for no data of different types. -/
def defaultsToFalse : BinaryOp → Bool
  | .equal | .less | .lessEqual | .greater | .greaterEqual => true
  | _ => false

end BinaryOp

/-- An operator that evaluates its right operand only if need be. -/
inductive Connective where
  | and
  | or
  deriving Repr, DecidableEq

/-- The truth value of the left operand that decides the result alone. -/
def Connective.decisive : Connective → Bool
  | .and => false
  | .or => true

mutual

/-- An expression. -/
inductive Expr where
  | literal (value : Datum) (pos : Position)
  | name (name : String) (pos : Position)
  /-- A name in a module, which is found from an imported one through those that it imported. -/
  | member (root : String) (inner : List String) (name : String) (rootPos pos : Position)
  | array (items : List Expr) (pos : Position)
  | map (keys : List String) (items : List Expr) (pos : Position)
  | call (function : String) (args : List Expr) (pos : Position)
  /-- What is found by following links from a root. -/
  | chain (root : Expr) (links : List Link)
  | unary (op : UnaryOp) (operand : Expr) (pos : Position)
  | binary (op : BinaryOp) (left right : Expr) (pos : Position)
  | connect (op : Connective) (left right : Expr) (pos : Position)
  /-- Statements of which the last one gives the datum. -/
  | block (body : List Stmt) (pos : Position)

/-- A step into a datum, with the place of its bracket or its point. -/
inductive Link where
  | index (key : Expr) (pos : Position)
  | property (name : String) (namePos pos : Position)
  | method (name : String) (args : List Expr) (namePos pos : Position)

/-- A statement. -/
inductive Stmt where
  | expr (expr : Expr)
  /-- Does nothing. -/
  | noop
  | declare (name : String) (value : Expr) (constant exported : Bool)
  /-- Changes a variable, or what its links lead to; with an operator, the old datum is its left
      operand. -/
  | assign (name : String) (namePos : Position) (links : List Link) (op : Option BinaryOp)
      (value : Expr) (pos : Position)
  | block (body : List Stmt)
  | branch (condition : Expr) (yes no : List Stmt)
  /-- Runs a block while a condition holds. Loops have the places of their blocks. -/
  | repeat (condition : Expr) (body : List Stmt) (pos : Position)
  /-- Runs a block until it is left. -/
  | loop (body : List Stmt) (pos : Position)
  | forEach (name : String) (items : Expr) (body : List Stmt) (pos : Position)
  | leave (value : Expr)
  | skip
  | finish
  | finishWith (value : Expr)
  | throw (value : Expr) (pos : Position)
  /-- Imports the module of a path under a name, or under none if that is empty. -/
  | importModule (path : Expr) (name : String)
  /-- Gives a variable to those that import this program as a module. -/
  | exportName (name label : String) (pos : Position)

end

abbrev Program := List Stmt

def Link.pos : Link → Position
  | .index _ pos | .property _ _ pos | .method _ _ _ pos => pos

namespace Expr

/-- The first place of an expression. A comparison and a sum start at their operators. -/
def start : Expr → Position
  | .chain root _ => start root
  | .connect _ left _ _ => start left
  | .member _ _ _ rootPos _ => rootPos
  | .literal _ pos | .name _ pos | .array _ pos | .map _ _ pos | .call _ _ pos | .unary _ _ pos
  | .binary _ _ _ pos | .block _ pos => pos

/-- The place that stands for an expression in messages about its datum. -/
def pos : Expr → Position
  | .chain root links => (links.head?.map Link.pos).getD root.start
  | .literal _ pos | .name _ pos | .member _ _ _ _ pos | .array _ pos | .map _ _ pos
  | .call _ _ pos | .unary _ _ pos | .binary _ _ _ pos | .connect _ _ _ pos | .block _ pos => pos

/-- The datum that is not there. -/
def nothing (pos : Position) : Expr := .literal .unit pos

def isName : Expr → Bool
  | .name .. | .member .. => true
  | _ => false

/-- What an expression certainly is instead of a truth value. -/
def notBool? : Expr → Option String
  | .literal (.int _) _ => some "a number"
  | .literal (.decimal _) _ => some "a floating-point number"
  | .literal (.char _) _ => some "a character"
  | .literal (.text _) _ => some "a string"
  | .literal .unit _ => some "()"
  | .array _ _ => some "an array"
  | .map _ _ _ => some "an object map"
  | _ => none

/-- What an expression certainly is instead of something that a loop can run through. -/
def notIterable? : Expr → Option String
  | .literal (.bool _) _ => some "a boolean"
  | .literal (.int _) _ => some "a number"
  | .literal (.decimal _) _ => some "a floating-point number"
  | .literal (.char _) _ => some "a character"
  | .literal .unit _ => some "()"
  | .map _ _ _ => some "an object map"
  | _ => none

/-- What a key certainly is instead of an integer or a text. -/
def notKey? : Expr → Option String
  | .literal (.decimal _) _ => some "a floating-point number"
  | .literal (.char _) _ => some "a character"
  | .literal .unit _ => some "()"
  | .literal (.bool _) _ | .connect .. => some "a boolean"
  | _ => none

end Expr

mutual

/-- The datum of an expression that is the same in every run. -/
def Expr.constant? : Expr → Option Datum
  | .literal value _ => some value
  | .array items _ => (constantItems? items).map .array
  | .map keys items _ => (constantItems? items).map fun data => .map (Table.ofPairs (keys.zip data))
  | _ => none

/-- The data of expressions that are all constant. -/
def constantItems? : List Expr → Option (List Datum)
  | [] => some []
  | item :: rest =>
    match item.constant?, constantItems? rest with
    | some datum, some data => some (datum :: data)
    | _, _ => none

end

/-- Whether the datum of an expression is the same in every run. -/
def Expr.isConstant (expr : Expr) : Bool :=
  expr.constant?.isSome

mutual

/-- Whether evaluating an expression counts as doing nothing. Reading a name does, even if there is
    no such name; calling a function or an operator does not. -/
def Expr.isPure : Expr → Bool
  | .literal _ _ | .name _ _ | .member .. => true
  | .array items _ | .map _ items _ => pureItems items
  | .connect _ left right _ => left.isPure && right.isPure
  | .block body _ => pureBody body
  | _ => false

/-- Whether all of some expressions are pure. -/
def pureItems : List Expr → Bool
  | [] => true
  | item :: rest => item.isPure && pureItems rest

/-- Whether running a statement counts as doing nothing. A loop that may not end does not. -/
def Stmt.isPure : Stmt → Bool
  | .noop => true
  | .expr expr => expr.isPure
  | .block body => pureBody body
  | .branch condition yes no => condition.isPure && pureBody yes && pureBody no
  | .repeat (.literal (.bool false) _) _ _ => true
  | .forEach _ items body _ => items.isPure && pureBody body
  | _ => false

/-- Whether all of some statements are pure. -/
def pureBody : List Stmt → Bool
  | [] => true
  | stmt :: rest => stmt.isPure && pureBody rest

end

mutual

/-- Whether a statement counts as doing nothing for what is outside of its block: a declaration
    does, if its value is pure, and an import, if its path is. -/
def Stmt.isPureWithin : Stmt → Bool
  | .declare _ value _ _ => value.isPure
  | .importModule path _ => path.isPure
  | .exportName .. => true
  | .expr (.block body _) => pureWithin body
  | stmt => stmt.isPure

/-- Whether all of some statements are pure for what is outside of their block. -/
def pureWithin : List Stmt → Bool
  | [] => true
  | stmt :: rest => stmt.isPureWithin && pureWithin rest

end

mutual

def Stmt.isLocal : Stmt → Bool
  | .declare .. | .importModule .. | .exportName .. => true
  | .expr (.block body _) => allLocal body
  | _ => false

/-- Whether all of some statements have to stay within their block. -/
def allLocal : List Stmt → Bool
  | [] => true
  | stmt :: rest => stmt.isLocal && allLocal rest

end

namespace Stmt

/-- Whether a statement ends by itself, without a semicolon. -/
def endsItself : Stmt → Bool
  | .block _ | .branch .. | .repeat .. | .loop .. | .forEach .. => true
  | _ => false

def yields : Stmt → Bool
  | .expr _ | .block _ | .branch .. => true
  | _ => false

/-- Whether a statement does nothing at all. -/
def isNoop : Stmt → Bool
  | .noop => true
  | _ => false

def isFinish : Stmt → Bool
  | .finish | .finishWith _ => true
  | _ => false

/-- Whether nothing behind a statement is run. -/
def breaksOff : Stmt → Bool
  | .leave _ | .skip | .finish | .finishWith _ | .throw .. => true
  | _ => false

end Stmt

end ScriptBridge.Script
