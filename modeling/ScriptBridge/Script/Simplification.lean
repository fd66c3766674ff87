import ScriptBridge.Script.Access

/-!
# Simplification

A program is simplified before it is run. Operators on constants are evaluated, names of constants
replaced by what they stand for, choices with constant conditions decided, and statements that do
nothing removed. A statement counts as doing nothing even if it would fail, as reading a name that
there is not; this is part of what programs mean, so that no step here may be left out.

A block is gone through until nothing changes. `Simplify` keeps whether something has, and what is
known of the names in scope.
-/

namespace ScriptBridge.Script

/-- What is known while a program is simplified. -/
structure Knowledge where
  changed : Bool
  /-- The names declared so far, the last one first, with the data of those that are constant. -/
  names : List (String × Option Datum)

abbrev Simplify (α : Type) := StateM Knowledge α

namespace Simplify

def replace {α : Type} (a : α) : Simplify α :=
  modifyGet fun known => (a, { known with changed := true })

def known? (name : String) : Simplify (Option Datum) := do
  pure (((← get).names.lookup name).getD none)

def declare (name : String) (value : Option Datum) : Simplify Unit :=
  modify fun known => { known with names := (name, value) :: known.names }

/-- Forgets all names but so many. -/
def forget (count : Nat) : Simplify Unit :=
  modify fun known => { known with names := known.names.drop (known.names.length - count) }

/-- Marks the start of a pass, and says whether something was changed before. -/
def startPass : Simplify Bool :=
  modifyGet fun known => (known.changed, { known with changed := false })

/-- Notes that something was changed if it was. -/
def note (changed : Bool) : Simplify Unit :=
  modify fun known => { known with changed := known.changed || changed }

end Simplify

open Simplify

/-- The statements with those of inner blocks in their places, if nothing is declared in them. The
    number bounds how deep blocks are. -/
def flattenBlocks : Nat → List Stmt → List Stmt
  | 0, stmts => stmts
  | _, [] => []
  | n + 1, .block body :: rest =>
    if body.any Stmt.isLocal then .block body :: flattenBlocks n rest
    else flattenBlocks n (body ++ rest)
  | n + 1, stmt :: rest => stmt :: flattenBlocks n rest

/-- Whether there is an inner block in which nothing is declared. -/
def hasOpenBlock (stmts : List Stmt) : Bool :=
  stmts.any fun
    | .block body => !body.any Stmt.isLocal
    | _ => false

/-- The statements up to the first one behind which nothing is run. -/
def cutBehindBreak : List Stmt → List Stmt
  | [] => []
  | stmt :: rest => if stmt.breaksOff then [stmt] else stmt :: cutBehindBreak rest

/-- Whether a statement counts as doing nothing: in an inner block declarations can. -/
def isIdle (isInner : Bool) (stmt : Stmt) : Bool :=
  if isInner then stmt.isPureWithin else stmt.isPure

/-- Whether statements before a statement are kept for it even if they do nothing outside. -/
def isAnchor (isInner : Bool) (stmt : Stmt) : Bool :=
  !isIdle isInner stmt ||
    match stmt with
    | .declare _ value _ _ => value.isConstant
    | .importModule path _ => !path.isConstant
    | .expr expr => !expr.isConstant
    | _ => false

/-- The place of the last anchor of some statements; zero if there is none. -/
def lastAnchor (isInner : Bool) (stmts : List Stmt) : Nat :=
  stmts.length - 1 - (stmts.reverse.findIdx (isAnchor isInner))

/-- The statements without those that do nothing. The last one is kept if the block gives its datum.
    Before the last anchor only those go that do nothing within the block as well. -/
def dropIdle (keepLast isInner : Bool) : (anchor index : Nat) → List Stmt → List Stmt
  | _, _, [] => []
  | anchor, index, stmt :: rest =>
    if keepLast && rest.isEmpty then [stmt]
    else if isIdle isInner stmt && anchor ≤ index then dropIdle keepLast isInner anchor index rest
    else if stmt.isPure then dropIdle keepLast isInner (anchor - 1) index rest
    else stmt :: dropIdle keepLast isInner anchor (index + 1) rest

/-- The end of a block that gives a datum, last statement first: a `return` at the end of a program
    is what it gives, and statements that do nothing and give nothing go. The number bounds how many
    steps that takes. -/
def trimEnd (isOutermost isInner : Bool) : Nat → List Stmt → List Stmt
  | 0, stmts => stmts
  | n + 1, stmts =>
    match stmts with
    | [.finish] => if isOutermost then [] else stmts
    | [stmt] =>
      if !stmt.yields && isIdle isInner stmt then []
      else
        match stmt with
        | .finishWith value => if isOutermost then [.expr value] else stmts
        | _ => stmts
    | .finish :: second :: rest =>
      if !isOutermost then stmts
      else if second.yields then .noop :: second :: rest
      else trimEnd isOutermost isInner n (second :: rest)
    | .finishWith value :: second :: rest =>
      if isOutermost then .expr value :: second :: rest else stmts
    | last :: second :: rest =>
      if last.yields || !isIdle isInner last then stmts
      else if second.yields then .noop :: second :: rest
      else trimEnd isOutermost isInner n (second :: rest)
    | [] => []

/-- How a block is simplified. -/
structure Purpose where
  /-- Whether the block gives the datum of its last statement. -/
  keepLast : Bool
  isInner : Bool
  isOutermost : Bool

namespace Purpose

def program : Purpose := ⟨true, false, true⟩

def inner (keepLast : Bool) : Purpose := ⟨keepLast, true, false⟩

end Purpose

/-- The statements without those that do nothing. -/
def tidy (purpose : Purpose) (stmts : List Stmt) : List Stmt :=
  let stmts := dropIdle purpose.keepLast purpose.isInner (lastAnchor purpose.isInner stmts) 0 stmts
  if purpose.keepLast then
    (trimEnd purpose.isOutermost purpose.isInner (stmts.length + 1) stmts.reverse).reverse
  else (stmts.reverse.dropWhile (isIdle purpose.isInner)).reverse

/-- Whether statements were dropped, or the last one turned into another one. -/
def hasChanged (before after : List Stmt) : Bool :=
  before.length != after.length ||
    before.getLast?.map Stmt.isNoop != after.getLast?.map Stmt.isNoop ||
    before.getLast?.map Stmt.isFinish != after.getLast?.map Stmt.isFinish

/-- Whether an item of an expression can be taken out without the others. -/
def isPlainRoot : Expr → Bool
  | .array items _ | .map _ items _ => pureItems items
  | .literal (.text _) _ | .literal (.int _) _ => true
  | _ => false

def Expr.moveTo (pos : Position) : Expr → Expr
  | .literal value _ => .literal value pos
  | .name spelling _ => .name spelling pos
  | .member root inner spelling rootPos _ => .member root inner spelling rootPos pos
  | .array items _ => .array items pos
  | .map keys items _ => .map keys items pos
  | .block body _ => .block body pos
  | .connect op left right _ => .connect op left right pos
  | expr => expr

/-- What a single link leads to from a root that is written out. -/
def pick? (root : Expr) (link : Link) : Option Expr :=
  if !isPlainRoot root then none
  else
    match root, link with
    | .array items pos, .index (.literal (.int index) _) _ =>
      ((Datum.place? items.length index.toInt).bind (items[·]?)).map (Expr.moveTo pos)
    | .map keys items pos, .index (.literal (.text key) _) _
    | .map keys items pos, .property key _ _ =>
      some ((((keys.zip items).lookup key).map (Expr.moveTo pos)).getD (.nothing pos))
    | .literal datum pos, .index (.literal (.int index) _) _ =>
      match datum.item (.int index) with
      | .ok item => some (.literal item pos)
      | .error _ => none
    | _, _ => none

/-- The name of the function that gives the type of a datum. -/
def typeFunction : String := "type_of"

/-- What a method gives for a constant, if that is known. -/
def pickMethod? (root : Expr) (link : Link) : Option Expr :=
  match root.constant?, link with
  | some datum, .method name [] namePos _ =>
    if name = typeFunction then some (.literal (.text datum.typeName) namePos) else none
  | _, _ => none

def foldBinary? (allowance : Allowance) (op : BinaryOp) (left right : Expr) : Option Datum :=
  match left.constant?, right.constant? with
  | some a, some b => op.fold? allowance a b
  | _, _ => none

/-- What a function gives for a constant, if that is known. -/
def foldCall? (function : String) (args : List Expr) : Option Datum :=
  match args with
  | [arg] =>
    if function = typeFunction then arg.constant?.map fun datum => .text datum.typeName else none
  | _ => none

/-- The operator and the right operand of a value that an operator makes of the variable it is
    assigned to. -/
def accumulation? (name : String) : Expr → Option (BinaryOp × Expr × Position)
  | .binary op (.name operand _) right pos =>
    if op.assigns && operand == name then some (op, right, pos) else none
  | _ => none

def ofBlock (body : List Stmt) : Stmt :=
  if body.isEmpty then .noop else .block body

mutual

def simplifyExpr (allowance : Allowance) : Nat → Expr → Simplify Expr
  | 0, expr => pure expr
  | n + 1, expr =>
    match expr with
    | .literal .. | .member .. => pure expr
    | .name name pos => do
      match ← known? name with
      | some datum => replace (.literal datum pos)
      | none => pure expr
    | .array items pos => do
      match expr.constant? with
      | some datum => replace (.literal datum pos)
      | none => pure (.array (← simplifyItems allowance n items) pos)
    | .map keys items pos => do
      match expr.constant? with
      | some datum => replace (.literal datum pos)
      | none => pure (.map keys (← simplifyItems allowance n items) pos)
    | .call function args pos => do
      match foldCall? function args with
      | some datum => replace (.literal datum pos)
      | none => pure (.call function (← simplifyItems allowance n args) pos)
    | .chain root links => do
      let picked := match links with
        | [link] => (pick? root link).orElse fun _ => pickMethod? root link
        | _ => none
      match picked with
      | some expr => replace expr
      | none => do
        let root ← if root.isName then pure root else simplifyExpr allowance n root
        pure (.chain root (← simplifyLinks allowance n links))
    | .unary op operand pos => do
      match op, operand with
      | .not, .literal (.bool value) _ => replace (.literal (.bool !value) pos)
      | _, _ => pure (.unary op (← simplifyExpr allowance n operand) pos)
    | .binary op left right pos => do
      match foldBinary? allowance op left right with
      | some datum => replace (.literal datum pos)
      | none => do
        let left ← simplifyExpr allowance n left
        let right ← simplifyExpr allowance n right
        pure (.binary op left right pos)
    | .connect op left right pos => do
      match left, right with
      | .literal (.bool value) leftPos, right =>
        if value == op.decisive then replace (.literal (.bool value) leftPos)
        else do replace (← simplifyExpr allowance n right)
      | left, .literal (.bool value) rightPos =>
        if value == op.decisive then do
          pure (.connect op (← simplifyExpr allowance n left) (.literal (.bool value) rightPos) pos)
        else do replace (← simplifyExpr allowance n left)
      | left, right => do
        let left ← simplifyExpr allowance n left
        let right ← simplifyExpr allowance n right
        pure (.connect op left right pos)
    | .block body pos => do
      match body with
      | [] => replace (.nothing pos)
      | [.expr inner] => do replace (← simplifyExpr allowance n inner)
      | body => do
        match ← simplifyBody allowance n (.inner true) body with
        | [.expr inner] => replace inner
        | body => pure (.block body pos)

/-- Simplifies expressions, from the first to the last. -/
def simplifyItems (allowance : Allowance) : Nat → List Expr → Simplify (List Expr)
  | 0, items => pure items
  | _, [] => pure []
  | n + 1, item :: rest => do
    let item ← simplifyExpr allowance n item
    pure (item :: (← simplifyItems allowance n rest))

def simplifyLinks (allowance : Allowance) : Nat → List Link → Simplify (List Link)
  | 0, links => pure links
  | _, [] => pure []
  | n + 1, link :: rest => do
    let link ← match link with
      | .index key pos => do pure (.index (← simplifyExpr allowance n key) pos)
      | .method name args namePos pos => do
        pure (.method name (← simplifyItems allowance n args) namePos pos)
      | link => pure link
    pure (link :: (← simplifyLinks allowance n rest))

/-- Simplifies a statement. The datum of some statements is not kept. -/
def simplifyStmt (allowance : Allowance) : Nat → (keepDatum : Bool) → Stmt → Simplify Stmt
  | 0, _, stmt => pure stmt
  | n + 1, keepDatum, stmt =>
    match stmt with
    | .expr (.block body _) => do
      if body.isEmpty then replace .noop
      else do replace (.block (← simplifyBody allowance n (.inner keepDatum) body))
    | .expr expr => do pure (.expr (← simplifyExpr allowance n expr))
    | .declare name value constant exported => do
      let value ← simplifyExpr allowance n value
      declare name (if constant then value.constant? else none)
      pure (.declare name value constant exported)
    | .assign name namePos links op value pos => do
      match links, op, accumulation? name value with
      | [], none, some (op, value, pos) => replace (.assign name namePos [] (some op) value pos)
      | _, _, _ => do
        let links ← simplifyLinks allowance n links
        pure (.assign name namePos links op (← simplifyExpr allowance n value) pos)
    | .block body => do
      match ← simplifyBody allowance n (.inner keepDatum) body with
      | [] => replace .noop
      | [stmt] => if stmt.isLocal then pure (.block [stmt]) else replace stmt
      | body => pure (.block body)
    | .branch condition [] [] => do
      let condition ← simplifyExpr allowance n condition
      replace (if keepDatum then .block [.expr condition, .noop] else .expr condition)
    | .branch (.literal (.bool value) _) yes no => do
      if !value && no.isEmpty then replace .noop
      else do
        let body := if value then yes else no
        replace (ofBlock (← simplifyBody allowance n (.inner keepDatum) body))
    | .branch condition yes no => do
      let condition ← simplifyExpr allowance n condition
      let yes ← simplifyBody allowance n (.inner keepDatum) yes
      pure (.branch condition yes (← simplifyBody allowance n (.inner keepDatum) no))
    | .repeat (.literal (.bool false) _) _ _ => replace .noop
    | .repeat condition body pos => do
      let condition ← simplifyExpr allowance n condition
      let body ← simplifyBody allowance n (.inner false) body
      match condition with
      | .literal (.bool true) _ | .literal .unit _ => pure (.loop body pos)
      | condition => pure (.repeat condition body pos)
    | .loop body pos => do pure (.loop (← simplifyBody allowance n (.inner false) body) pos)
    | .forEach name items body pos => do
      let items ← simplifyExpr allowance n items
      pure (.forEach name items (← simplifyBody allowance n (.inner false) body) pos)
    | .leave value => do pure (.leave (← simplifyExpr allowance n value))
    | .finishWith value => do pure (.finishWith (← simplifyExpr allowance n value))
    | .throw value pos => do pure (.throw (← simplifyExpr allowance n value) pos)
    | .importModule path name => do pure (.importModule (← simplifyExpr allowance n path) name)
    | .noop | .skip | .finish | .exportName .. => pure stmt

/-- Simplifies statements one after the other. Only the datum of the last one can be kept. -/
def simplifyStmts (allowance : Allowance) :
    Nat → (keepDatum : Bool) → List Stmt → Simplify (List Stmt)
  | 0, _, stmts => pure stmts
  | _, _, [] => pure []
  | n + 1, keepDatum, stmt :: rest => do
    let stmt ← simplifyStmt allowance n (keepDatum && rest.isEmpty) stmt
    pure (stmt :: (← simplifyStmts allowance n keepDatum rest))

/-- Goes through the statements of a block until nothing changes. -/
def simplifyPasses (allowance : Allowance) : Nat → Purpose → List Stmt → Simplify (List Stmt)
  | 0, _, stmts => pure stmts
  | n + 1, purpose, stmts => do
    let before ← startPass
    let count := (← get).names.length
    let reached := cutBehindBreak stmts
    let simplified ← simplifyStmts allowance n purpose.keepLast reached
    let tidied := tidy purpose simplified
    forget count
    let changed := (← get).changed || hasChanged stmts reached || hasChanged simplified tidied
    note (before || changed)
    if changed then simplifyPasses allowance n purpose tidied else pure tidied

def simplifyBody (allowance : Allowance) : Nat → Purpose → List Stmt → Simplify (List Stmt)
  | 0, _, stmts => pure stmts
  | n + 1, purpose, stmts => do
    note (hasOpenBlock stmts)
    simplifyPasses allowance n purpose (flattenBlocks n stmts)

end

/-- The simplified program. The number bounds how deep the program is and how often it is gone
    through. -/
def Program.simplify (allowance : Allowance) (depth : Nat) (program : Program) : Program :=
  ((simplifyBody allowance depth .program program).run ⟨false, []⟩).1

end ScriptBridge.Script
