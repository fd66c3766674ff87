import ScriptBridge.Script.Access
import ScriptBridge.Script.Function

/-!
# Running programs

`Program.run` runs a program in a scope. Loops and imports are what a script can hang in, so that
they are counted as turns against the number of operations that it may take; everything else follows
the tree of the program. A fault keeps what was written before. How a module is found and made is
left to an importer, which the frame of a run brings.
-/

namespace ScriptBridge.Script

/-- A name in scope. -/
structure Binding where
  name : String
  value : Datum
  /-- The datum that a constant had at first. Nothing that this contains can be changed. -/
  sealed : Option Datum
  /-- The names under which modules give the datum, the last one first. -/
  exports : List String

namespace Binding

def changeable (name : String) (value : Datum) : Binding := ⟨name, value, none, []⟩

def constant (name : String) (value : Datum) : Binding := ⟨name, value, some value, []⟩

def exportAs (label : String) (binding : Binding) : Binding :=
  if binding.exports.contains label then binding
  else { binding with exports := label :: binding.exports }

end Binding

/-- The names in scope, the last one first. A later name hides an earlier one that is the same. -/
abbrev Scope := List Binding

namespace Scope

def find? (name : String) (scope : Scope) : Option Binding :=
  List.find? (fun binding => binding.name == name) scope

def set (name : String) (value : Datum) : Scope → Scope
  | [] => []
  | binding :: rest =>
    if binding.name = name then { binding with value } :: rest
    else binding :: set name value rest

/-- Exports the last variable of a name. -/
def exportAs (name label : String) : Scope → Scope
  | [] => []
  | binding :: rest =>
    if binding.name = name then binding.exportAs label :: rest
    else binding :: exportAs name label rest

/-- What is exported, the last variable first. -/
def exported (scope : Scope) : List (String × Datum) :=
  scope.flatMap fun binding => binding.exports.map fun label => (label, binding.value)

end Scope

/-- A module: what the program of a file exported, and the modules that it imported itself, the last
    one first. -/
inductive Module where
  | mk (data : List (String × Datum)) (inner : List (String × Module))

namespace Module

/-- The datum of a name in a module that inner modules lead to. -/
def find? (name : String) : List String → Module → Option Datum
  | [], .mk data _ => data.lookup name
  | first :: rest, .mk _ inner => (inner.lookup first).bind (find? name rest)

end Module

/-- What changes while a script runs. -/
structure Machine where
  scope : Scope
  /-- The modules that are imported, the last one first. -/
  imports : List (String × Module)
  /-- The modules that were made, under the components of the paths of their files. -/
  modules : List (List String × Module)
  outlet : Outlet
  turns : Nat

/-- Why a part of a script does not go on to the next one. -/
inductive Stop where
  | fault (fault : RunFault)
  | leave (value : Datum)
  | skip
  | finish

/-- Finds the module of a path that is written at a place, and makes it if it was not made before. -/
abbrev Importer := String → Position → Machine → Except Stop Module × Machine

/-- What does not change while a script runs. -/
structure Frame where
  occasion : Occasion
  allowance : Allowance
  importer : Importer

abbrev Eval (α : Type) := ReaderT Frame (ExceptT Stop (StateM Machine)) α

namespace Eval

def fail {α : Type} (cause : RunCause) (pos : Position) : Eval α :=
  throw (.fault ⟨cause, pos⟩)

def lift {α : Type} (pos : Position) (result : Except RunCause α) : Eval α :=
  match result with
  | .ok a => pure a
  | .error cause => fail cause pos

def orStop {α : Type} (result : Except RunFault α) : Eval α :=
  match result with
  | .ok a => pure a
  | .error fault => throw (.fault fault)

def takeTurn (pos : Position) : Eval Unit := do
  let machine ← get
  match machine.turns with
  | 0 => fail .tooManyOperations pos
  | turns + 1 => set { machine with turns }

def lookup (name : String) (pos : Position) : Eval Binding := do
  match (← get).scope.find? name with
  | some binding => pure binding
  | none => fail (.unknownVariable name) pos

def declare (binding : Binding) : Eval Unit :=
  modify fun machine => { machine with scope := binding :: machine.scope }

/-- The datum of a name in an imported module. -/
def member (root : String) (inner : List String) (name : String) (pos : Position) : Eval Datum := do
  let spelling := String.intercalate "::" (root :: inner)
  match (← get).imports.lookup root with
  | some module =>
    match module.find? name inner with
    | some datum => pure datum
    | none => fail (.unknownVariable (spelling ++ "::" ++ name)) pos
  | none =>
    -- This name is kept for what functions of scripts can reach, of which there are none.
    if spelling = "global" then fail (.unknownVariable (spelling ++ "::" ++ name)) pos
    else fail (.unknownModule spelling) pos

/-- Imports the module of a path under a name. -/
def importModule (path : Datum) (name : String) (pathStart pathPos : Position) : Eval Unit := do
  match path with
  | .text path =>
    takeTurn pathStart
    let module ← fun frame machine => frame.importer path pathStart machine
    modify fun machine => { machine with imports := (name, module) :: machine.imports }
  | path => fail (.wrongType path.typeName "string") pathPos

def exportName (name label : String) (pos : Position) : Eval Unit := do
  let _ ← lookup name pos
  modify fun machine => { machine with scope := machine.scope.exportAs name label }

/-- Leaves the scope and the imports as they were when they had a number of names. -/
def shrink (size count : Nat) : Eval Unit :=
  modify fun machine => { machine with
    scope := machine.scope.drop (machine.scope.length - size)
    imports := machine.imports.drop (machine.imports.length - count) }

/-- Runs a part whose names are gone behind it, however it ends. -/
def inner {α : Type} (part : Eval α) : Eval α := do
  let before ← get
  try
    let result ← part
    shrink before.scope.length before.imports.length
    pure result
  catch stop =>
    shrink before.scope.length before.imports.length
    throw stop

def call (name : String) (args : List Datum) (pos : Position) : Eval Datum := do
  let frame ← read
  let machine ← get
  let (result, outlet) := Function.apply frame.occasion frame.allowance machine.outlet name args
  set { machine with outlet }
  lift pos result

def checkExtent (pos : Position) (extent : Extent) : Eval Unit := do
  match (← read).allowance.excess? extent with
  | some cause => fail cause pos
  | none => pure ()

def truth (pos : Position) (datum : Datum) : Eval Bool :=
  match datum with
  | .bool value => pure value
  | datum => fail (.wrongType datum.typeName "bool") pos

/-- The property of a name. A list is measured when its size is asked for. -/
def takeProperty (datum : Datum) (name : String) (pos : Position) : Eval Datum := do
  let result ← lift pos (datum.property name)
  match datum with
  | .array _ => checkExtent pos datum.extent
  | _ => pure ()
  pure result

/-- Takes a step: a method is a function whose first argument is the datum. -/
def takeStep (datum : Datum) : Step → Eval Datum
  | .index key keyPos pos =>
    orStop ((datum.item key).mapError (SlotFault.toRunFault datum key keyPos pos))
  | .property name namePos => takeProperty datum name namePos
  | .method name args namePos => call name (datum :: args) namePos

/-- Takes steps one after the other. -/
def follow (datum : Datum) (steps : List Step) : Eval Datum :=
  steps.foldlM takeStep datum

/-- Changes a variable, or what steps from it lead to. -/
def assign (name : String) (namePos : Position) (steps : List Step) (op : Option BinaryOp)
    (value : Datum) (pos : Position) : Eval Unit := do
  let binding ← lookup name namePos
  let assignment : Assignment := ⟨name, namePos, op, value, pos, (← read).allowance⟩
  let new ← orStop (assignment.apply binding.sealed steps binding.value)
  modify fun machine => { machine with scope := machine.scope.set name new }

/-- Takes the turns of a loop until one of them gives the datum of the loop. -/
def turnsWhile (turn : Frame → Machine → Except Stop (Option Datum) × Machine) (frame : Frame) :
    Nat → Machine → Except Stop Datum × Machine
  | 0, machine => (.ok .unit, machine)
  | n + 1, machine =>
    match turn frame machine with
    | (.ok none, machine) => turnsWhile turn frame n machine
    | (.ok (some datum), machine) => (.ok datum, machine)
    | (.error stop, machine) => (.error stop, machine)

/-- Repeats a turn until it gives the datum of the loop. Each turn is counted, so that there are no
    more of them than are left and the one that fails. -/
def repeatTurns (turn : Eval (Option Datum)) : Eval Datum := fun frame machine =>
  turnsWhile (fun frame machine => turn frame machine) frame (machine.turns + 1) machine

/-- Runs the body of a loop once. If it leaves the loop, it gives the datum of the loop. -/
def runTurn (body : Eval Datum) : Eval (Option Datum) :=
  try
    let _ ← body
    pure none
  catch
    | .leave datum => pure (some datum)
    | .skip => pure none
    | stop => throw stop

/-- Runs the body of a loop once for each item, while the loop goes on. -/
def forItems (turn : Datum → Eval (Option Datum)) : List Datum → Eval Datum
  | [] => pure .unit
  | item :: rest => do
    match ← turn item with
    | some datum => pure datum
    | none => forItems turn rest

/-- Runs the body of a loop for so many integers from one on, while the loop goes on. -/
def forNumbers (turn : Datum → Eval (Option Datum)) : Nat → Int → Eval Datum
  | 0, _ => pure .unit
  | n + 1, number => do
    match ← turn (.int (Int64.ofInt number)) with
    | some datum => pure datum
    | none => forNumbers turn n (number + 1)

def rangeSize (low high : Int64) (inclusive : Bool) : Nat :=
  (high.toInt - low.toInt + if inclusive then 1 else 0).toNat

/-- Runs the body of a loop for all that a datum consists of. -/
def forDatum (turn : Datum → Eval (Option Datum)) (pos : Position) : Datum → Eval Datum
  | .array items => forItems turn items
  | .text s => forItems turn (s.toList.map .char)
  | .range low high inclusive => forNumbers turn (rangeSize low high inclusive) low.toInt
  | _ => fail .notIterable pos

end Eval

open Eval

mutual

def evalExpr : Expr → Eval Datum
  | .literal value _ => pure value
  | .name name pos => do pure (← lookup name pos).value
  | .member root path name rootPos _ => member root path name rootPos
  | .array items _ => do pure (.array (← evalParts Extent.addItem .none items))
  | .map keys items _ => do
    pure (.map (Table.ofPairs (keys.zip (← evalParts Extent.addEntry .none items))))
  | .call function args pos => do call function (← evalArgs args) pos
  | .chain root links => do
    let steps ← evalLinks links
    follow (← evalExpr root) steps
  | .unary op operand pos => do lift pos (op.apply (← evalExpr operand))
  | .binary op left right pos => do
    let a ← evalExpr left
    let b ← evalExpr right
    lift pos (op.result (← read).allowance a b)
  | .connect op left right _ => do
    let a ← truth left.pos (← evalExpr left)
    if a == op.decisive then pure (.bool a)
    else do pure (.bool (← truth right.pos (← evalExpr right)))
  | .block body _ => inner (evalBlock body)

/-- The data of the parts of a list or a map. What it is that they make up is measured behind each
    of them. -/
def evalParts (grow : Extent → Extent → Extent) (size : Extent) : List Expr → Eval (List Datum)
  | [] => pure []
  | item :: rest => do
    let datum ← evalExpr item
    let size := grow size datum.extent
    checkExtent item.pos size
    let data ← evalParts grow size rest
    pure (datum :: data)

/-- The data of expressions, from the first to the last. -/
def evalItems : List Expr → Eval (List Datum)
  | [] => pure []
  | item :: rest => do
    let datum ← evalExpr item
    let data ← evalItems rest
    pure (datum :: data)

/-- The data of arguments. A name in the first place is read last. -/
def evalArgs : List Expr → Eval (List Datum)
  | [] => pure []
  | first :: rest => do
    if first.isName then
      let data ← evalItems rest
      let datum ← evalExpr first
      pure (datum :: data)
    else
      let datum ← evalExpr first
      let data ← evalItems rest
      pure (datum :: data)

/-- The steps of links. Keys and arguments are evaluated before the first step is taken. -/
def evalLinks : List Link → Eval (List Step)
  | [] => pure []
  | .index key pos :: rest => do
    let datum ← evalExpr key
    let steps ← evalLinks rest
    pure (.index datum key.start pos :: steps)
  | .property name namePos _ :: rest => do
    let steps ← evalLinks rest
    pure (.property name namePos :: steps)
  | .method name args namePos _ :: rest => do
    let data ← evalItems args
    let steps ← evalLinks rest
    pure (.method name data namePos :: steps)

/-- Runs a statement and gives its datum: that of an expression, of the last statement of the block
    that was run, or of the loop that was left. -/
def evalStmt : Stmt → Eval Datum
  | .expr expr => evalExpr expr
  | .noop => pure .unit
  | .declare name value constant exported => do
    let datum ← evalExpr value
    let binding : Binding := if constant then .constant name datum else .changeable name datum
    declare (if exported then binding.exportAs name else binding)
    pure .unit
  | .assign name namePos links op value pos => do
    let value ← evalExpr value
    let steps ← evalLinks links
    assign name namePos steps op value pos
    pure .unit
  | .block body => inner (evalBlock body)
  | .branch condition yes no => do
    if ← truth condition.pos (← evalExpr condition) then inner (evalBlock yes)
    else inner (evalBlock no)
  | .repeat condition body pos =>
    repeatTurns do
      if ← truth condition.pos (← evalExpr condition) then
        takeTurn pos
        runTurn (inner (evalBlock body))
      else pure (some .unit)
  | .loop body pos =>
    repeatTurns do
      takeTurn pos
      runTurn (inner (evalBlock body))
  | .forEach name items body pos => do
    forDatum
      (fun item => do
        takeTurn pos
        inner do
          declare (.changeable name item)
          runTurn (inner (evalBlock body)))
      items.start (← evalExpr items)
  | .leave value => do throw (.leave (← evalExpr value))
  | .skip => throw .skip
  | .finish => throw .finish
  | .finishWith value => do
    let _ ← evalExpr value
    throw .finish
  | .throw value pos => do
    let datum ← evalExpr value
    fail (.thrown datum.display) pos
  | .importModule path name => do
    importModule (← evalExpr path) name path.start path.pos
    pure .unit
  | .exportName name label pos => do
    exportName name label pos
    pure .unit

/-- Runs statements one after the other and gives the datum of the last one. -/
def evalBlock : List Stmt → Eval Datum
  | [] => pure .unit
  | [stmt] => evalStmt stmt
  | stmt :: rest => do
    let _ ← evalStmt stmt
    evalBlock rest

end

/-- The number of turns that a script without a limit may take: more than it could ever use up. -/
def unlimitedTurns : Nat := 0x4000000000000000

/-- The number of turns that a script may take. -/
def Allowance.turns (allowance : Allowance) : Nat :=
  if allowance.operations = 0 then unlimitedTurns else allowance.operations

namespace Program

/-- Runs a program, and gives its fault if it has one. -/
def run (frame : Frame) (scope : Scope) (modules : List (List String × Module)) (outlet : Outlet)
    (program : Program) : Except RunFault Unit × Machine :=
  match evalBlock program frame ⟨scope, [], modules, outlet, frame.allowance.turns⟩ with
  | (.error (.fault fault), machine) => (.error fault, machine)
  | (_, machine) => (.ok (), machine)

/-- Runs a program to its end or to a `return`, among the names of what imports it, and gives what it
    exported and imported. Of its names nothing else is left. -/
def makeModule (program : Program) : Eval Module := do
  let before ← get
  try
    let _ ← evalBlock program
  catch
    | .finish => pure ()
    | stop => throw stop
  let after ← get
  shrink before.scope.length before.imports.length
  pure (.mk after.scope.exported
    (after.imports.take (after.imports.length - before.imports.length)))

end Program

end ScriptBridge.Script
