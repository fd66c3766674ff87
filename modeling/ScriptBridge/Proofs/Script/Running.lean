import ScriptBridge.Proofs.Bridge.Forgetting
import ScriptBridge.Script.Importing

/-! # What running a program keeps

A program reaches the outlet through the functions that it calls, and in no other way. Machines that
differ in their outlets alone therefore do the same, part by part, as long as the functions do not
tell the outlets apart; and the outlets stay as they stand to each other. The modules that a program
imports are programs as well, so that the same holds of them by induction on how deep they are.
-/

namespace ScriptBridge.Script

/-- Functions give the same with outlets that stand in a relation, and leave them in it. -/
def FunctionsRespect (R : Outlet → Outlet → Prop) : Prop :=
  ∀ occasion allowance name args outlet other, R outlet other →
    InStep R (Function.apply occasion allowance outlet name args)
      (Function.apply occasion allowance other name args)

/-- Machines that differ in their outlets alone, which stand in a relation. -/
def Machine.Beside (R : Outlet → Outlet → Prop) (machine other : Machine) : Prop :=
  ∃ outlet, other = { machine with outlet } ∧ R machine.outlet outlet

/-- Importing does the same in machines that differ in their outlets alone, and leaves them so. -/
def Importer.Respects (R : Outlet → Outlet → Prop) (importer : Importer) : Prop :=
  ∀ path pos machine other, machine.Beside R other →
    InStep (Machine.Beside R) (importer path pos machine) (importer path pos other)

namespace Eval

variable {α β : Type} {R : Outlet → Outlet → Prop}

/-- A part of a script does the same in machines that differ in their outlets alone, and leaves them
    so, if importing does. -/
def Respects (R : Outlet → Outlet → Prop) (part : Eval α) : Prop :=
  ∀ frame, frame.importer.Respects R → ∀ machine other, machine.Beside R other →
    InStep (Machine.Beside R) (part frame machine) (part frame other)

theorem bind_ok {part : Eval α} {next : α → Eval β} {frame : Frame} {machine after : Machine}
    {a : α} (called : part frame machine = (.ok a, after)) :
    (part >>= next) frame machine = next a frame after := by
  simp only [bind, ReaderT.bind, ExceptT.bind, ExceptT.mk, StateT.bind, called]
  rfl

theorem bind_error {part : Eval α} {next : α → Eval β} {frame : Frame} {machine after : Machine}
    {stop : Stop} (called : part frame machine = (.error stop, after)) :
    (part >>= next) frame machine = (.error stop, after) := by
  simp only [bind, ReaderT.bind, ExceptT.bind, ExceptT.mk, StateT.bind, called]
  rfl

theorem tryCatch_ok {part : Eval α} {handler : Stop → Eval α} {frame : Frame}
    {machine after : Machine} {a : α} (called : part frame machine = (.ok a, after)) :
    (tryCatch part handler) frame machine = (.ok a, after) := by
  simp only [tryCatch, tryCatchThe, MonadExceptOf.tryCatch, ExceptT.tryCatch, ExceptT.mk, bind,
    StateT.bind, called]
  rfl

theorem tryCatch_error {part : Eval α} {handler : Stop → Eval α} {frame : Frame}
    {machine after : Machine} {stop : Stop} (called : part frame machine = (.error stop, after)) :
    (tryCatch part handler) frame machine = handler stop frame after := by
  simp only [tryCatch, tryCatchThe, MonadExceptOf.tryCatch, ExceptT.tryCatch, ExceptT.mk, bind,
    StateT.bind, called]

theorem respects_pure (a : α) : Respects R (pure a) :=
  fun _ _ _ _ beside => ⟨_, _, _, rfl, rfl, beside⟩

theorem respects_throw (stop : Stop) : Respects R (throw stop : Eval α) :=
  fun _ _ _ _ beside => ⟨_, _, _, rfl, rfl, beside⟩

theorem respects_bind {part : Eval α} {next : α → Eval β} (first : Respects R part)
    (rest : ∀ a, Respects R (next a)) : Respects R (part >>= next) := by
  intro frame imports machine other beside
  obtain ⟨result, after, after', called, called', beside⟩ :=
    first frame imports machine other beside
  cases result with
  | ok a =>
      rw [bind_ok called, bind_ok called']
      exact rest a frame imports after after' beside
  | error stop =>
      rw [bind_error called, bind_error called']
      exact ⟨_, _, _, rfl, rfl, beside⟩

theorem respects_tryCatch {part : Eval α} {handler : Stop → Eval α} (first : Respects R part)
    (rest : ∀ stop, Respects R (handler stop)) : Respects R (tryCatch part handler) := by
  intro frame imports machine other beside
  obtain ⟨result, after, after', called, called', beside⟩ :=
    first frame imports machine other beside
  cases result with
  | ok a =>
      rw [tryCatch_ok called, tryCatch_ok called']
      exact ⟨_, _, _, rfl, rfl, beside⟩
  | error stop =>
      rw [tryCatch_error called, tryCatch_error called']
      exact rest stop frame imports after after' beside

theorem respects_get (next : Machine → Eval α)
    (blind : ∀ (machine : Machine) outlet, next { machine with outlet } = next machine)
    (rest : ∀ machine, Respects R (next machine)) : Respects R (get >>= next) := by
  rintro frame imports machine _ ⟨outlet, rfl, related⟩
  have looked : ∀ machine : Machine,
      (get >>= next) frame machine = next machine frame machine := fun _ => rfl
  rw [looked, looked, blind machine outlet]
  exact rest machine frame imports machine _ ⟨outlet, rfl, related⟩

theorem respects_modify (change : Machine → Machine)
    (frames : ∀ (machine : Machine) outlet,
      change { machine with outlet } = { change machine with outlet }) :
    Respects R (modify change) := by
  rintro frame imports machine _ ⟨outlet, rfl, related⟩
  have kept : (change machine).outlet = machine.outlet := by
    have still := congrArg Machine.outlet (frames machine machine.outlet)
    exact still
  exact ⟨_, _, _, rfl, rfl, outlet, frames machine outlet, kept ▸ related⟩

theorem respects_read : Respects R (read : Eval Frame) :=
  fun _ _ _ _ beside => ⟨_, _, _, rfl, rfl, beside⟩

theorem respects_fail (cause : RunCause) (pos : Position) : Respects R (fail cause pos : Eval α) :=
  fun _ _ _ _ beside => ⟨_, _, _, rfl, rfl, beside⟩

theorem respects_lift (pos : Position) (result : Except RunCause α) :
    Respects R (lift pos result) := by
  cases result with
  | ok a => exact respects_pure a
  | error cause => exact respects_fail cause pos

theorem respects_orStop (result : Except RunFault α) : Respects R (orStop result) := by
  cases result with
  | ok a => exact respects_pure a
  | error fault => exact respects_throw (.fault fault)

theorem respects_takeTurn (pos : Position) : Respects R (takeTurn pos) := by
  rintro frame imports ⟨scope, imported, modules, outlet, turns⟩ _ ⟨other, rfl, related⟩
  cases turns with
  | zero => exact ⟨_, _, _, rfl, rfl, other, rfl, related⟩
  | succ turns => exact ⟨_, _, _, rfl, rfl, other, rfl, related⟩

theorem respects_lookup (name : String) (pos : Position) : Respects R (lookup name pos) := by
  refine respects_get _ (fun _ _ => rfl) fun machine => ?_
  split
  · exact respects_pure _
  · exact respects_fail _ pos

theorem respects_declare (binding : Binding) : Respects R (declare binding) :=
  respects_modify _ fun _ _ => rfl

theorem respects_member (root : String) (inner : List String) (name : String) (pos : Position) :
    Respects R (member root inner name pos) := by
  refine respects_get _ (fun _ _ => rfl) fun machine => ?_
  split
  · split
    · exact respects_pure _
    · exact respects_fail _ pos
  · split
    · exact respects_fail _ pos
    · exact respects_fail _ pos

/-- Only here other programs are reached. -/
theorem respects_importer (path : String) (pos : Position) :
    Respects R fun frame machine => frame.importer path pos machine :=
  fun _ imports machine other beside => imports path pos machine other beside

theorem respects_importModule (path : Datum) (name : String) (pathStart pathPos : Position) :
    Respects R (importModule path name pathStart pathPos) := by
  simp only [importModule]
  split
  · refine respects_bind (respects_takeTurn pathStart) fun _ => ?_
    exact respects_bind (respects_importer _ pathStart) fun _ => respects_modify _ fun _ _ => rfl
  · exact respects_fail _ pathPos

theorem respects_exportName (name label : String) (pos : Position) :
    Respects R (exportName name label pos) :=
  respects_bind (respects_lookup name pos) fun _ => respects_modify _ fun _ _ => rfl

theorem respects_shrink (size count : Nat) : Respects R (shrink size count) :=
  respects_modify _ fun _ _ => rfl

theorem respects_inner {part : Eval α} (respects : Respects R part) : Respects R (inner part) := by
  refine respects_get _ (fun _ _ => rfl) fun before => respects_tryCatch ?_ fun stop => ?_
  · refine respects_bind respects fun a => ?_
    exact respects_bind (respects_shrink _ _) fun _ => respects_pure a
  · exact respects_bind (respects_shrink _ _) fun _ => respects_throw stop

theorem respects_checkExtent (pos : Position) (extent : Extent) :
    Respects R (checkExtent pos extent) := by
  refine respects_bind respects_read fun frame => ?_
  cases frame.allowance.excess? extent with
  | none => exact respects_pure ()
  | some cause => exact respects_fail cause pos

theorem respects_truth (pos : Position) (datum : Datum) : Respects R (truth pos datum) := by
  simp only [truth]
  split
  · exact respects_pure _
  · exact respects_fail _ pos

theorem respects_takeProperty (datum : Datum) (name : String) (pos : Position) :
    Respects R (takeProperty datum name pos) := by
  refine respects_bind (respects_lift pos _) fun result => ?_
  dsimp only
  split
  · exact respects_bind (respects_checkExtent pos _) fun _ => respects_pure result
  · exact respects_pure result

/-- Only here the outlet is reached. -/
theorem respects_call (functions : FunctionsRespect R) (name : String) (args : List Datum)
    (pos : Position) : Respects R (call name args pos) := by
  rintro frame imports machine _ ⟨outlet, rfl, related⟩
  obtain ⟨result, next, next', applied, applied', related⟩ :=
    functions frame.occasion frame.allowance name args machine.outlet outlet related
  have called : ∀ machine : Machine, call name args pos frame machine =
      lift pos (Function.apply frame.occasion frame.allowance machine.outlet name args).1 frame
        { machine with
          outlet := (Function.apply frame.occasion frame.allowance machine.outlet name args).2 } :=
    fun _ => rfl
  rw [called, called, applied, applied']
  exact respects_lift pos result frame imports _ _ ⟨next', rfl, related⟩

theorem respects_takeStep (functions : FunctionsRespect R) (datum : Datum) (step : Step) :
    Respects R (takeStep datum step) := by
  cases step with
  | index key keyPos pos => exact respects_orStop _
  | property name namePos => exact respects_takeProperty datum name namePos
  | method name args namePos => exact respects_call functions name (datum :: args) namePos

theorem respects_follow (functions : FunctionsRespect R) (datum : Datum) (steps : List Step) :
    Respects R (follow datum steps) := by
  induction steps generalizing datum with
  | nil => exact respects_pure datum
  | cons step steps ih =>
      simp only [follow, List.foldlM_cons] at ih ⊢
      exact respects_bind (respects_takeStep functions datum step) ih

theorem respects_assign (name : String) (namePos : Position) (steps : List Step)
    (op : Option BinaryOp) (value : Datum) (pos : Position) :
    Respects R (assign name namePos steps op value pos) := by
  refine respects_bind (respects_lookup name namePos) fun binding => ?_
  refine respects_bind respects_read fun frame => ?_
  refine respects_bind (respects_orStop _) fun new => ?_
  exact respects_modify _ fun _ _ => rfl

theorem respects_repeatTurns {turn : Eval (Option Datum)} (respects : Respects R turn) :
    Respects R (repeatTurns turn) := by
  intro frame imports
  have turns : ∀ n machine other, machine.Beside R other →
      InStep (Machine.Beside R) (turnsWhile (fun frame machine => turn frame machine) frame n machine)
        (turnsWhile (fun frame machine => turn frame machine) frame n other) := by
    intro n
    induction n with
    | zero => exact fun _ _ beside => ⟨_, _, _, rfl, rfl, beside⟩
    | succ n ih =>
        intro machine other beside
        obtain ⟨result, after, after', called, called', beside⟩ :=
          respects frame imports machine other beside
        simp only [turnsWhile, called, called']
        match result with
        | .error stop => exact ⟨_, _, _, rfl, rfl, beside⟩
        | .ok none => exact ih after after' beside
        | .ok (some datum) => exact ⟨_, _, _, rfl, rfl, beside⟩
  rintro machine _ ⟨outlet, rfl, related⟩
  exact turns (machine.turns + 1) machine _ ⟨outlet, rfl, related⟩

theorem respects_runTurn {body : Eval Datum} (respects : Respects R body) :
    Respects R (runTurn body) := by
  refine respects_tryCatch (respects_bind respects fun _ => respects_pure none) fun stop => ?_
  cases stop with
  | fault fault => exact respects_throw _
  | leave datum => exact respects_pure _
  | skip => exact respects_pure _
  | finish => exact respects_throw _

theorem respects_forItems {turn : Datum → Eval (Option Datum)}
    (respects : ∀ item, Respects R (turn item)) (items : List Datum) :
    Respects R (forItems turn items) := by
  induction items with
  | nil => exact respects_pure _
  | cons item items ih =>
      refine respects_bind (respects item) fun found => ?_
      cases found with
      | none => exact ih
      | some datum => exact respects_pure datum

theorem respects_forNumbers {turn : Datum → Eval (Option Datum)}
    (respects : ∀ item, Respects R (turn item)) (n : Nat) (number : Int) :
    Respects R (forNumbers turn n number) := by
  induction n generalizing number with
  | zero => exact respects_pure _
  | succ n ih =>
      refine respects_bind (respects _) fun found => ?_
      cases found with
      | none => exact ih _
      | some datum => exact respects_pure datum

theorem respects_forDatum {turn : Datum → Eval (Option Datum)}
    (respects : ∀ item, Respects R (turn item)) (pos : Position) (datum : Datum) :
    Respects R (forDatum turn pos datum) := by
  simp only [forDatum]
  split
  · exact respects_forItems respects _
  · exact respects_forItems respects _
  · exact respects_forNumbers respects _ _
  · exact respects_fail _ pos

end Eval

open Eval

variable {R : Outlet → Outlet → Prop}

mutual

theorem respects_evalExpr (functions : FunctionsRespect R) (expr : Expr) :
    Respects R (evalExpr expr) := by
  cases expr with
  | literal value pos =>
      rw [evalExpr]
      exact respects_pure value
  | name name pos =>
      rw [evalExpr]
      exact respects_bind (respects_lookup name pos) fun _ => respects_pure _
  | member root inner name rootPos pos =>
      rw [evalExpr]
      exact respects_member root inner name rootPos
  | array items pos =>
      rw [evalExpr]
      exact respects_bind (respects_evalParts functions _ _ items) fun _ => respects_pure _
  | map keys items pos =>
      rw [evalExpr]
      exact respects_bind (respects_evalParts functions _ _ items) fun _ => respects_pure _
  | call function args pos =>
      rw [evalExpr]
      exact respects_bind (respects_evalArgs functions args) fun data =>
        respects_call functions function data pos
  | chain root links =>
      rw [evalExpr]
      refine respects_bind (respects_evalLinks functions links) fun steps => ?_
      exact respects_bind (respects_evalExpr functions root) fun datum =>
        respects_follow functions datum steps
  | unary op operand pos =>
      rw [evalExpr]
      exact respects_bind (respects_evalExpr functions operand) fun _ => respects_lift pos _
  | binary op left right pos =>
      rw [evalExpr]
      refine respects_bind (respects_evalExpr functions left) fun a => ?_
      refine respects_bind (respects_evalExpr functions right) fun b => ?_
      exact respects_bind respects_read fun _ => respects_lift pos _
  | connect op left right pos =>
      rw [evalExpr]
      refine respects_bind (respects_evalExpr functions left) fun a => ?_
      refine respects_bind (respects_truth left.pos a) fun decided => ?_
      split
      · exact respects_pure _
      · refine respects_bind (respects_evalExpr functions right) fun b => ?_
        exact respects_bind (respects_truth right.pos b) fun _ => respects_pure _
  | block body pos =>
      rw [evalExpr]
      exact respects_inner (respects_evalBlock functions body)
termination_by sizeOf expr

theorem respects_evalParts (functions : FunctionsRespect R)
    (grow : Extent → Extent → Extent) (size : Extent) (items : List Expr) :
    Respects R (evalParts grow size items) := by
  cases items with
  | nil =>
      rw [evalParts]
      exact respects_pure []
  | cons item rest =>
      rw [evalParts]
      refine respects_bind (respects_evalExpr functions item) fun datum => ?_
      refine respects_bind (respects_checkExtent _ _) fun _ => ?_
      exact respects_bind (respects_evalParts functions grow _ rest) fun _ => respects_pure _
termination_by sizeOf items

theorem respects_evalItems (functions : FunctionsRespect R) (items : List Expr) :
    Respects R (evalItems items) := by
  cases items with
  | nil =>
      rw [evalItems]
      exact respects_pure []
  | cons item rest =>
      rw [evalItems]
      refine respects_bind (respects_evalExpr functions item) fun datum => ?_
      exact respects_bind (respects_evalItems functions rest) fun _ => respects_pure _
termination_by sizeOf items

theorem respects_evalArgs (functions : FunctionsRespect R) (args : List Expr) :
    Respects R (evalArgs args) := by
  cases args with
  | nil =>
      rw [evalArgs]
      exact respects_pure []
  | cons first rest =>
      rw [evalArgs]
      split
      · refine respects_bind (respects_evalItems functions rest) fun data => ?_
        exact respects_bind (respects_evalExpr functions first) fun _ => respects_pure _
      · refine respects_bind (respects_evalExpr functions first) fun datum => ?_
        exact respects_bind (respects_evalItems functions rest) fun _ => respects_pure _
termination_by sizeOf args

theorem respects_evalLinks (functions : FunctionsRespect R) (links : List Link) :
    Respects R (evalLinks links) := by
  cases links with
  | nil =>
      rw [evalLinks]
      exact respects_pure []
  | cons link rest =>
      cases link with
      | index key pos =>
          rw [evalLinks]
          refine respects_bind (respects_evalExpr functions key) fun datum => ?_
          exact respects_bind (respects_evalLinks functions rest) fun _ => respects_pure _
      | property name namePos pos =>
          rw [evalLinks]
          exact respects_bind (respects_evalLinks functions rest) fun _ => respects_pure _
      | method name args namePos pos =>
          rw [evalLinks]
          refine respects_bind (respects_evalItems functions args) fun data => ?_
          exact respects_bind (respects_evalLinks functions rest) fun _ => respects_pure _
termination_by sizeOf links

theorem respects_evalStmt (functions : FunctionsRespect R) (stmt : Stmt) :
    Respects R (evalStmt stmt) := by
  cases stmt with
  | expr expr =>
      rw [evalStmt]
      exact respects_evalExpr functions expr
  | noop =>
      rw [evalStmt]
      exact respects_pure _
  | declare name value constant exported =>
      rw [evalStmt]
      refine respects_bind (respects_evalExpr functions value) fun datum => ?_
      exact respects_bind (respects_declare _) fun _ => respects_pure _
  | assign name namePos links op value pos =>
      rw [evalStmt]
      refine respects_bind (respects_evalExpr functions value) fun datum => ?_
      refine respects_bind (respects_evalLinks functions links) fun steps => ?_
      exact respects_bind (respects_assign name namePos steps op datum pos) fun _ => respects_pure _
  | block body =>
      rw [evalStmt]
      exact respects_inner (respects_evalBlock functions body)
  | branch condition yes no =>
      rw [evalStmt]
      refine respects_bind (respects_evalExpr functions condition) fun datum => ?_
      refine respects_bind (respects_truth _ datum) fun decided => ?_
      split
      · exact respects_inner (respects_evalBlock functions yes)
      · exact respects_inner (respects_evalBlock functions no)
  | «repeat» condition body pos =>
      rw [evalStmt]
      refine respects_repeatTurns (respects_bind (respects_evalExpr functions condition) fun datum => ?_)
      refine respects_bind (respects_truth _ datum) fun decided => ?_
      split
      · exact respects_bind (respects_takeTurn pos) fun _ =>
          respects_runTurn (respects_inner (respects_evalBlock functions body))
      · exact respects_pure _
  | loop body pos =>
      rw [evalStmt]
      exact respects_repeatTurns (respects_bind (respects_takeTurn pos) fun _ =>
        respects_runTurn (respects_inner (respects_evalBlock functions body)))
  | forEach name items body pos =>
      rw [evalStmt]
      refine respects_bind (respects_evalExpr functions items) fun datum =>
        respects_forDatum (fun item => ?_) _ datum
      refine respects_bind (respects_takeTurn pos) fun _ => respects_inner ?_
      exact respects_bind (respects_declare _) fun _ =>
        respects_runTurn (respects_inner (respects_evalBlock functions body))
  | leave value =>
      rw [evalStmt]
      exact respects_bind (respects_evalExpr functions value) fun _ => respects_throw _
  | skip =>
      rw [evalStmt]
      exact respects_throw _
  | finish =>
      rw [evalStmt]
      exact respects_throw _
  | finishWith value =>
      rw [evalStmt]
      exact respects_bind (respects_evalExpr functions value) fun _ => respects_throw _
  | throw value pos =>
      rw [evalStmt]
      exact respects_bind (respects_evalExpr functions value) fun _ => respects_fail _ pos
  | importModule path name =>
      rw [evalStmt]
      refine respects_bind (respects_evalExpr functions path) fun datum => ?_
      exact respects_bind (respects_importModule datum name _ _) fun _ => respects_pure _
  | exportName name label pos =>
      rw [evalStmt]
      exact respects_bind (respects_exportName name label pos) fun _ => respects_pure _
termination_by sizeOf stmt

theorem respects_evalBlock (functions : FunctionsRespect R) (body : List Stmt) :
    Respects R (evalBlock body) := by
  cases body with
  | nil =>
      rw [evalBlock]
      exact respects_pure _
  | cons stmt rest =>
      cases rest with
      | nil =>
          rw [evalBlock]
          exact respects_evalStmt functions stmt
      | cons next rest =>
          rw [evalBlock]
          · exact respects_bind (respects_evalStmt functions stmt) fun _ =>
              respects_evalBlock functions (next :: rest)
          · simp
termination_by sizeOf body

end

theorem respects_makeModule (functions : FunctionsRespect R) (program : Program) :
    Respects R program.makeModule := by
  refine respects_get _ (fun _ _ => rfl) fun before => ?_
  refine respects_bind (respects_tryCatch ?_ fun stop => ?_) fun _ => ?_
  · exact respects_bind (respects_evalBlock functions program) fun _ => respects_pure ()
  · cases stop with
    | finish => exact respects_pure ()
    | fault fault => exact respects_throw _
    | leave datum => exact respects_throw _
    | skip => exact respects_throw _
  · refine respects_get _ (fun _ _ => rfl) fun after => ?_
    exact respects_bind (respects_shrink _ _) fun _ => respects_pure _

/-- Importing a module does the same if that of what it imports does. -/
theorem importFile_respects (functions : FunctionsRespect R) (host : Surroundings)
    (occasion : Occasion) (allowance : Allowance) {inner : Option String → Importer}
    (respects : ∀ source, (inner source).Respects R) (source : Option String) :
    (importFile host occasion allowance inner source).Respects R := by
  rintro path pos machine _ ⟨outlet, rfl, related⟩
  simp only [importFile]
  cases machine.modules.lookup (Path.components (moduleFile source path)) with
  | some module => exact ⟨_, _, _, rfl, rfl, outlet, rfl, related⟩
  | none =>
      cases compileModule host allowance source path with
      | error cause => exact ⟨_, _, _, rfl, rfl, outlet, rfl, related⟩
      | ok program =>
          obtain ⟨result, after, _, made, made', outlet, rfl, related⟩ :=
            respects_makeModule functions program ⟨occasion, allowance, inner (some path)⟩
              (respects (some path)) machine _ ⟨outlet, rfl, related⟩
          simp only [made, made']
          cases result with
          | ok module => exact ⟨_, _, _, rfl, rfl, outlet, rfl, related⟩
          | error stop => exact ⟨_, _, _, rfl, rfl, outlet, rfl, related⟩

theorem fileImporter_respects (functions : FunctionsRespect R) (host : Surroundings)
    (occasion : Occasion) (allowance : Allowance) (depth : Nat) (source : Option String) :
    (fileImporter host occasion allowance depth source).Respects R := by
  induction depth generalizing source with
  | zero => exact fun _ _ _ _ beside => ⟨_, _, _, rfl, rfl, beside⟩
  | succ depth ih => exact importFile_respects functions host occasion allowance ih source

theorem ofScript_respects (functions : FunctionsRespect R) (host : Surroundings)
    (occasion : Occasion) (allowance : Allowance) :
    (Frame.ofScript host occasion allowance).importer.Respects R :=
  fileImporter_respects functions host occasion allowance allowance.turns none

/-- A program does the same with outlets that no function tells apart, whether it ends with a fault or
    without. -/
theorem run_respects (functions : FunctionsRespect R) {frame : Frame}
    (imports : frame.importer.Respects R) (scope : Scope) (modules : List (List String × Module))
    {outlet other : Outlet} (program : Program) (related : R outlet other) :
    InStep (Machine.Beside R) (program.run frame scope modules outlet)
      (program.run frame scope modules other) := by
  obtain ⟨result, after, after', called, called', beside⟩ :=
    respects_evalBlock functions program frame imports
      ⟨scope, [], modules, outlet, frame.allowance.turns⟩ _ ⟨other, rfl, related⟩
  simp only [Program.run, called, called']
  match result with
  | .ok datum => exact ⟨_, _, _, rfl, rfl, beside⟩
  | .error (.fault fault) => exact ⟨_, _, _, rfl, rfl, beside⟩
  | .error (.leave datum) => exact ⟨_, _, _, rfl, rfl, beside⟩
  | .error .skip => exact ⟨_, _, _, rfl, rfl, beside⟩
  | .error .finish => exact ⟨_, _, _, rfl, rfl, beside⟩

end ScriptBridge.Script
