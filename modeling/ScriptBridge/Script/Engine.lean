import ScriptBridge.Config.Basic
import ScriptBridge.Cookie.Header
import ScriptBridge.Form
import ScriptBridge.Script.Importing
import ScriptBridge.Text.Numeral

/-!
# The script engine

An interpreter for scripts in files. Compiled scripts are kept under their paths, and compiled again
when their file has changed. What a request brings lasts until the request is shut down, what the
host set up until the engine is; and as long as that lasts what scripts import, so that a module that
was made for one request is found by all later ones.
-/

namespace ScriptBridge.Script

/-- What an engine allows its scripts. Zero stands for no limit. How deep expressions are is only
    declared here; nothing is refused for it. -/
structure Limits where
  maxOperations : UInt64
  maxStringSize : UInt64
  maxArraySize : UInt64
  maxMapSize : UInt64
  maxExprDepth : UInt64
  maxFunctionExprDepth : UInt64
  maxOutputSize : UInt64
  deriving Repr, DecidableEq

namespace Limits

/-- The limits of a configuration: a script writes no more than a buffer can hold. -/
def ofConfig (config : Config) : Limits where
  maxOperations := config.interpreter.maxOperations
  maxStringSize := config.interpreter.maxStringSize
  maxArraySize := config.interpreter.maxArraySize
  maxMapSize := config.interpreter.maxMapSize
  maxExprDepth := config.interpreter.maxExprDepth
  maxFunctionExprDepth := config.interpreter.maxFunctionExprDepth
  maxOutputSize := config.buffer.maxSize

def standard : Limits := ofConfig .standard

def allowance (limits : Limits) : Allowance where
  operations := limits.maxOperations.toNat
  textSize := limits.maxStringSize.toNat
  arraySize := limits.maxArraySize.toNat
  mapSize := limits.maxMapSize.toNat

end Limits

/-- Settings of an engine. -/
structure Settings where
  displayErrors : Bool
  implicitFlush : Bool
  outputBuffering : UInt64
  deriving Repr, DecidableEq

namespace Settings

/-- The settings of an engine that was told nothing. -/
def standard : Settings := ⟨false, false, 0⟩

def flag? (value : String) : Option Bool :=
  match Text.lowerAscii (Text.trim value) with
  | "1" | "on" | "true" | "yes" => some true
  | "0" | "off" | "false" | "no" | "" => some false
  | _ => none

/-- The size of a buffer that a setting gives: a switched on one has a size of its own. -/
def bufferSize? (value : String) : Option UInt64 :=
  match flag? value with
  | some on => some (if on then 4096 else 0)
  | none => (Numeral.readWord (Text.trim value)).toOption

/-- The settings with another one, unless it has a value that it cannot take. -/
def set (settings : Settings) (key value : String) : Except ScriptFault Settings :=
  let changed : Option Settings := match key with
    | "display_errors" => (flag? value).map fun on => { settings with displayErrors := on }
    | "implicit_flush" => (flag? value).map fun on => { settings with implicitFlush := on }
    | "output_buffering" =>
      (bufferSize? value).map fun size => { settings with outputBuffering := size }
    | _ => some settings
  match changed with
  | some settings => .ok settings
  | none => .error (.invalidSetting key value)

/-- The settings of a table, in the order of their keys. Keys that mean nothing do not count. -/
def ofTable (ini : Table String) : Except ScriptFault Settings :=
  ini.foldlM (fun settings (key, value) => settings.set key value) .standard

end Settings

/-- A compiled script and the time at which its file was last changed. -/
structure Compiled where
  program : Program
  modified : Option Int

/-- The state of an engine. -/
structure Engine where
  limits : Limits
  started : Bool
  settings : Settings
  argv : List String
  outlet : Outlet
  request : Option RequestInfo
  body : Bytes
  symbols : Table Value
  active : Bool
  exitStatus : Int
  /-- Compiled scripts under the components of their paths. -/
  cache : List (List String × Compiled)
  /-- The modules that scripts imported, under the components of the paths of their files. -/
  modules : List (List String × Module)
  hits : Nat
  misses : Nat

namespace Engine

/-- An engine that was not started. -/
def new (limits : Limits) : Engine where
  limits
  started := false
  settings := .standard
  argv := []
  outlet := .new limits.maxOutputSize
  request := none
  body := []
  symbols := .empty
  active := false
  exitStatus := 0
  cache := []
  modules := []
  hits := 0
  misses := 0

def failureStatus : Int := 255

def symbol? (engine : Engine) (name : String) : Option Value :=
  Table.get? name engine.symbols

def clearCache (engine : Engine) : Engine :=
  { engine with cache := [] }

/-- Starts an engine that is not started. -/
def startup (options : StartupOptions) (engine : Engine) : Except ScriptFault Unit × Engine :=
  if engine.started then (.error (.startupFailed "interpreter already started"), engine)
  else
    match Settings.ofTable options.ini with
    | .error fault => (.error fault, engine)
    | .ok settings => (.ok (), { engine with settings, argv := options.argv, started := true })

/-- The symbols of a request that nothing was given to yet, but the cookies it was declared with. -/
def requestSymbols (request : Option RequestInfo) : Table Value :=
  let cookies := match request.bind (·.cookie) with
    | some header => Value.ofTexts (Cookie.parse header)
    | none => .emptyMap
  .ofPairs [(Symbol.server, .emptyMap), (Symbol.cookie, cookies), (Symbol.post, .emptyMap),
    (Symbol.get, .emptyMap)]

def requestStartup (engine : Engine) : Except ScriptFault Unit × Engine :=
  if engine.started then
    (.ok (), { engine with
      symbols := requestSymbols engine.request
      active := true
      exitStatus := 0 })
  else (.error .notStarted, engine)

def setSymbol (name : String) (value : Value) (engine : Engine) : Engine :=
  { engine with symbols := Table.insert name value engine.symbols }

def routeStdio (engine : Engine) : Except ScriptFault Unit × Engine :=
  if engine.started then (.ok (), { engine with outlet := { engine.outlet with routed := true } })
  else (.error .notStarted, engine)

/-- Ends a request: all that it brought is gone. -/
def requestShutdown (engine : Engine) : Engine :=
  { engine with
    active := false
    symbols := .empty
    outlet := engine.outlet.endRequest
    request := none
    body := [] }

/-- Shuts the engine down. It forgets all but its limits, the last exit status and its counts, and
    the symbols that were set outside of a request. -/
def shutdown (engine : Engine) : Engine :=
  let engine := if engine.active then engine.requestShutdown else engine
  { engine with
    started := false
    settings := .standard
    argv := []
    outlet := .new engine.limits.maxOutputSize
    request := none
    body := []
    cache := []
    modules := [] }

def remember (key : List String) (compiled : Compiled) (engine : Engine) : Engine :=
  { engine with cache := (key, compiled) :: engine.cache.filter (·.1 != key) }

/-- Compiles a script from its file. -/
def compile (host : Surroundings) (path : String) (engine : Engine) :
    Except ScriptFault Program :=
  match host.files.readText host.workingDir path with
  | .error fault => .error (.io fault.message)
  | .ok script =>
    (Program.compile engine.limits.allowance script).mapError CompileFault.toScriptFault

/-- The program of a file: one that is kept, if the file has not changed since. -/
def load (host : Surroundings) (path : String) (engine : Engine) :
    Except ScriptFault Program × Engine :=
  match host.files.modified host.workingDir path with
  | .error fault => (.error (.io fault.message), engine)
  | .ok modified =>
    let key := Path.components path
    let kept := (engine.cache.lookup key).filter (·.modified == modified)
    match kept with
    | some compiled => (.ok compiled.program, { engine with hits := engine.hits + 1 })
    | none =>
      let engine := { engine with misses := engine.misses + 1 }
      match engine.compile host path with
      | .error fault => (.error fault, engine)
      | .ok program => (.ok program, engine.remember key ⟨program, modified⟩)

/-- The constants that a script finds, the last one first. -/
def constants (engine : Engine) : Scope :=
  let stdout := if engine.outlet.exposed || engine.outlet.routed then
      [.constant Outlet.stdoutHandle (.text Outlet.stdoutHandle)]
    else []
  .constant Outlet.stderrHandle (.text Outlet.stderrHandle) :: stdout ++
    [.constant "argv" (.array (engine.argv.map .text)),
     .constant "argc" (.ofCount engine.argv.length)]

/-- The names that a script finds: constants, and behind them the symbols. -/
def scope (engine : Engine) : Scope :=
  engine.constants ++
    (engine.symbols.map fun (name, value) => .changeable name (.ofValue value)).reverse

/-- What a fault writes, if faults are shown. -/
def report (engine : Engine) (fault : ScriptFault) : List Emission :=
  if engine.settings.displayErrors then [.body (utf8 ("\n" ++ fault.message ++ "\n"))] else []

def occasion (host : Surroundings) (engine : Engine) : Occasion :=
  ⟨engine.request, engine.body, host.now⟩

/-- Ends an execution. A fault is reported behind what was emitted. -/
def conclude (emissions : List Emission) (outcome : Except ScriptFault Unit) (engine : Engine) :
    Execution × Engine :=
  match outcome with
  | .ok _ => (⟨emissions, .ok ()⟩, { engine with exitStatus := 0 })
  | .error fault =>
    (⟨emissions ++ engine.report fault, .error fault⟩, { engine with exitStatus := failureStatus })

def frame (host : Surroundings) (engine : Engine) : Frame :=
  .ofScript host (engine.occasion host) engine.limits.allowance

/-- Runs a compiled script. The modules that it imported are kept, also if it fails. -/
def runProgram (host : Surroundings) (program : Program) (engine : Engine) : Execution × Engine :=
  let (outcome, machine) :=
    program.run (engine.frame host) engine.scope engine.modules engine.outlet
  { engine with outlet := engine.outlet.cleared, modules := machine.modules }.conclude
    machine.outlet.emissions (outcome.mapError RunFault.toScriptFault)

/-- Executes the script of a file in the active request. -/
def execute (host : Surroundings) (path : String) (engine : Engine) : Execution × Engine :=
  if !engine.started then (⟨[], .error .notStarted⟩, engine)
  else if !engine.active then (⟨[], .error .noActiveRequest⟩, engine)
  else
    match engine.load host path with
    | (.error fault, engine) => engine.conclude [] (.error fault)
    | (.ok program, engine) => engine.runProgram host program

instance : Interpreter Engine where
  started := Engine.started
  active := Engine.active
  exitStatus := Engine.exitStatus
  crashed _ := false
  startup := Engine.startup
  declare info engine := { engine with request := some info }
  requestStartup := Engine.requestStartup
  setSymbol := Engine.setSymbol
  readForm target data := setSymbol target.symbol (Form.decode data)
  attachBody body engine := { engine with body }
  exposeStdout engine := { engine with outlet := { engine.outlet with exposed := true } }
  routeStdio := Engine.routeStdio
  finishRequestStartup := id
  execute := Engine.execute
  requestShutdown := Engine.requestShutdown
  shutdown := Engine.shutdown

end Engine

end ScriptBridge.Script
