import ScriptBridge.Bridge.Seeding
import ScriptBridge.Bridge.State
import ScriptBridge.Command
import ScriptBridge.Http.Message

/-!
# Bridges

A bridge runs scripts in one interpreter. For requests the interpreter is kept warm from one to the
next; a command gets an interpreter that is started for it and shut down behind it. Every operation
takes the bridge as the one before left it and is done before the next begins.
-/

namespace ScriptBridge

/-- An interpreter with the environment, the capture and the settings that it is driven with. -/
structure Bridge (σ : Type) where
  interpreter : σ
  env : Environment
  capture : Capture
  seeder : Seeder
  command : CommandConfig
  ini : Table String
  state : LifecycleState
  /-- The variables that the headers of the last request were exported as. -/
  headerExports : List String

namespace Bridge

/-- What command mode answers when the interpreter cannot be started. -/
def initFailed : Bytes := utf8 Canned.startupText

def failureResponse : BridgeFault → Bytes
  | .startupFailure _ => Canned.startupFailure
  | .allocationFailure _ => Canned.allocationFailure
  | fault => Canned.internalError fault.message

def headerVariable (name : String) : String :=
  "HTTP_" ++ String.ofList (name.toList.map fun c => if c == '-' then '_' else c.toUpper)

variable {σ : Type} [Interpreter σ]

def new (config : Config) (interpreter : σ) (env : Environment) : Bridge σ where
  interpreter
  env
  capture := .new config.buffer
  seeder := ⟨config.serverInfo, config.request⟩
  command := config.command
  ini := config.interpreter.ini
  state := .uninitialized
  headerExports := []

def started (bridge : Bridge σ) : Bool :=
  Interpreter.started bridge.interpreter

def active (bridge : Bridge σ) : Bool :=
  Interpreter.active bridge.interpreter

def endRequest (bridge : Bridge σ) : Bridge σ :=
  if bridge.active then
    { bridge with interpreter := Interpreter.requestShutdown bridge.interpreter }
  else bridge

/-- Starts the interpreter, unless it is started. -/
def warmUp (bridge : Bridge σ) : Except BridgeFault Unit × Bridge σ :=
  if bridge.started then (.ok (), bridge)
  else
    match Interpreter.startup ⟨[], bridge.ini⟩ bridge.interpreter with
    | (.error fault, interpreter) =>
      (.error (.startupFailure fault.message), { bridge with interpreter, state := .uninitialized })
    | (.ok _, interpreter) => (.ok (), { bridge with interpreter, state := .warm })

/-- Shuts the interpreter down, if it is started. -/
def takeDown (bridge : Bridge σ) : Bridge σ :=
  if bridge.started then
    { bridge with interpreter := Interpreter.shutdown bridge.interpreter }
  else bridge

/-- Shuts the interpreter down and releases the capture. Nothing is left to do the second time. -/
def shutdown (bridge : Bridge σ) : Bridge σ :=
  if bridge.state = .shutdown ∧ !bridge.started then bridge
  else
    let bridge := bridge.endRequest.takeDown
    { bridge with capture := bridge.capture.release, state := .shutdown }

def seed (now : Int64) (request : Request) (bridge : Bridge σ) :
    Except BridgeFault Unit × Bridge σ :=
  let bridge := { bridge with state := .seeding }
  match bridge.seeder.seed now request bridge.env bridge.interpreter with
  | (.error fault, interpreter) => (.error fault, { bridge with interpreter }.shutdown)
  | (.ok _, interpreter) =>
    (.ok (), { bridge with interpreter, capture := bridge.capture.openStdout })

/-- Makes the bridge ready for a script: ends a request that is still active, starts the interpreter
    if need be, and seeds the new request. -/
def beginRequest (host : Surroundings) (request : Request) (script : Option String)
    (bridge : Bridge σ) : Except BridgeFault Unit × Bridge σ :=
  match bridge.endRequest.warmUp with
  | (.error fault, bridge) => (.error fault, bridge)
  | (.ok _, bridge) =>
    let env := bridge.seeder.exportEnvironment request script bridge.env
    { bridge with capture := bridge.capture.reset, env }.seed host.now request

def surroundings (host : Surroundings) (bridge : Bridge σ) : Surroundings :=
  { host with workingDir := bridge.env.workingDir host.workingDir }

/-- Runs the script of a seeded request, captures what it emits, and tears the request down. A
    script that fails keeps what it emitted. -/
def executeSeeded (host : Surroundings) (script : String) (bridge : Bridge σ) : Bridge σ :=
  let bridge := { bridge with state := .executing }
  let (execution, interpreter) :=
    Interpreter.execute (bridge.surroundings host) script bridge.interpreter
  let bridge := { bridge with interpreter, state := .capturing }
  let capture := (bridge.capture.emitAll execution.emissions).mergeStdout
  let bridge := { bridge with capture, state := .shuttingDownRequest }
  { bridge with
    interpreter := Interpreter.requestShutdown bridge.interpreter
    state := .warm }

def response (bridge : Bridge σ) : Bytes :=
  let headers := bridge.capture.headers
  compose headers.statusLine headers.fields.data bridge.capture.body.data

def requestFault (fault : RequestFault) : BridgeFault :=
  .invalidRequest fault.message

/-- Seeds a request without running anything. -/
def setRequestInfo (host : Surroundings) (request : Request) (bridge : Bridge σ) :
    Except BridgeFault Unit × Bridge σ :=
  match request.validate with
  | .error fault => (.error (requestFault fault), bridge)
  | .ok _ =>
    match bridge.beginRequest host request none with
    | (.error fault, bridge) => (.error fault, bridge)
    | (.ok _, bridge) => (.ok (), { bridge with state := .requestActive })

/-- Runs a script in the request that was seeded before, and gives the body that it wrote. -/
def executeScript (host : Surroundings) (script : String) (bridge : Bridge σ) :
    Except BridgeFault Bytes × Bridge σ :=
  if bridge.state = .requestActive then
    let bridge := bridge.executeSeeded host script
    (.ok bridge.capture.body.data, bridge)
  else (.error .noActiveRequest, bridge)

/-- Runs a script for a request and gives the response, unless the request cannot be run. -/
def tryRunOnce (host : Surroundings) (request : Request) (script : String) (bridge : Bridge σ) :
    Except BridgeFault Bytes × Bridge σ :=
  match request.validate with
  | .error fault => (.error (requestFault fault), bridge)
  | .ok _ =>
    match bridge.beginRequest host request (some script) with
    | (.error fault, bridge) => (.error fault, bridge)
    | (.ok _, bridge) =>
      let bridge := bridge.executeSeeded host script
      (.ok bridge.response, bridge)

/-- Runs a script for a request and gives the response. There always is one: a fault becomes a
    response that reports it. -/
def runOnce (host : Surroundings) (request : Request) (script : String) (bridge : Bridge σ) :
    Bytes × Bridge σ :=
  match bridge.tryRunOnce host request script with
  | (.ok response, bridge) => (response, bridge)
  | (.error fault, bridge) => (failureResponse fault, bridge)

def startCommand (interpreter : σ) : Except ScriptFault Unit × σ :=
  match Interpreter.requestStartup interpreter with
  | (.error fault, interpreter) => (.error fault, interpreter)
  | (.ok _, interpreter) => Interpreter.routeStdio interpreter

/-- Makes everything but the interpreter ready for a command. -/
def prepareCommand (host : Surroundings) (publicDir : String) (bridge : Bridge σ) : Bridge σ :=
  let paths := Command.paths publicDir bridge.command
  let env := (bridge.env.changeDir host.files paths.workingDir).setAll bridge.command.env
  { bridge with env, capture := bridge.capture.reset }

def commandOptions (line : String) (bridge : Bridge σ) : StartupOptions :=
  let command := bridge.command
  ⟨Command.arguments command.programName line command.maxArgs.toNat, command.ini⟩

/-- Shuts down the interpreter that was started for a command. -/
def endCommand (bridge : Bridge σ) : Bridge σ :=
  { bridge with
    interpreter := Interpreter.shutdown bridge.interpreter
    state := .uninitialized }

/-- Runs the script of a command that was started, and gives what it wrote. -/
def executeCommand (host : Surroundings) (publicDir : String) (bridge : Bridge σ) :
    Bytes × Bridge σ :=
  let bridge := { bridge with interpreter := Interpreter.finishRequestStartup bridge.interpreter }
  let bridge := bridge.executeSeeded host (Command.paths publicDir bridge.command).entryScript
  (bridge.capture.body.data, bridge.endCommand)

/-- Runs a command in an interpreter of its own and gives what it wrote. -/
def runCommand (host : Surroundings) (line publicDir : String) (bridge : Bridge σ) :
    Bytes × Bridge σ :=
  let bridge := bridge.takeDown.prepareCommand host publicDir
  match Interpreter.startup (bridge.commandOptions line) bridge.interpreter with
  | (.error _, interpreter) =>
    (initFailed, { bridge with interpreter, state := .uninitialized })
  | (.ok _, interpreter) =>
    match startCommand interpreter with
    | (.error _, interpreter) => (initFailed, { bridge with interpreter }.endCommand)
    | (.ok _, interpreter) => { bridge with interpreter }.executeCommand host publicDir

/-- What comes of setting a variable. -/
inductive SetOutcome where
  | accepted
  | rejected
  deriving Repr, DecidableEq

def SetOutcome.code : SetOutcome → Int
  | .accepted => 0
  | .rejected => -1

/-- Sets a variable, if it can be set. One that is set already stays unless it may be overwritten.
    -/
def setEnvironmentVariable (name value : String) (overwrite : Bool) (bridge : Bridge σ) :
    SetOutcome × Bridge σ :=
  if Environment.isStorable (name, value) then
    if !overwrite && (bridge.env.get? name).isSome then (.accepted, bridge)
    else (.accepted, { bridge with env := bridge.env.set name value })
  else (.rejected, bridge)

/-- The variable and the value of a header, if it can be exported. -/
def exportable? (header : String × String) : Option (String × String) :=
  let entry := (headerVariable header.1, header.2)
  if Environment.isStorable entry then some entry else none

/-- Sets variables for the headers of a request, after those of the request before are taken away.
    -/
def exportRequestHeaders (headers : List (String × String)) (bridge : Bridge σ) : Bridge σ :=
  let exported := headers.filterMap exportable?
  let env := bridge.headerExports.foldl Environment.unset bridge.env
  { bridge with
    env := env.setAll exported
    headerExports := exported.map (·.1) }

end Bridge

end ScriptBridge
