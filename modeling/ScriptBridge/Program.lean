import ScriptBridge.CommandLine.Invocation
import ScriptBridge.CommandLine.LogFilter
import ScriptBridge.Config.Load
import ScriptBridge.Json.Writer
import ScriptBridge.Script.Engine
import ScriptBridge.Server.Basic

/-!
# The program

What the program does on a machine for the words of its command line: what it writes, what it
reports, and the status that it ends with.
-/

namespace ScriptBridge

/-- What the program finds when it starts. -/
structure Machine where
  vars : Table String
  files : FileTree
  workingDir : Location
  now : Int64
  network : Network

/-- Why the program does not do its task. -/
inductive ProgramFault where
  | invalidConfig (fault : LoadFault)
  /-- There is no configuration to work with. -/
  | noConfig
  | badLogLevel (level : String)
  | badHeader (line : String)
  | host (fault : BridgeFault)
  deriving Repr, DecidableEq

namespace ProgramFault

def message : ProgramFault → String
  | .invalidConfig fault => "Configuration validation failed: " ++ fault.toBridge.message
  | .noConfig => "Failed to load configuration"
  | .badLogLevel level => "invalid log level " ++ Text.quoted level
  | .badHeader line => "invalid header " ++ Text.quoted line ++ ", expected `Name: Value`"
  | .host fault => fault.message

def report (fault : ProgramFault) : String :=
  match fault with
  | .invalidConfig _ => "✗ " ++ fault.message
  | .noConfig | .badLogLevel _ | .badHeader _ | .host _ => "Error: " ++ fault.message

end ProgramFault

/-- How the program ends. -/
inductive Ending where
  | finished (output : Bytes)
  | misused
  | failed (fault : ProgramFault)
  /-- It was to set a variable that no process can hold, or to cut a text within a character. -/
  | crashed
  deriving Repr, DecidableEq

def Ending.status : Ending → Nat
  | .finished _ => 0
  | .failed _ => 1
  | .misused => 2
  | .crashed => 101

def Ending.output : Ending → Bytes
  | .finished output => output
  | .misused | .failed _ | .crashed => []

/-- The paths that a task looks at. A path below the working directory of a command is given as it
    is seen from the directory that the command is started in. -/
def Task.paths (config : Config) : Task → List String
  | .request script _ _ => [script]
  | .command publicDir _ =>
    let paths := Command.paths publicDir config.command
    [paths.workingDir, paths.entryScript, Path.join paths.workingDir paths.entryScript]
  | .serve .. | .validate _ | .version => []

namespace Machine

def surroundings (machine : Machine) : Surroundings :=
  ⟨machine.files, machine.workingDir, machine.now⟩

/-- The environment of the program, whose working directory can really be changed. -/
def environment (machine : Machine) : Environment :=
  ⟨machine.vars, .live machine.workingDir⟩

def bridge (config : Config) (machine : Machine) : Bridge Script.Engine :=
  .new config (.new (.ofConfig config)) machine.environment

def loadConfig (invocation : Invocation) (machine : Machine) : Except ProgramFault Config :=
  (Config.load machine.vars machine.files machine.workingDir invocation.configPath).mapError
    fun fault =>
      match invocation.task with
      | .validate _ => .invalidConfig fault
      | _ => .noConfig

/-- Why there is no filter for messages, if there is none: the variable for filters of all programs
    counts if it holds one, and else the level asked for. -/
def logFilterFlaw? (level : String) (machine : Machine) : Option LogFilter.Flaw :=
  let ambient := (Table.get? "RUST_LOG" machine.vars).map LogFilter.check
  match ambient with
  | some (.ok ()) => none
  | some (.error .splitsCharacter) => some .splitsCharacter
  | some (.error .malformed) | none =>
    match LogFilter.check level with
    | .ok () => none
    | .error flaw => some flaw

/-- The name and the value of a header that was given on the command line. -/
def readHeader (line : String) : Except ProgramFault (String × String) :=
  match Text.cutFirst? ':' line with
  | none => .error (.badHeader line)
  | some (name, value) =>
    if (Text.trim name).isEmpty then .error (.badHeader line)
    else .ok (Text.trim name, Text.trim value)

def runRequest (config : Config) (script : String) (request : Request) (headers : List String)
    (machine : Machine) : Except ProgramFault Bytes := do
  let headers ← headers.mapM readHeader
  let bridge := (machine.bridge config).exportRequestHeaders headers
  .ok (bridge.runOnce machine.surroundings request script).1

def runCommand (config : Config) (publicDir : String) (arguments : List String)
    (machine : Machine) : Bytes :=
  ((machine.bridge config).runCommand machine.surroundings (" ".intercalate arguments)
    publicDir).1

/-- Serves until the program is told to stop. -/
def runServer (config : Config) (script : Option String) (listen : Option SocketAddress)
    (machine : Machine) : Except ProgramFault Bytes := do
  let serve := config.serve
  let serve :=
    { serve with script := script.getD serve.script, listen := listen.getD serve.listen }
  let config := { config with serve }
  let worker := Worker.spawn (machine.bridge config) serve.queueDepth.toNat
  let server ← (Server.assemble (some config) (some worker)).mapError .host
  (server.run machine.surroundings machine.network true).1.mapError .host
  .ok []

def versionText : String :=
  "Ember interpreter bridge\nVersion: " ++ Invocation.programVersion ++ "\nRust version: 1.75\n"

def perform (config : Config) (task : Task) (machine : Machine) : Except ProgramFault Bytes :=
  match task with
  | .serve script listen => machine.runServer config script listen
  | .request script request headers => machine.runRequest config script request headers
  | .command publicDir arguments => .ok (machine.runCommand config publicDir arguments)
  | .validate print => .ok (if print then utf8 (config.render ++ "\n") else [])
  | .version => .ok (utf8 versionText)

def taskVariables (config : Config) (task : Task) : List (String × String) :=
  match task with
  | .request script request _ =>
    match request.validate with
    | .error _ => []
    | .ok _ => Seeder.requestVariables ⟨config.serverInfo, config.request⟩ request (some script)
  | .command .. => config.command.env
  | .serve .. | .validate _ | .version => []

/-- Does what an invocation asks for. The version is told without a configuration. -/
def invoke (invocation : Invocation) (machine : Machine) : Except ProgramFault Ending :=
  match invocation.task with
  | .version => .ok (.finished (utf8 versionText))
  | task => do
    let config ← machine.loadConfig invocation
    let level := invocation.logLevel.getD config.logging.level
    match machine.logFilterFlaw? level with
    | some .malformed => .error (.badLogLevel level)
    | some .splitsCharacter => .ok .crashed
    | none =>
      let output ← machine.perform config task
      if (taskVariables config task).all Environment.isStorable then .ok (.finished output)
      else .ok .crashed

/-- Runs the program with the words of its command line. -/
def run (words : List String) (machine : Machine) : Ending :=
  match Invocation.read machine.vars words with
  | .error .misuse => .misused
  | .error (.shows text) => .finished (utf8 text)
  | .ok invocation =>
    match machine.invoke invocation with
    | .ok ending => ending
    | .error fault => .failed fault

end Machine

end ScriptBridge
