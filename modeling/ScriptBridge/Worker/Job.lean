import ScriptBridge.Bridge.Basic

/-!
# Jobs

The units of work that a bridge is given by others. A job is done as a whole: the headers of a
request are exported and its script is run without anything in between.
-/

namespace ScriptBridge

/-- Something to do with a bridge. -/
inductive Job where
  /-- Answers a request that came with headers with a script. -/
  | answer (headers : List (String × String)) (request : Request) (script : String)
  | command (line publicDir : String)
  | setVariable (name value : String) (overwrite : Bool)
  /-- Shuts the interpreter down; the next request starts it again. -/
  | shutdown
  deriving Repr, DecidableEq

/-- What whoever gave a job hears of it. -/
inductive Reply where
  | output (bytes : Bytes)
  | outcome (outcome : Bridge.SetOutcome)
  | done
  deriving Repr, DecidableEq

namespace Job

variable {σ : Type} [Interpreter σ]

def run (host : Surroundings) (job : Job) (bridge : Bridge σ) : Reply × Bridge σ :=
  match job with
  | .answer headers request script =>
    let (response, bridge) := (bridge.exportRequestHeaders headers).runOnce host request script
    (.output response, bridge)
  | .command line publicDir =>
    let (output, bridge) := bridge.runCommand host line publicDir
    (.output output, bridge)
  | .setVariable name value overwrite =>
    let (outcome, bridge) := bridge.setEnvironmentVariable name value overwrite
    (.outcome outcome, bridge)
  | .shutdown => (.done, bridge.shutdown)

end Job

end ScriptBridge
