import ScriptBridge.Bridge.Basic

/-!
# Operations of a bridge

What a host does with a bridge, as a value, and what it hears back. A history is a list of
operations, each with what surrounds the bridge at the time.
-/

namespace ScriptBridge

namespace Bridge

/-- Something that a host does with a bridge. -/
inductive Operation where
  | warmUp
  | runOnce (request : Request) (script : String)
  | setRequestInfo (request : Request)
  | executeScript (script : String)
  | runCommand (line publicDir : String)
  | setVariable (name value : String) (overwrite : Bool)
  | exportHeaders (headers : List (String × String))
  | shutdown
  deriving Repr, DecidableEq

/-- What a host hears of an operation. -/
inductive Answer where
  | bytes (bytes : Bytes)
  | outcome (outcome : SetOutcome)
  | fault (fault : BridgeFault)
  | done
  /-- The operation has no result. -/
  | nothing
  deriving Repr, DecidableEq

/-- The answer in a result without a value. -/
def Answer.ofUnit : Except BridgeFault Unit → Answer
  | .ok _ => .done
  | .error reason => .fault reason

def Answer.ofBytes : Except BridgeFault Bytes → Answer
  | .ok output => .bytes output
  | .error reason => .fault reason

variable {σ : Type} [Interpreter σ]

def perform (host : Surroundings) (operation : Operation) (bridge : Bridge σ) :
    Answer × Bridge σ :=
  match operation with
  | .warmUp =>
    let (result, bridge) := bridge.warmUp
    (.ofUnit result, bridge)
  | .runOnce request script =>
    let (response, bridge) := bridge.runOnce host request script
    (.bytes response, bridge)
  | .setRequestInfo request =>
    let (result, bridge) := bridge.setRequestInfo host request
    (.ofUnit result, bridge)
  | .executeScript script =>
    let (result, bridge) := bridge.executeScript host script
    (.ofBytes result, bridge)
  | .runCommand line publicDir =>
    let (output, bridge) := bridge.runCommand host line publicDir
    (.bytes output, bridge)
  | .setVariable name value overwrite =>
    let (outcome, bridge) := bridge.setEnvironmentVariable name value overwrite
    (.outcome outcome, bridge)
  | .exportHeaders headers => (.nothing, bridge.exportRequestHeaders headers)
  | .shutdown => (.nothing, bridge.shutdown)

/-- The bridge after a history. -/
def performAll (history : List (Surroundings × Operation)) (bridge : Bridge σ) : Bridge σ :=
  history.foldl (fun bridge (host, operation) => (bridge.perform host operation).2) bridge

end Bridge

end ScriptBridge
