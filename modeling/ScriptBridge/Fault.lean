import ScriptBridge.Text.Quoted

/-!
# Faults

What can go wrong between a host and its interpreter. `ScriptFault` is what an interpreter reports,
`BridgeFault` what a host reports; `message` gives the wording of each, and `ScriptFault.toBridge`
says what a fault of the interpreter means to the host.
-/

namespace ScriptBridge

/-- A fault that an interpreter reports. -/
inductive ScriptFault where
  /-- The interpreter could not start. -/
  | startupFailed (reason : String)
  | notStarted
  | noActiveRequest
  | invalidSetting (key value : String)
  /-- The script is not well formed. -/
  | compilation (reason : String) (line column : Option Nat)
  | runtime (reason : String) (line : Option Nat)
  /-- The script could not be read. -/
  | io (reason : String)
  deriving Repr, DecidableEq

namespace ScriptFault

def place : Option Nat → Option Nat → String
  | none, _ => ""
  | some line, none => " at line " ++ toString line
  | some line, some column => " at line " ++ toString line ++ ", column " ++ toString column

def message : ScriptFault → String
  | .startupFailed reason => "Interpreter startup failed: " ++ reason
  | .notStarted => "Interpreter not started"
  | .noActiveRequest => "No active request"
  | .invalidSetting key value =>
    "Invalid value " ++ Text.quoted value ++ " for setting " ++ key
  | .compilation reason line column =>
    "Script compilation error: " ++ reason ++ place line column
  | .runtime reason line => "Script runtime error: " ++ reason ++ place line none
  | .io reason => "Script IO error: " ++ reason

/-- Whether the interpreter never came to run the script. -/
def isStartup : ScriptFault → Bool
  | .startupFailed _ | .notStarted | .invalidSetting .. => true
  | _ => false

end ScriptFault

/-- A fault that a host reports. -/
inductive BridgeFault where
  /-- The interpreter, or a request in it, could not start. -/
  | startupFailure (reason : String)
  /-- There is no memory for a response. -/
  | allocationFailure (reason : String)
  | script (reason : String)
  | noActiveRequest
  /-- A request that no interpreter can be seeded with. -/
  | invalidRequest (reason : String)
  /-- Bytes that are not a response. -/
  | malformedResponse (reason : String)
  | config (reason : String)
  | environment (reason : String)
  | runtime (reason : String)
  | serialization (reason : String)
  | io (reason : String)
  | http (reason : String)
  /-- Nothing of the above. -/
  | internal (reason : String)
  deriving Repr, DecidableEq

namespace BridgeFault

def message : BridgeFault → String
  | .startupFailure reason => "Interpreter startup failed: " ++ reason
  | .allocationFailure reason => "Allocation failure: " ++ reason
  | .script reason => "Script error: " ++ reason
  | .noActiveRequest => "No active request"
  | .invalidRequest reason => "Invalid request: " ++ reason
  | .malformedResponse reason => "Malformed response: " ++ reason
  | .config reason => "Configuration error: " ++ reason
  | .environment reason => "Environment error: " ++ reason
  | .runtime reason => "Runtime error: " ++ reason
  | .serialization reason => "Serialization error: " ++ reason
  | .io reason => "I/O error: " ++ reason
  | .http reason => "HTTP error: " ++ reason
  | .internal reason => "Internal error: " ++ reason

/-- The status code of a response that reports the fault. -/
def statusCode : BridgeFault → Nat
  | .invalidRequest _ => 400
  | .noActiveRequest => 409
  | .malformedResponse _ => 502
  | _ => 500

/-- Whether the interpreter has to be started again first. -/
def isStartupFailure : BridgeFault → Bool
  | .startupFailure _ => true
  | _ => false

end BridgeFault

theorem eq_ok_of_toOption {ε α : Type} {result : Except ε α} {a : α}
    (given : result.toOption = some a) : result = .ok a := by
  cases result with
  | ok => exact congrArg _ (Option.some.inj given)
  | error fault => contradiction

def ScriptFault.toBridge : ScriptFault → BridgeFault
  | .noActiveRequest => .noActiveRequest
  | fault => if fault.isStartup then .startupFailure fault.message else .script fault.message

end ScriptBridge
