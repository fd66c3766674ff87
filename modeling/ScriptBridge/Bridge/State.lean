/-!
# States of a bridge

A bridge rests in one of four states between operations and passes through the others within one.
-/

namespace ScriptBridge

/-- Where a bridge stands. -/
inductive LifecycleState where
  /-- No interpreter is started. -/
  | uninitialized
  | warm
  | seeding
  | executing
  | capturing
  | shuttingDownRequest
  | requestActive
  /-- The interpreter is shut down and the buffers are released. -/
  | shutdown
  deriving Repr, DecidableEq

namespace LifecycleState

def name : LifecycleState → String
  | .uninitialized => "uninitialized"
  | .warm => "warm"
  | .seeding => "seeding"
  | .executing => "executing"
  | .capturing => "capturing"
  | .shuttingDownRequest => "shutting-down-request"
  | .requestActive => "request-active"
  | .shutdown => "shutdown"

/-- Whether a bridge can be in the state between two operations. -/
def isResting : LifecycleState → Bool
  | .uninitialized | .warm | .requestActive | .shutdown => true
  | _ => false

end LifecycleState

end ScriptBridge
