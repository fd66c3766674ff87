import ScriptBridge.Proofs.Script.Caching
import ScriptBridge.Proofs.Script.Deferral

/-! # What scripts write, however they end

The draft of a script is all that it writes, and how it ends. An engine that does not show faults hands
on of the draft what its outlet admits, in the same way whether there is a fault or not: only the exit
status tells.
-/

namespace ScriptBridge.Script

namespace Engine

variable {engine next : Engine} {host : Surroundings} {path : String}

end Engine

end ScriptBridge.Script
