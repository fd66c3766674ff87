import ScriptBridge.Config.Basic
import ScriptBridge.Path
import ScriptBridge.Text.Blank

/-!
# Commands

The arguments of a command line, and the paths that a command runs with.
-/

namespace ScriptBridge.Command

/-- The arguments of a command line behind the name of the program, at most `maxArgs` together. -/
def arguments (program line : String) (maxArgs : Nat) : List String :=
  program :: (Text.words line).take (maxArgs - 1)

/-- Where a command runs and what it runs. -/
structure Paths where
  workingDir : String
  entryScript : String
  deriving Repr, DecidableEq

def paths (publicDir : String) (config : CommandConfig) : Paths where
  workingDir := Path.join publicDir config.workingDir
  entryScript := Path.join publicDir config.entryScript

end ScriptBridge.Command
