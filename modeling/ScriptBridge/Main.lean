import ScriptBridge.Program

/-!
# The command line

Finds out what the program needs to know of the machine, runs the program, and writes what comes of
it.
-/

namespace ScriptBridge.Main

def environmentTable : IO (Table String) := do
  let text ← IO.FS.readBinFile "/proc/self/environ"
  let entries := (cutAll 0 text.toList).filterMap fun entry => do
    let (name, value) ← cutFirst? 61 entry
    some (Utf8.decodeLossy name, Utf8.decodeLossy value)
  return .ofPairs (entries.filter fun entry => !entry.1.isEmpty)

/-- Takes what is at a place of the machine into a tree. -/
def mountPlace (tree : FileTree) (place : Location) : IO FileTree := do
  let path := (← IO.currentDir) / ("/" ++ "/".intercalate place)
  if ← path.isDir then return tree.put place .directory
  if ← path.pathExists then
    let content ← IO.FS.readBinFile path
    let changed := (← path.metadata).modified.sec
    return tree.put place (.file ⟨content.toList, changed⟩)
  return tree

/-- Takes what a path leads to into a tree, with what lies on the way. -/
def mount (home : Location) (tree : FileTree) (path : String) : IO FileTree := do
  let start := if Path.isAbsolute path then [] else home
  let names := (Text.cutAll '/' path).filter fun name => !name.isEmpty && name != "."
  let (tree, _) ← names.foldlM
    (fun (tree, place) name => do
      let place := if name == ".." then place.dropLast else place ++ [name]
      return (← mountPlace tree place, place))
    (tree, start)
  return tree

/-- The machine before any file is looked at. -/
def machine : IO Machine := do
  let home := (Text.cutAll '/' (← IO.currentDir).toString).filter fun name => !name.isEmpty
  let own := (← IO.currentDir) / "/proc/self/environ"
  let now := (← own.metadata).modified.sec
  return ⟨← environmentTable, FileTree.empty.addDirectory home, home, Int64.ofInt now, .isolated⟩

/-- The machine with the files that the words of a command line lead to. -/
def machineFor (words : List String) : IO Machine := do
  let machine ← machine
  match Invocation.read machine.vars words with
  | .error _ => return machine
  | .ok invocation =>
    let files ← invocation.configPath.toList.foldlM (mount machine.workingDir) machine.files
    let machine := { machine with files }
    match machine.loadConfig invocation with
    | .error _ => return machine
    | .ok config =>
      let files ← (invocation.task.paths config).foldlM (mount machine.workingDir) files
      return { machine with files }

end ScriptBridge.Main

open ScriptBridge in
/-- Runs the program with the words of the command line. -/
def main (words : List String) : IO UInt32 := do
  let machine ← Main.machineFor words
  let ending := machine.run words
  let stdout ← IO.getStdout
  stdout.write ⟨ending.output.toArray⟩
  stdout.flush
  match ending with
  | .finished _ | .crashed => pure ()
  | .misused => IO.eprint (Invocation.topHelp machine.vars)
  | .failed fault => IO.eprintln fault.report
  return UInt32.ofNat ending.status
