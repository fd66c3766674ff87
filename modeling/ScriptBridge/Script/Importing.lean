import ScriptBridge.Interpreter
import ScriptBridge.Path
import ScriptBridge.Script.Evaluation
import ScriptBridge.Script.Parser

/-!
# Importing modules

Modules are found in files. The path of an import is seen from the directory of the module that it
stands in, or from the working directory, and its file has an extension of its own. A file is read
when it is imported for the first time. What its program makes is kept, and is what the file gives
whenever it is imported again.
-/

namespace ScriptBridge.Script

/-- The file of the module that a script imports from a path. The source is the path that the script
    was imported from itself. -/
def moduleFile (source : Option String) (path : String) : String :=
  Path.withExtension "rhai" (Path.join (source.elim "" Path.parent) path)

/-- The text of a file without the line that tells a shell what to run it with. -/
def dropShebang (script : String) : String :=
  if Text.startsWith "#!" script then String.ofList (script.toList.dropWhile (· != '\n'))
  else script

/-- The program of a module that is imported from a path. -/
def compileModule (host : Surroundings) (allowance : Allowance) (source : Option String)
    (path : String) : Except RunCause Program :=
  match host.files.readText host.workingDir (moduleFile source path) with
  | .error _ => .error (.unknownModule path)
  | .ok script =>
    (Program.compile allowance (dropShebang script)).mapError fun fault =>
      .inModule path ("Syntax error: " ++ fault.message)

/-- What becomes of a fault of a module where that is imported. -/
def Stop.enclose (path : String) (pos : Position) : Stop → Stop
  | .fault inner => .fault ⟨.inModule path inner.message, pos⟩
  | stop => stop

/-- Imports a module into a script with a source. What the module imports itself is left to importers
    for its own source. -/
def importFile (host : Surroundings) (occasion : Occasion) (allowance : Allowance)
    (inner : Option String → Importer) (source : Option String) : Importer := fun path pos machine =>
  let key := Path.components (moduleFile source path)
  match machine.modules.lookup key with
  | some module => (.ok module, machine)
  | none =>
    match compileModule host allowance source path with
    | .error cause => (.error (.fault ⟨cause, pos⟩), machine)
    | .ok program =>
      match program.makeModule ⟨occasion, allowance, inner (some path)⟩ machine with
      | (.ok module, machine) =>
        (.ok module, { machine with modules := (key, module) :: machine.modules })
      | (.error stop, machine) => (.error (stop.enclose path pos), machine)

/-- Imports modules that import others in their turn. Each import takes a turn of the script, so that
    they are never deeper than the turns that there are. -/
def fileImporter (host : Surroundings) (occasion : Occasion) (allowance : Allowance) :
    Nat → Option String → Importer
  | 0, _ => fun _ pos machine => (.error (.fault ⟨.tooManyOperations, pos⟩), machine)
  | depth + 1, source =>
    importFile host occasion allowance (fileImporter host occasion allowance depth) source

/-- What a script runs with that was not imported itself. -/
def Frame.ofScript (host : Surroundings) (occasion : Occasion) (allowance : Allowance) : Frame :=
  ⟨occasion, allowance, fileImporter host occasion allowance allowance.turns none⟩

end ScriptBridge.Script
