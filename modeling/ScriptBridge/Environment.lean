import ScriptBridge.FileTree
import ScriptBridge.Table

/-!
# Ambient environment

The variables and the working directory that a host and its scripts share. A recording environment
only remembers the last directory it was asked for; a live one moves there, so that paths are read
from the new directory.
-/

namespace ScriptBridge

/-- How an environment treats a change of the working directory. -/
inductive Directory where
  | recorded (asked : Option String)
  | live (place : Location)
  deriving Repr, DecidableEq

/-- The place that paths are read from; whoever only remembers a path stays at home. -/
def Directory.place (directory : Directory) (home : Location) : Location :=
  match directory with
  | .recorded _ => home
  | .live place => place

/-- Variables and a working directory. -/
structure Environment where
  vars : Table String
  directory : Directory
  deriving Repr, DecidableEq

namespace Environment

def recording (vars : List (String × String)) : Environment :=
  ⟨.ofPairs vars, .recorded none⟩

def isName (name : String) : Bool :=
  !name.isEmpty && !name.toList.contains '=' && !name.toList.contains '\x00'

def isValue (value : String) : Bool :=
  !value.toList.contains '\x00'

def isStorable (entry : String × String) : Bool :=
  isName entry.1 && isValue entry.2

def get? (env : Environment) (name : String) : Option String :=
  Table.get? name env.vars

def set (env : Environment) (name value : String) : Environment :=
  { env with vars := Table.insert name value env.vars }

/-- Sets variables one after the other. -/
def setAll (env : Environment) (pairs : List (String × String)) : Environment :=
  pairs.foldl (fun env (name, value) => env.set name value) env

def unset (env : Environment) (name : String) : Environment :=
  { env with vars := Table.erase name env.vars }

/-- The path that a recording environment was last asked for. -/
def asked? (env : Environment) : Option String :=
  match env.directory with
  | .recorded asked => asked
  | .live _ => none

/-- The place that paths are read from; a recording environment stays where it is. -/
def workingDir (env : Environment) (home : Location) : Location :=
  env.directory.place home

/-- Asks for another working directory. A live environment stays where it is if the path leads to no
    directory. -/
def changeDir (env : Environment) (files : FileTree) (path : String) : Environment :=
  match env.directory with
  | .recorded _ => { env with directory := .recorded (some path) }
  | .live place =>
    match files.resolve place path with
    | .error _ => env
    | .ok next =>
      match files.at? next with
      | some .directory => { env with directory := .live next }
      | _ => env

@[simp]
theorem directory_setAll (env : Environment) (pairs : List (String × String)) :
    (env.setAll pairs).directory = env.directory := by
  induction pairs generalizing env with
  | nil => rfl
  | cons pair pairs ih => exact ih _

@[simp]
theorem directory_foldl_unset (env : Environment) (names : List String) :
    (names.foldl unset env).directory = env.directory := by
  induction names generalizing env with
  | nil => rfl
  | cons name names ih => exact ih _

end Environment

end ScriptBridge
