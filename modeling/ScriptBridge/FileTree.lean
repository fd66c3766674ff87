import ScriptBridge.Text.Cut
import ScriptBridge.Text.Utf8

/-!
# File trees

Files and directories as a value. A path is resolved name by name from the root or from a working
directory; a name that leads upwards needs the directory that it leaves to exist.
-/

namespace ScriptBridge

/-- Why a path cannot be read. -/
inductive FileFault where
  | notFound
  | notDirectory
  | isDirectory
  | notText
  | nulInPath
  | nameTooLong
  deriving Repr, DecidableEq

def FileFault.message : FileFault → String
  | .notFound => "No such file or directory (os error 2)"
  | .notDirectory => "Not a directory (os error 20)"
  | .isDirectory => "Is a directory (os error 21)"
  | .notText => "stream did not contain valid UTF-8"
  | .nulInPath => "file name contained an unexpected NUL byte"
  | .nameTooLong => "File name too long (os error 36)"

/-- A place in a tree: the names that lead to it from the root. -/
abbrev Location := List String

/-- A file and the second of its last change. -/
structure File where
  content : Bytes
  modified : Int
  deriving Repr, DecidableEq

/-- What is at a place. -/
inductive Entry where
  | file (file : File)
  | directory
  deriving Repr, DecidableEq

/-- What is at which place. The root is always a directory. -/
structure FileTree where
  entries : List (Location × Entry)
  deriving Repr, DecidableEq

namespace FileTree

/-- Nothing but the root. -/
def empty : FileTree := ⟨[]⟩

def at? (tree : FileTree) (place : Location) : Option Entry :=
  if place.isEmpty then some .directory else tree.entries.lookup place

def put (tree : FileTree) (place : Location) (entry : Entry) : FileTree :=
  ⟨(place, entry) :: tree.entries.filter (·.1 != place)⟩

def addDirectory (tree : FileTree) (place : Location) : FileTree :=
  let places := (List.range place.length).map fun n => place.take (n + 1)
  places.foldl (fun tree place => tree.put place .directory) tree

/-- Writes a file and makes the directories that lead to it. -/
def write (tree : FileTree) (place : Location) (file : File) : FileTree :=
  (tree.addDirectory place.dropLast).put place (.file file)

def remove (tree : FileTree) (place : Location) : FileTree :=
  ⟨tree.entries.filter (·.1 != place)⟩

/-- How many bytes a name in a path has at most. -/
def maxNameSize : Nat := 255

def step (tree : FileTree) (place : Location) (name : String) : Except FileFault Location :=
  match tree.at? place with
  | some .directory =>
    if name = ".." then .ok place.dropLast
    else if name = "." || name.isEmpty then .ok place
    else if maxNameSize < name.utf8ByteSize then .error .nameTooLong
    else
      match tree.at? (place ++ [name]) with
      | some _ => .ok (place ++ [name])
      | none => .error .notFound
  | some (.file _) => .error .notDirectory
  | none => .error .notFound

def walk (tree : FileTree) (place : Location) : List String → Except FileFault Location
  | [] => .ok place
  | name :: rest =>
    match tree.step place name with
    | .ok next => walk tree next rest
    | .error fault => .error fault

/-- How many bytes a path has at most. -/
def maxPathSize : Nat := 4095

/-- The place that a path leads to from a working directory. -/
def resolve (tree : FileTree) (workingDir : Location) (path : String) :
    Except FileFault Location :=
  if path.isEmpty then .error .notFound
  else if path.toList.contains '\x00' then .error .nulInPath
  else if maxPathSize < path.utf8ByteSize then .error .nameTooLong
  else
    let start := if Text.startsWith "/" path then [] else workingDir
    tree.walk start (Text.cutAll '/' path)

def find (tree : FileTree) (workingDir : Location) (path : String) :
    Except FileFault Entry := do
  let place ← tree.resolve workingDir path
  match tree.at? place with
  | some entry => .ok entry
  | none => .error .notFound

/-- The second in which what a path leads to was last changed; none is known of a directory. -/
def modified (tree : FileTree) (workingDir : Location) (path : String) :
    Except FileFault (Option Int) := do
  match ← tree.find workingDir path with
  | .file file => .ok (some file.modified)
  | .directory => .ok none

def readText (tree : FileTree) (workingDir : Location) (path : String) :
    Except FileFault String := do
  match ← tree.find workingDir path with
  | .directory => .error .isDirectory
  | .file file =>
    match Utf8.decode? file.content with
    | some text => .ok text
    | none => .error .notText

end FileTree

end ScriptBridge
