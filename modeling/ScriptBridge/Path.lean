import ScriptBridge.Text.Cut

/-!
# Paths

Paths are texts with `/` between names. Nothing is ever resolved here: `join` puts one path behind
another, `components` tells when two texts are the same path, `parent` leaves the last name out, and
`extension?` looks at it.
-/

namespace ScriptBridge.Path

def isAbsolute (path : String) : Bool :=
  Text.startsWith "/" path

/-- The path of `right` seen from `left`. -/
def join (left right : String) : String :=
  if isAbsolute right then right
  else if left.isEmpty then right
  else if left.endsWith "/" then left ++ right
  else left ++ "/" ++ right

/-- The names between slashes that count: neither empty ones nor dots. -/
def names (path : String) : List String :=
  (Text.cutAll '/' path).filter fun name => !name.isEmpty && name != "."

/-- Whether the first name is a dot. -/
def startsWithDot (path : String) : Bool :=
  (Text.cutAll '/' path).head? == some "."

/-- What makes two texts the same path: the root, a leading dot, and the names. -/
def components (path : String) : List String :=
  if isAbsolute path then "/" :: names path
  else if startsWithDot path then "." :: names path
  else names path

/-- The last name, unless it leads upwards. -/
def fileName? (path : String) : Option String :=
  match (names path).getLast? with
  | some ".." => none
  | name => name

/-- What follows the last dot of the last name, if that dot is not its first character. -/
def extension? (path : String) : Option String := do
  let name ← fileName? path
  let (behind, before) ← cutFirst? '.' name.toList.reverse
  if before.isEmpty then none else some (String.ofList behind.reverse)

/-- The path without its last name. -/
def parent (path : String) : String :=
  if isAbsolute path then "/" ++ String.intercalate "/" (names path).dropLast
  else String.intercalate "/" (components path).dropLast

/-- The last name without its extension. -/
def stem? (path : String) : Option String := do
  let name ← fileName? path
  match extension? path with
  | some extension => some (String.ofList (name.toList.take (name.length - extension.length - 1)))
  | none => some name

/-- The path with another extension, if it has a last name. -/
def withExtension (extension path : String) : String :=
  match stem? path with
  | some stem => join (parent path) (stem ++ "." ++ extension)
  | none => path

end ScriptBridge.Path
