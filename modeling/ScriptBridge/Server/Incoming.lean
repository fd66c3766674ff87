import ScriptBridge.Request.Descriptor
import ScriptBridge.Text.Cut

/-!
# Incoming requests

A request as a connection delivers it: a target, headers whose values are bytes, and a body. What
the headers say goes to a script as text, so a value that is no plain text stays behind.
-/

namespace ScriptBridge

/-- A request of a connection. The names of its headers are in lower case. -/
structure Incoming where
  method : String
  target : String
  headers : List (String × Bytes)
  body : Bytes
  deriving Repr, DecidableEq

namespace Incoming

def isPlain (b : UInt8) : Bool :=
  b == 9 || (32 ≤ b && b < 127)

/-- The text of a value, if all of it is plain. -/
def plainText? (value : Bytes) : Option String :=
  if value.all isPlain then Utf8.decode? value else none

/-- A value without the spaces and tabs around it. -/
def trimmed (value : Bytes) : Bytes :=
  let blank := fun b => b == 9 || b == 32
  ((value.dropWhile blank).reverse.dropWhile blank).reverse

/-- The values of a header, in order. -/
def values (incoming : Incoming) (name : String) : List Bytes :=
  (incoming.headers.filter (·.1 == name)).map (·.2)

def has (incoming : Incoming) (name : String) : Bool :=
  incoming.headers.any (·.1 == name)

/-- Whether a target names a scheme and an authority before its path. -/
def authorityAndPath? (target : String) : Option String :=
  (cutAt? "://".toList target.toList).bind fun (scheme, rest) =>
    if scheme.contains '/' then none else some (String.ofList rest)

/-- The path and the query of a target. A target with a scheme and an authority has what stands
    behind them; a target that is only an authority has the root. -/
def location (incoming : Incoming) : String :=
  let target := ((Text.cutFirst? '#' incoming.target).map (·.1)).getD incoming.target
  if Text.startsWith "/" target || target == "*" then target
  else
    match authorityAndPath? target with
    | none => "/"
    | some rest =>
      let location := String.ofList (rest.toList.dropWhile fun c => c != '/' && c != '?')
      if location.isEmpty then "/" else location

/-- Headers with those of one name together, where the first of them stood. -/
def grouped {α : Type} (headers : List (String × α)) : List (String × α) :=
  (headers.map (·.1)).eraseDups.flatMap fun name => headers.filter (·.1 == name)

def plainHeaders (incoming : Incoming) : List (String × String) :=
  (grouped incoming.headers).filterMap fun (name, value) =>
    (plainText? value).map fun value => (name, value)

/-- The request that a script is run for. An empty body is one only if its length was given. -/
def request (incoming : Incoming) : Request where
  method := incoming.method
  uri := incoming.location
  contentType := (incoming.values "content-type").head?.bind plainText?
  body :=
    if !incoming.body.isEmpty || incoming.has "content-length" then some incoming.body else none

end Incoming

end ScriptBridge
