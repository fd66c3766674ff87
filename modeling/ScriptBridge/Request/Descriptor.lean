import ScriptBridge.Text.Blank
import ScriptBridge.Text.Cut
import ScriptBridge.Text.Quoted
import ScriptBridge.Text.Utf8

/-!
# Requests

What a host is asked to run a script for. A body that is present may be empty.
-/

namespace ScriptBridge

/-- A request as a host receives it. -/
structure Request where
  method : String
  uri : String
  contentType : Option String
  body : Option Bytes
  deriving Repr, DecidableEq

/-- Why no interpreter can be seeded with a request. -/
inductive RequestFault where
  | invalidMethod (method : String)
  | emptyUri
  deriving Repr, DecidableEq

def RequestFault.message : RequestFault → String
  | .invalidMethod method => "invalid method " ++ Text.quoted method
  | .emptyUri => "empty URI"

namespace Request

/-- The part of the URI behind its first question mark. -/
def query (request : Request) : String :=
  ((Text.cutFirst? '?' request.uri).map (·.2)).getD ""

/-- The part of the URI before its first question mark. -/
def path (request : Request) : String :=
  ((Text.cutFirst? '?' request.uri).map (·.1)).getD request.uri

/-- The bytes of the body; none without a body. -/
def contentLength (request : Request) : Nat :=
  (request.body.map List.length).getD 0

def validate (request : Request) : Except RequestFault Unit :=
  if request.method.isEmpty || Text.hasBlank request.method then
    .error (.invalidMethod request.method)
  else if request.uri.isEmpty then .error .emptyUri
  else .ok ()

theorem validate_eq_ok_iff {request : Request} :
    request.validate = .ok () ↔ request.method.isEmpty = false ∧
      Text.hasBlank request.method = false ∧ request.uri.isEmpty = false := by
  rw [validate]
  cases request.method.isEmpty <;> cases Text.hasBlank request.method <;>
    cases request.uri.isEmpty <;> simp

end Request

namespace MediaType

def json : String := "application/json"

def form : String := "application/x-www-form-urlencoded"

/-- The type that a script sees for a request with a body: JSON if the given type speaks of it, and
    a form otherwise. -/
def normalize (given : Option String) : String :=
  match given with
  | some given => if Text.hasPart "json" given then json else form
  | none => form

def readsForm (mediaType method : String) : Bool :=
  Text.hasPart form mediaType || method == "POST" || method == "PUT" || method == "PATCH"

end MediaType

end ScriptBridge
