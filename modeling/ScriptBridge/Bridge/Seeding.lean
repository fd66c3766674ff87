import ScriptBridge.Config.Basic
import ScriptBridge.Cookie.Header
import ScriptBridge.Environment
import ScriptBridge.Interpreter
import ScriptBridge.Request.ServerInfo

/-!
# Seeding a request

What happens before a script runs for a request: the variables of the environment that speak of the
request are set, and the interpreter is given the request, its symbols and its body.
-/

namespace ScriptBridge

/-- What a host says to scripts about itself and its requests. -/
structure Seeder where
  constants : ServerConstants
  config : RequestConfig
  deriving Repr, DecidableEq

namespace Seeder

/-- The variables that speak of a request, and behind them the configured ones. Without a script the
    configured name of the script is given. -/
def requestVariables (seeder : Seeder) (request : Request) (script : Option String) :
    List (String × String) :=
  [("REQUEST_URI", request.uri), ("REQUEST_METHOD", request.method),
   ("SCRIPT_FILENAME", script.getD seeder.constants.scriptName),
   ("PHP_SELF", seeder.constants.selfPath)] ++
  (if request.query.isEmpty then [] else [("QUERY_STRING", request.query)]) ++
  seeder.config.exports

/-- Sets the variables of a request. A request without a query leaves none of an earlier one. -/
def exportEnvironment (seeder : Seeder) (request : Request) (script : Option String)
    (env : Environment) : Environment :=
  let env := if request.query.isEmpty then env.unset "QUERY_STRING" else env
  env.setAll (seeder.requestVariables request script)

@[simp]
theorem directory_exportEnvironment (seeder : Seeder) (request : Request)
    (script : Option String) (env : Environment) :
    (seeder.exportEnvironment request script env).directory = env.directory := by
  rw [exportEnvironment, Environment.directory_setAll]
  split <;> rfl

/-- The content type of a request: its own, or else that of a variable. -/
def contentType (seeder : Seeder) (request : Request) (env : Environment) : Option String :=
  request.contentType <|> env.get? seeder.config.contentTypeEnv

/-- What the interpreter is told about a request. A body always has one of two types. -/
def info (seeder : Seeder) (request : Request) (env : Environment) : RequestInfo :=
  let given := seeder.contentType request env
  let declared := match request.body with
    | some _ => MediaType.normalize given
    | none => given.getD ""
  .declare request declared (env.get? seeder.config.cookieEnv)

variable {σ : Type} [Interpreter σ]

/-- Gives the fields of the query, if there is a query. -/
def giveQuery (request : Request) (interpreter : σ) : σ :=
  if request.query.isEmpty then interpreter
  else Interpreter.readForm .query (utf8 request.query) interpreter

/-- Gives the cookies, if there is a variable for them. -/
def giveCookies (seeder : Seeder) (env : Environment) (interpreter : σ) : σ :=
  match env.get? seeder.config.cookieEnv with
  | none => interpreter
  | some header =>
    Interpreter.setSymbol Symbol.cookie (.ofTexts (Cookie.parse header)) interpreter

/-- Gives the body, if there is one, and its fields, if it is a form. -/
def giveBody (seeder : Seeder) (request : Request) (env : Environment) (interpreter : σ) : σ :=
  match request.body with
  | none => interpreter
  | some body =>
    let interpreter := Interpreter.attachBody body interpreter
    let mediaType := MediaType.normalize (seeder.contentType request env)
    if MediaType.readsForm mediaType request.method then
      Interpreter.readForm .post body interpreter
    else interpreter

/-- Gives all variables, if scripts may see them. -/
def giveEnvironment (seeder : Seeder) (env : Environment) (interpreter : σ) : σ :=
  if seeder.config.exposeEnv then
    Interpreter.setSymbol Symbol.env (.ofTexts env.vars) interpreter
  else interpreter

/-- Gives a started request all that its script finds. -/
def give (seeder : Seeder) (now : Int64) (request : Request) (env : Environment)
    (interpreter : σ) : σ :=
  let interpreter := giveQuery request interpreter
  let server := Value.map (serverInfo request seeder.constants now)
  let interpreter := Interpreter.setSymbol Symbol.server server interpreter
  let interpreter := giveCookies seeder env interpreter
  let interpreter := Interpreter.exposeStdout interpreter
  let interpreter := giveBody seeder request env interpreter
  let interpreter := giveEnvironment seeder env interpreter
  Interpreter.finishRequestStartup interpreter

/-- Declares a request, starts it, and gives it what its script finds. Nothing is given to a request
    that does not start. -/
def seed (seeder : Seeder) (now : Int64) (request : Request) (env : Environment)
    (interpreter : σ) : Except BridgeFault Unit × σ :=
  let interpreter := Interpreter.declare (seeder.info request env) interpreter
  match Interpreter.requestStartup interpreter with
  | (.error fault, interpreter) => (.error (.startupFailure fault.message), interpreter)
  | (.ok _, interpreter) => (.ok (), give seeder now request env interpreter)

end Seeder

end ScriptBridge
