import ScriptBridge.Capture.Context
import ScriptBridge.Fault
import ScriptBridge.FileTree
import ScriptBridge.Request.Descriptor
import ScriptBridge.Value

/-!
# Interpreters

What a host asks of an interpreter. An interpreter is started with arguments and settings; while it
is started it serves requests one after the other. A request is declared, started, given its
symbols, executed, and shut down; what a script emits comes back as a list of emissions.
-/

namespace ScriptBridge

/-- How an interpreter is started. -/
structure StartupOptions where
  argv : List String
  ini : Table String
  deriving Repr, DecidableEq

/-- What an interpreter is told about a request. -/
structure RequestInfo where
  method : String
  uri : String
  contentType : String
  contentLength : Nat
  /-- The version of the protocol: a thousand times the major number and the minor one. -/
  protocol : Nat
  cookie : Option String
  deriving Repr, DecidableEq

/-- What an interpreter is told about a request of version 1.1. -/
def RequestInfo.declare (request : Request) (contentType : String) (cookie : Option String) :
    RequestInfo where
  method := request.method
  uri := request.uri
  contentType
  contentLength := request.contentLength
  protocol := 1001
  cookie

/-- Where the fields of a form go. -/
inductive FormTarget where
  | post
  | query
  deriving Repr, DecidableEq

namespace Symbol

def server : String := "_SERVER"

def cookie : String := "_COOKIE"

def post : String := "_POST"

def get : String := "_GET"

def env : String := "_ENV"

end Symbol

def FormTarget.symbol : FormTarget → String
  | .post => Symbol.post
  | .query => Symbol.get

/-- What surrounds a script while it runs. -/
structure Surroundings where
  files : FileTree
  workingDir : Location
  now : Int64

/-- What comes of a script: what it emitted, in order, and how it ended. -/
structure Execution where
  emissions : List Emission
  outcome : Except ScriptFault Unit

/-- The operations of an interpreter on its states. -/
class Interpreter (σ : Type) where
  started : σ → Bool
  active : σ → Bool
  /-- The exit status of the last script. -/
  exitStatus : σ → Int
  /-- Whether the interpreter took the thread that it runs on down with it. -/
  crashed : σ → Bool
  startup : StartupOptions → σ → Except ScriptFault Unit × σ
  declare : RequestInfo → σ → σ
  requestStartup : σ → Except ScriptFault Unit × σ
  setSymbol : String → Value → σ → σ
  /-- Reads url-encoded data into the symbol of a target. -/
  readForm : FormTarget → Bytes → σ → σ
  attachBody : Bytes → σ → σ
  /-- Lets scripts of the request write to standard output. -/
  exposeStdout : σ → σ
  /-- Makes standard output and standard error part of the output of scripts. -/
  routeStdio : σ → Except ScriptFault Unit × σ
  finishRequestStartup : σ → σ
  execute : Surroundings → String → σ → Execution × σ
  requestShutdown : σ → σ
  shutdown : σ → σ

end ScriptBridge
