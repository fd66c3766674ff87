import ScriptBridge.Cookie.Jar
import ScriptBridge.Http.Response
import ScriptBridge.Server.Incoming
import ScriptBridge.Worker.Job

/-!
# Services

What the connections of a server share: the script that answers every request, and the cookies that
responses have set. A request becomes a job for the worker, the output of the job becomes the
response.
-/

namespace ScriptBridge

/-- The script of a server and what is kept between its requests. -/
structure Service where
  script : String
  maxBodySize : Nat
  /-- Whether cookies that responses set come back with requests that have none. -/
  replayCookies : Bool
  cookies : CookieJar
  deriving Repr, DecidableEq

def Reply.bytes : Reply → Bytes
  | .output bytes => bytes
  | .outcome _ | .done => []

def BridgeFault.response (fault : BridgeFault) : Response :=
  .ofText fault.statusCode ("Error: " ++ fault.message)

namespace Service

def ofConfig (config : ServeConfig) : Service where
  script := config.script
  maxBodySize := config.maxBodySize.toNat
  replayCookies := config.replayCookies
  cookies := .empty

/-- A header with the cookies, for a request that has none of its own. -/
def replayed (incoming : Incoming) (service : Service) : List (String × String) :=
  if service.replayCookies && !incoming.has "cookie" then
    (service.cookies.header?.map fun value => ("cookie", value)).toList
  else []

def job (incoming : Incoming) (service : Service) : Except BridgeFault Job :=
  if service.maxBodySize < incoming.body.length then
    .error (.invalidRequest "Failed to read request body: length limit exceeded")
  else
    .ok (.answer (incoming.plainHeaders ++ service.replayed incoming) incoming.request
      service.script)

def keepCookies (message : Message) (service : Service) : Service :=
  if service.replayCookies then
    { service with cookies := service.cookies.storeAll (message.headerValues "Set-Cookie") }
  else service

def receive (output : Bytes) (service : Service) : Except BridgeFault Response × Service :=
  match Message.parse output with
  | .error fault => (.error fault.toBridge, service)
  | .ok message =>
    let response := match message.toResponse with
      | .error fault => .error fault.toBridge
      | .ok response => .ok response
    (response, service.keepCookies message)

end Service

end ScriptBridge
