import ScriptBridge.Config.Basic
import ScriptBridge.Server.Network
import ScriptBridge.Server.Traffic

/-!
# Servers

A server listens on an address and gives every request that comes to its service, until it is told
to stop. Then the requests under way are waited for and the interpreter is shut down.
-/

namespace ScriptBridge

/-- How far a server is. -/
inductive ServerState where
  | initializing
  | running
  | shuttingDown
  | stopped
  deriving Repr, DecidableEq

def ServerState.name : ServerState → String
  | .initializing => "Initializing"
  | .running => "Running"
  | .shuttingDown => "ShuttingDown"
  | .stopped => "Stopped"

/-- An address, how far the server is, and the traffic that it directs. -/
structure Server (σ : Type) where
  listen : SocketAddress
  state : ServerState
  traffic : Traffic σ

namespace Server

variable {σ : Type}

/-- A server for a worker, which needs a configuration and a worker. -/
def assemble (config : Option Config) (worker : Option (Worker σ)) :
    Except BridgeFault (Server σ) :=
  match config, worker with
  | none, _ => .error (.config "config is required")
  | some _, none => .error (.config "bridge is required")
  | some config, some worker =>
    .ok ⟨config.serve.listen, .initializing, .new (.ofConfig config.serve) worker⟩

def cookies (server : Server σ) : CookieJar :=
  server.traffic.service.cookies

def bindFault? (network : Network) (server : Server σ) : Option BridgeFault :=
  (network.bindFault? server.listen).map fun fault =>
    .runtime ("Failed to bind to " ++ server.listen.render ++ ": " ++ fault.message)

/-- Takes no more requests. -/
def close (server : Server σ) : Server σ :=
  { server with state := .shuttingDown }

variable [Interpreter σ]

def accept (host : Surroundings) (incoming : Incoming) (server : Server σ) : Response × Server σ :=
  let (response, traffic) := server.traffic.handle host incoming
  (response, { server with state := .running, traffic })

/-- Takes no more requests, lets the worker do what it was given, and shuts the interpreter down. -/
def stop (host : Surroundings) (server : Server σ) : Server σ :=
  let server := server.close
  let (_, worker) := server.traffic.worker.call host .shutdown
  { server with state := .stopped, traffic := { server.traffic with worker } }

/-- Listens, unless the address cannot be used, and stops at once if the server was told to before.
    -/
def run (host : Surroundings) (network : Network) (told : Bool) (server : Server σ) :
    Except BridgeFault Unit × Server σ :=
  match server.bindFault? network with
  | some fault => (.error fault, server)
  | none =>
    let server := { server with state := .running }
    (.ok (), if told then server.stop host else server)

end Server

end ScriptBridge
