import ScriptBridge.Server.Service
import ScriptBridge.Worker.Basic

/-!
# Traffic

Requests on their way through a service and its worker. Any number of them are under way at once;
each goes through three moves of its own, and the worker moves in between.

`arrive`, `submit`, `work` and `finish` are the atomic moves. `handle` is what they come to for a
request that is alone.
-/

namespace ScriptBridge

/-- How far a request is. -/
inductive Passage where
  /-- The job is made and not handed over yet. -/
  | submitting (job : Job)
  | waiting (ticket : Nat)
  | answered (response : Response)
  deriving Repr, DecidableEq

/-- A service, its worker, and the requests under way by number. -/
structure Traffic (σ : Type) where
  service : Service
  worker : Worker σ
  arrived : Nat
  passages : List (Nat × Passage)

namespace Traffic

variable {σ : Type}

/-- Traffic before the first request. -/
def new (service : Service) (worker : Worker σ) : Traffic σ :=
  ⟨service, worker, 0, []⟩

/-- How far a request is, if it is under way. -/
def passage? (n : Nat) (traffic : Traffic σ) : Option Passage :=
  (traffic.passages.find? (·.1 == n)).map (·.2)

def move (n : Nat) (passage : Passage) (traffic : Traffic σ) : Traffic σ :=
  { traffic with passages := (n, passage) :: traffic.passages.filter (·.1 != n) }

/-- The number of requests whose response is not known yet. -/
def inFlight (traffic : Traffic σ) : Nat :=
  traffic.passages.countP fun (_, passage) =>
    match passage with
    | .submitting _ | .waiting _ => true
    | .answered _ => false

/-- Takes a request in and makes its job, with the cookies that there are now. -/
def arrive (incoming : Incoming) (traffic : Traffic σ) : Nat × Traffic σ :=
  let n := traffic.arrived
  let traffic := { traffic with arrived := n + 1 }
  match traffic.service.job incoming with
  | .error fault => (n, traffic.move n (.answered fault.response))
  | .ok job => (n, traffic.move n (.submitting job))

/-- Hands the job of a request over. Nothing happens while the queue is full. -/
def submit (n : Nat) (traffic : Traffic σ) : Traffic σ :=
  match traffic.passage? n with
  | some (.submitting job) =>
    match traffic.worker.offer job with
    | (.accepted ticket, worker) => { traffic with worker }.move n (.waiting ticket)
    | (.full, _) => traffic
    | (.refused fault, _) => traffic.move n (.answered fault.toBridge.response)
  | _ => traffic

def conclude (n : Nat) (reply : Except WorkerFault Reply) (traffic : Traffic σ) : Traffic σ :=
  match reply with
  | .error fault => traffic.move n (.answered fault.toBridge.response)
  | .ok reply =>
    let (response, service) := traffic.service.receive reply.bytes
    let traffic := { traffic with service }
    match response with
    | .error fault => traffic.move n (.answered fault.response)
    | .ok response => traffic.move n (.answered response)

/-- Makes the response of a request whose reply has come. -/
def finish (n : Nat) (traffic : Traffic σ) : Traffic σ :=
  match traffic.passage? n with
  | some (.waiting ticket) =>
    match traffic.worker.reply? ticket with
    | none => traffic
    | some reply => traffic.conclude n reply
  | _ => traffic

/-- The response of a request, once it is known. -/
def response? (n : Nat) (traffic : Traffic σ) : Option Response :=
  match traffic.passage? n with
  | some (.answered response) => some response
  | _ => none

variable [Interpreter σ]

/-- Lets the worker take an entry from its queue. -/
def work (host : Surroundings) (traffic : Traffic σ) : Traffic σ :=
  { traffic with worker := traffic.worker.step host }

/-- Lets the worker take all entries from its queue. -/
def workAll (host : Surroundings) (traffic : Traffic σ) : Traffic σ :=
  { traffic with worker := traffic.worker.drain host }

/-- Takes a request through all of its moves while nothing else is under way. -/
def handle (host : Surroundings) (incoming : Incoming) (traffic : Traffic σ) :
    Response × Traffic σ :=
  let (n, traffic) := (traffic.workAll host).arrive incoming
  let traffic := ((traffic.submit n).workAll host).finish n
  ((traffic.response? n).getD WorkerFault.droppedReply.toBridge.response, traffic)

end Traffic

end ScriptBridge
