import ScriptBridge.Worker.Job

/-!
# Workers

A worker owns a bridge and does the jobs of any number of clients, one after the other, in the order
in which they came into its queue. A client that puts a job into the queue holds a ticket for the
reply.

The operations `offer`, `offerStop` and `step` are the atomic moves of clients and worker; `call`
and `join` are what a client sees that is alone with the worker.
-/

namespace ScriptBridge

/-- What waits in the queue of a worker. -/
inductive QueueEntry where
  | job (ticket : Nat) (job : Job)
  /-- The worker ends when it comes to this entry. -/
  | stop
  deriving Repr, DecidableEq

def QueueEntry.ticket? : QueueEntry → Option Nat
  | .job ticket _ => some ticket
  | .stop => none

/-- How far a worker is. -/
inductive WorkerPhase where
  | running
  | stopped
  | crashed
  deriving Repr, DecidableEq

/-- Why a client gets no reply. -/
inductive WorkerFault where
  /-- The job could not be handed over. -/
  | stopped
  /-- The job was handed over and never finished. -/
  | droppedReply
  deriving Repr, DecidableEq

def WorkerFault.toBridge : WorkerFault → BridgeFault
  | .stopped => .runtime "bridge worker stopped"
  | .droppedReply => .runtime "bridge worker dropped the reply"

/-- A bridge, the queue in front of it, and the replies that were given. -/
structure Worker (σ : Type) where
  bridge : Bridge σ
  phase : WorkerPhase
  depth : Nat
  queue : List QueueEntry
  issued : Nat
  /-- What was answered to each ticket, in the order of the answers. -/
  replies : List (Nat × Except WorkerFault Reply)

/-- What comes of offering a job. -/
inductive Offer where
  | accepted (ticket : Nat)
  /-- There is no room; the client has to offer the job again. -/
  | full
  | refused (fault : WorkerFault)
  deriving Repr, DecidableEq

namespace Worker

variable {σ : Type}

/-- A worker for a bridge. Its queue has room for one job at least. -/
def spawn (bridge : Bridge σ) (depth : Nat) : Worker σ where
  bridge
  phase := .running
  depth := max depth 1
  queue := []
  issued := 0
  replies := []

def hasRoom (worker : Worker σ) : Bool :=
  worker.queue.length < worker.depth

def offer (job : Job) (worker : Worker σ) : Offer × Worker σ :=
  if worker.phase ≠ .running then (.refused .stopped, worker)
  else if worker.hasRoom then
    (.accepted worker.issued,
      { worker with
        queue := worker.queue ++ [.job worker.issued job]
        issued := worker.issued + 1 })
  else (.full, worker)

/-- Puts the end of the work into the queue, if there is room for it. -/
def offerStop (worker : Worker σ) : Worker σ :=
  if worker.phase = .running ∧ worker.hasRoom then
    { worker with queue := worker.queue ++ [.stop] }
  else worker

def pending (worker : Worker σ) : List Nat :=
  worker.queue.filterMap QueueEntry.ticket?

def answer (ticket : Nat) (reply : Except WorkerFault Reply) (worker : Worker σ) : Worker σ :=
  { worker with replies := worker.replies ++ [(ticket, reply)] }

/-- Ends the work. Those whose jobs are left in the queue hear that there will be no reply. -/
def close (phase : WorkerPhase) (worker : Worker σ) : Worker σ :=
  let dropped := worker.pending.map fun ticket => (ticket, Except.error WorkerFault.droppedReply)
  { worker with phase, queue := [], replies := worker.replies ++ dropped }

variable [Interpreter σ]

/-- Does a job that was taken from the queue. -/
def perform (host : Surroundings) (ticket : Nat) (job : Job) (worker : Worker σ) : Worker σ :=
  let (reply, bridge) := job.run host worker.bridge
  let worker := { worker with bridge }
  if Interpreter.crashed bridge.interpreter then
    (worker.answer ticket (.error .droppedReply)).close .crashed
  else worker.answer ticket (.ok reply)

/-- Takes the first entry from the queue and does what it says. The bridge is shut down at the end
    of the work. -/
def step (host : Surroundings) (worker : Worker σ) : Worker σ :=
  match worker.phase, worker.queue with
  | .running, .job ticket job :: queue => { worker with queue }.perform host ticket job
  | .running, .stop :: queue =>
    { worker with queue, bridge := worker.bridge.shutdown }.close .stopped
  | _, _ => worker

def reply? (ticket : Nat) (worker : Worker σ) : Option (Except WorkerFault Reply) :=
  (worker.replies.find? (·.1 == ticket)).map (·.2)

def drain (host : Surroundings) (worker : Worker σ) : Worker σ :=
  worker.queue.foldl (fun worker _ => worker.step host) worker

/-- Gives a job to a worker that nobody else uses, and waits for the reply. -/
def call (host : Surroundings) (job : Job) (worker : Worker σ) :
    Except WorkerFault Reply × Worker σ :=
  match (worker.drain host).offer job with
  | (.accepted ticket, worker) =>
    let worker := worker.drain host
    ((worker.reply? ticket).getD (.error .droppedReply), worker)
  | (.full, worker) => (.error .stopped, worker)
  | (.refused fault, worker) => (.error fault, worker)

/-- Lets a worker do what is left in its queue, stops it, and says how it ended. -/
def join (host : Surroundings) (worker : Worker σ) : Except BridgeFault Unit × Worker σ :=
  let worker := (worker.drain host).offerStop.drain host
  match worker.phase with
  | .crashed => (.error (.runtime "Bridge thread panicked"), worker)
  | .running | .stopped => (.ok (), worker)

end Worker

end ScriptBridge
