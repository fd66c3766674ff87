import ScriptBridge.Bridge.Operation
import ScriptBridge.Worker.Basic

/-! # A worker among its clients

What clients and worker do, taken apart into moves that anything can come between. A client calls,
presses for its job to be taken and for the reply, and may leave; a worker takes an entry of its
queue, performs the operations of the entry one by one, and gives the reply. A join is one more
client, with the end of the work in its hands. The work also ends when nobody is left who could hand
anything over.

A workplace keeps books on what came into the queue, on the jobs that were done and on the operations
of the bridge. The moves do not read them.
-/

namespace ScriptBridge

open Bridge (Operation Answer)

/-- What a job does with a bridge, one after the other. -/
def Job.operations : Job → List Operation
  | .answer headers request script => [.exportHeaders headers, .runOnce request script]
  | .command line publicDir => [.runCommand line publicDir]
  | .setVariable name value overwrite => [.setVariable name value overwrite]
  | .shutdown => [.shutdown]

def QueueEntry.operations : QueueEntry → List Operation
  | .job _ given => given.operations
  | .stop => [.shutdown]

/-- The reply that the answer to the last operation of a job makes. -/
def Reply.ofAnswer : Answer → Reply
  | .bytes bytes => .output bytes
  | .outcome result => .outcome result
  | .fault _ | .done | .nothing => .done

section

variable {σ : Type} [Interpreter σ]

theorem Bridge.performAll_append (history further : List (Surroundings × Operation))
    (bridge : Bridge σ) :
    bridge.performAll (history ++ further) = (bridge.performAll history).performAll further :=
  List.foldl_append

/-- A job comes to its operations, and its reply to the answer of the last of them; what surrounds
    the others makes no difference. -/
theorem Job.run_eq_performAll {job : Job} {front : List (Surroundings × Operation)}
    {host : Surroundings} {last : Operation}
    (operations : (front ++ [(host, last)]).map (·.2) = job.operations) (bridge : Bridge σ) :
    job.run host bridge = (.ofAnswer ((bridge.performAll front).perform host last).1,
      bridge.performAll (front ++ [(host, last)])) := by
  rw [Bridge.performAll_append]
  cases job with
  | answer headers request script =>
      rcases front with - | ⟨⟨other, first⟩, - | ⟨_, _⟩⟩
      · simp [Job.operations] at operations
      · obtain ⟨rfl, rfl⟩ : first = .exportHeaders headers ∧ last = .runOnce request script := by
          simpa [Job.operations] using operations
        rfl
      · simp [Job.operations] at operations
  | command line publicDir =>
      obtain ⟨rfl, rfl⟩ : front = [] ∧ last = .runCommand line publicDir := by
        simpa [Job.operations, List.append_eq_singleton_iff] using operations
      rfl
  | setVariable name value overwrite =>
      obtain ⟨rfl, rfl⟩ : front = [] ∧ last = .setVariable name value overwrite := by
        simpa [Job.operations, List.append_eq_singleton_iff] using operations
      rfl
  | shutdown =>
      obtain ⟨rfl, rfl⟩ : front = [] ∧ last = .shutdown := by
        simpa [Job.operations, List.append_eq_singleton_iff] using operations
      rfl

end

/-- How far a client is that wants a job done, or that wants the work to end. -/
inductive Client where
  | offering (job : Job)
  | waiting (ticket : Nat) (job : Job)
  | answered (ticket : Nat) (job : Job) (reply : Except WorkerFault Reply)
  | refused (job : Job) (fault : WorkerFault)
  /-- The client waits no longer, whether its job was taken or not. -/
  | left (ticket : Option Nat) (job : Job)
  | joining
  | joined

/-- The ticket of a client whose job was taken, and the job. -/
def Client.claim? : Client → Option (Nat × Job)
  | .waiting ticket job | .answered ticket job _ | .left (some ticket) job => some (ticket, job)
  | .offering _ | .refused _ _ | .left none _ | .joining | .joined => none

/-- Whether a client still has something to hand over or to wait for, and so keeps the queue open. -/
def Client.holds : Client → Bool
  | .offering _ | .waiting _ _ | .joining => true
  | .answered _ _ _ | .refused _ _ | .left _ _ | .joined => false

/-- What the worker is at: an entry of its queue, what surrounded it at its last move, the
    operations that are still to come, and the answer to the last one. -/
structure Underway where
  entry : QueueEntry
  host : Surroundings
  left : List Operation
  answer : Answer

/-- A job that was done, and what surrounded the last of its operations. -/
structure Deed where
  ticket : Nat
  job : Job
  host : Surroundings

def Deed.entry (deed : Deed) : QueueEntry :=
  .job deed.ticket deed.job

/-- A worker, what it is at, and its clients. -/
structure Workplace (σ : Type) where
  worker : Worker σ
  underway : Option Underway
  clients : List Client
  /-- What came into the queue, in order. -/
  accepted : List QueueEntry
  done : List Deed
  performed : List (Surroundings × Operation)

namespace Workplace

variable {σ : Type}

def start (bridge : Bridge σ) (depth : Nat) : Workplace σ where
  worker := .spawn bridge depth
  underway := none
  clients := []
  accepted := []
  done := []
  performed := []

/-- A client tries to go on: to hand its job over, or to take its reply. -/
def press (n : Nat) (place : Workplace σ) : Workplace σ :=
  match place.clients[n]? with
  | some (.offering job) =>
    match place.worker.offer job with
    | (.accepted ticket, worker) => { place with
        worker
        clients := place.clients.set n (.waiting ticket job)
        accepted := place.accepted ++ [.job ticket job] }
    | (.full, _) => place
    | (.refused fault, _) => { place with clients := place.clients.set n (.refused job fault) }
  | some (.waiting ticket job) =>
    match place.worker.reply? ticket with
    | some reply => { place with clients := place.clients.set n (.answered ticket job reply) }
    | none => place
  | some .joining =>
    if place.worker.phase ≠ .running then { place with clients := place.clients.set n .joined }
    else if place.worker.hasRoom then { place with
      worker := place.worker.offerStop
      clients := place.clients.set n .joined
      accepted := place.accepted ++ [.stop] }
    else place
  | _ => place

/-- A client does not wait any longer. -/
def leave (n : Nat) (place : Workplace σ) : Workplace σ :=
  match place.clients[n]? with
  | some (.offering job) => { place with clients := place.clients.set n (.left none job) }
  | some (.waiting ticket job) =>
    { place with clients := place.clients.set n (.left (some ticket) job) }
  | some .joining => { place with clients := place.clients.set n .joined }
  | _ => place

/-- The last handle of the worker is dropped. The worker does what is in its queue and then ends its
    work, as if the end had come in behind all others; but this needs no room. Whoever calls all the
    same comes behind that end, where nothing is done. -/
def abandon (place : Workplace σ) : Workplace σ :=
  if place.worker.phase = .running ∧ place.clients.all (!·.holds) then { place with
    worker := { place.worker with queue := place.worker.queue ++ [.stop] }
    accepted := place.accepted ++ [.stop] }
  else place

variable [Interpreter σ]

/-- The worker takes the first entry of its queue, if there is one. -/
def take (host : Surroundings) (place : Workplace σ) : Workplace σ :=
  match place.worker.queue with
  | [] => place
  | entry :: queue => { place with
      worker := { place.worker with queue }
      underway := some ⟨entry, host, entry.operations, .nothing⟩ }

/-- The worker performs an operation of what it is at. -/
def advance (host : Surroundings) (underway : Underway) (operation : Operation)
    (left : List Operation) (place : Workplace σ) : Workplace σ :=
  let (answer, bridge) := place.worker.bridge.perform host operation
  { place with
    worker := { place.worker with bridge }
    underway := some { underway with host, left, answer }
    performed := place.performed ++ [(host, operation)] }

/-- The worker is through with what it was at. If it was a job it gives the reply, unless the
    interpreter took the thread down with it. If it was the end of the work it leaves. -/
def conclude (underway : Underway) (place : Workplace σ) : Workplace σ :=
  match underway.entry with
  | .stop => { place with worker := place.worker.close .stopped, underway := none }
  | .job ticket job =>
    if Interpreter.crashed place.worker.bridge.interpreter then { place with
      worker := (place.worker.answer ticket (.error .droppedReply)).close .crashed
      underway := none }
    else { place with
      worker := place.worker.answer ticket (.ok (.ofAnswer underway.answer))
      underway := none
      done := place.done ++ [⟨ticket, job, underway.host⟩] }

/-- The worker makes its next move, if it has not left. -/
def work (host : Surroundings) (place : Workplace σ) : Workplace σ :=
  if place.worker.phase ≠ .running then place
  else
    match place.underway with
    | none => place.take host
    | some underway =>
      match underway.left with
      | operation :: left => place.advance host underway operation left
      | [] => place.conclude underway

/-- A move of a client, by its number, or of the worker. -/
inductive Move where
  | call (job : Job)
  | join
  | press (n : Nat)
  | leave (n : Nat)
  | abandon
  | work (host : Surroundings)

def move (place : Workplace σ) : Move → Workplace σ
  | .call job => { place with clients := place.clients ++ [.offering job] }
  | .join => { place with clients := place.clients ++ [.joining] }
  | .press n => place.press n
  | .leave n => place.leave n
  | .abandon => place.abandon
  | .work host => place.work host

def run (moves : List Move) (place : Workplace σ) : Workplace σ :=
  moves.foldl move place

/-- What a client that presses comes to. -/
inductive Pressed (n : Nat) (place : Workplace σ) : Workplace σ → Prop where
  | idle : Pressed n place place
  | refused (job : Job) (found : place.clients[n]? = some (.offering job))
      (ended : place.worker.phase ≠ .running) :
      Pressed n place { place with clients := place.clients.set n (.refused job .stopped) }
  | accepted (job : Job) (found : place.clients[n]? = some (.offering job))
      (running : place.worker.phase = .running) :
      Pressed n place { place with
        worker := { place.worker with
          queue := place.worker.queue ++ [.job place.worker.issued job]
          issued := place.worker.issued + 1 }
        clients := place.clients.set n (.waiting place.worker.issued job)
        accepted := place.accepted ++ [.job place.worker.issued job] }
  | answered (ticket : Nat) (job : Job) (reply : Except WorkerFault Reply)
      (found : place.clients[n]? = some (.waiting ticket job))
      (heard : place.worker.reply? ticket = some reply) :
      Pressed n place { place with clients := place.clients.set n (.answered ticket job reply) }
  | late (found : place.clients[n]? = some .joining) (ended : place.worker.phase ≠ .running) :
      Pressed n place { place with clients := place.clients.set n .joined }
  | stopping (found : place.clients[n]? = some .joining)
      (running : place.worker.phase = .running) :
      Pressed n place { place with
        worker := { place.worker with queue := place.worker.queue ++ [.stop] }
        clients := place.clients.set n .joined
        accepted := place.accepted ++ [.stop] }

omit [Interpreter σ] in
theorem pressed_press (n : Nat) (place : Workplace σ) : Pressed n place (place.press n) := by
  simp only [press]
  split
  · next job found =>
      by_cases running : place.worker.phase = .running
      · by_cases room : place.worker.hasRoom = true
        · simpa [Worker.offer, running, room] using Pressed.accepted job found running
        · simpa [Worker.offer, running, room] using Pressed.idle
      · simpa [Worker.offer, running] using Pressed.refused job found running
  · next ticket job found =>
      split
      · next reply heard => exact .answered ticket job reply found heard
      · exact .idle
  · next found =>
      by_cases running : place.worker.phase = .running
      · by_cases room : place.worker.hasRoom = true
        · simpa [Worker.offerStop, running, room] using Pressed.stopping found running
        · simpa [running, room] using Pressed.idle
      · simpa [running] using Pressed.late found running
  · exact .idle

omit [Interpreter σ] in
theorem abandon_cases (place : Workplace σ) : place.abandon = place ∨
    place.worker.phase = .running ∧ place.abandon = { place with
      worker := { place.worker with queue := place.worker.queue ++ [.stop] }
      accepted := place.accepted ++ [.stop] } := by
  rw [abandon]
  split
  · next last => exact Or.inr ⟨last.1, rfl⟩
  · exact Or.inl rfl

/-- What a move of the worker comes to. -/
inductive Worked (host : Surroundings) (place : Workplace σ) : Workplace σ → Prop where
  | ended (ended : place.worker.phase ≠ .running) : Worked host place place
  | idle (running : place.worker.phase = .running) (free : place.underway = none)
      (empty : place.worker.queue = []) : Worked host place place
  | taken (running : place.worker.phase = .running) (free : place.underway = none)
      (entry : QueueEntry) (queue : List QueueEntry)
      (first : place.worker.queue = entry :: queue) :
      Worked host place { place with
        worker := { place.worker with queue }
        underway := some ⟨entry, host, entry.operations, .nothing⟩ }
  | advanced (running : place.worker.phase = .running) (underway : Underway)
      (busy : place.underway = some underway) (operation : Operation) (left : List Operation)
      (next : underway.left = operation :: left) :
      Worked host place (place.advance host underway operation left)
  | stopped (running : place.worker.phase = .running) (underway : Underway)
      (busy : place.underway = some underway) (through : underway.left = [])
      (entry : underway.entry = .stop) :
      Worked host place { place with worker := place.worker.close .stopped, underway := none }
  | crashed (running : place.worker.phase = .running) (underway : Underway)
      (busy : place.underway = some underway) (through : underway.left = []) (ticket : Nat)
      (job : Job) (entry : underway.entry = .job ticket job)
      (crash : Interpreter.crashed place.worker.bridge.interpreter = true) :
      Worked host place { place with
        worker := (place.worker.answer ticket (.error .droppedReply)).close .crashed
        underway := none }
  | done (running : place.worker.phase = .running) (underway : Underway)
      (busy : place.underway = some underway) (through : underway.left = []) (ticket : Nat)
      (job : Job) (entry : underway.entry = .job ticket job) :
      Worked host place { place with
        worker := place.worker.answer ticket (.ok (.ofAnswer underway.answer))
        underway := none
        done := place.done ++ [⟨ticket, job, underway.host⟩] }

theorem worked_work (host : Surroundings) (place : Workplace σ) :
    Worked host place (place.work host) := by
  simp only [work]
  split
  · next ended => exact .ended ended
  · next running =>
      have running := Decidable.not_not.mp running
      split
      · next free =>
          simp only [take]
          split
          · next empty => exact .idle running free empty
          · next entry queue first => exact .taken running free entry queue first
      · next underway busy =>
          split
          · next operation left next => exact .advanced running underway busy operation left next
          · next through =>
              simp only [conclude]
              split
              · next entry => exact .stopped running underway busy through entry
              · next ticket job entry =>
                  split
                  · next crash =>
                      exact .crashed running underway busy through ticket job entry crash
                  · exact .done running underway busy through ticket job entry

/-- When nothing comes between, the moves of the worker come to one step: it does its job as a
    whole, or ends its work. -/
theorem worker_run_works {place : Workplace σ} (running : place.worker.phase = .running)
    (free : place.underway = none) {entry : QueueEntry} {queue : List QueueEntry}
    (first : place.worker.queue = entry :: queue) (host : Surroundings) :
    (place.run (List.replicate (entry.operations.length + 2) (.work host))).worker =
      place.worker.step host := by
  cases entry with
  | stop =>
      simp [run, move, work, running, free, first, take, QueueEntry.operations, advance, conclude,
        Bridge.perform, Worker.step, Worker.close, Worker.pending]
  | job ticket job =>
      cases job <;>
      simp [run, move, work, running, free, first, take, QueueEntry.operations, Job.operations,
        advance, conclude, Bridge.perform, Worker.step, Worker.perform, Job.run, Reply.ofAnswer] <;>
      split <;> rfl

end Workplace

end ScriptBridge
