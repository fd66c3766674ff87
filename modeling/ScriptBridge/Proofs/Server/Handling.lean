import ScriptBridge.Server.Traffic

/-! # Requests one after the other

A request that is alone goes through all of its moves at once: the bridge of the worker does its
job, and the service keeps the cookies of the answer. Nothing is left to do behind it.
-/

namespace ScriptBridge

namespace Worker

variable {σ : Type} {worker : Worker σ}

/-- A worker that waits for jobs, with no reply for a ticket that is still to be given. -/
structure Quiet (worker : Worker σ) : Prop where
  running : worker.phase = .running
  idle : worker.queue = []
  room : 0 < worker.depth
  fresh : ∀ reply ∈ worker.replies, reply.1 < worker.issued

theorem quiet_spawn (bridge : Bridge σ) (depth : Nat) : (spawn bridge depth).Quiet where
  running := rfl
  idle := rfl
  room := Nat.lt_of_lt_of_le Nat.one_pos (Nat.le_max_right depth 1)
  fresh _ member := absurd member List.not_mem_nil

/-- A worker with a first job in its queue. -/
def loaded (job : Job) (worker : Worker σ) : Worker σ :=
  { worker with queue := [.job worker.issued job], issued := worker.issued + 1 }

theorem Quiet.offer (quiet : worker.Quiet) (job : Job) :
    worker.offer job = (.accepted worker.issued, worker.loaded job) := by
  have room : worker.hasRoom = true := by simp [hasRoom, quiet.idle, quiet.room]
  simp [Worker.offer, quiet.running, room, quiet.idle, loaded]

variable [Interpreter σ]

theorem drain_of_idle (idle : worker.queue = []) (host : Surroundings) :
    worker.drain host = worker := by
  simp [drain, idle]

theorem Quiet.drain_loaded (quiet : worker.Quiet) {host : Surroundings} {job : Job}
    (whole : Interpreter.crashed (job.run host worker.bridge).2.interpreter = false) :
    let after := (worker.loaded job).drain host
    after.Quiet ∧ after.bridge = (job.run host worker.bridge).2 ∧
      after.reply? worker.issued = some (.ok (job.run host worker.bridge).1) := by
  intro after
  have done : after = { worker with
      queue := []
      issued := worker.issued + 1
      bridge := (job.run host worker.bridge).2
      replies := worker.replies ++ [(worker.issued, .ok (job.run host worker.bridge).1)] } := by
    simp [after, drain, loaded, step, quiet.running, perform, whole, answer]
  have absent : worker.replies.find? (·.1 == worker.issued) = none := by
    rw [List.find?_eq_none]
    intro entry member
    have earlier := quiet.fresh entry member
    simp only [beq_iff_eq]
    omega
  rw [done]
  refine ⟨⟨quiet.running, rfl, quiet.room, fun reply member => ?_⟩, rfl, ?_⟩
  · rcases List.mem_append.mp member with earlier | last
    · exact Nat.lt_succ_of_lt (quiet.fresh reply earlier)
    · obtain rfl := List.mem_singleton.mp last
      exact Nat.lt_succ_self _
  · simp [reply?, List.find?_append, absent]

end Worker

namespace Traffic

variable {σ : Type} {traffic : Traffic σ}

theorem passage?_move (n : Nat) (passage : Passage) (traffic : Traffic σ) :
    (traffic.move n passage).passage? n = some passage := by
  simp [passage?, move]

theorem passage?_move_of_ne {n m : Nat} (other : m ≠ n) (passage : Passage) (traffic : Traffic σ) :
    (traffic.move n passage).passage? m = traffic.passage? m := by
  have skip : (fun entry : Nat × Passage =>
      decide ((entry.1 != n) = true ∧ (entry.1 == m) = true)) = (·.1 == m) := by
    funext entry
    by_cases at_m : entry.1 = m
    · simp [at_m, other]
    · simp [at_m]
  have first : (n == m) = false := by simpa using Ne.symm other
  simp only [passage?, move, List.find?_cons, first, List.find?_filter, skip]

theorem arrive_spec (incoming : Incoming) (traffic : Traffic σ) :
    let arrived := traffic.arrive incoming
    arrived.2.worker = traffic.worker ∧ arrived.2.service = traffic.service ∧
      arrived.2.passage? arrived.1 = some (match traffic.service.job incoming with
        | .error fault => .answered fault.response
        | .ok job => .submitting job) := by
  cases made : traffic.service.job incoming with
  | error fault =>
      simp only [arrive, made]
      exact ⟨rfl, rfl, passage?_move _ _ _⟩
  | ok job =>
      simp only [arrive, made]
      exact ⟨rfl, rfl, passage?_move _ _ _⟩

theorem submit_of_answered {n : Nat} {response : Response}
    (passage : traffic.passage? n = some (.answered response)) : traffic.submit n = traffic := by
  simp only [submit, passage]

theorem submit_of_quiet (quiet : traffic.worker.Quiet) {n : Nat} {job : Job}
    (passage : traffic.passage? n = some (.submitting job)) :
    (traffic.submit n).worker = traffic.worker.loaded job ∧
      (traffic.submit n).service = traffic.service ∧
      (traffic.submit n).passage? n = some (.waiting traffic.worker.issued) := by
  simp only [submit, passage, quiet.offer]
  exact ⟨rfl, rfl, passage?_move _ _ _⟩

theorem finish_of_answered {n : Nat} {response : Response}
    (passage : traffic.passage? n = some (.answered response)) : traffic.finish n = traffic := by
  simp only [finish, passage]

theorem finish_of_reply {n ticket : Nat} {reply : Reply}
    (passage : traffic.passage? n = some (.waiting ticket))
    (replied : traffic.worker.reply? ticket = some (.ok reply)) :
    (traffic.finish n).worker = traffic.worker ∧
      (traffic.finish n).service = (traffic.service.receive reply.bytes).2 ∧
      (traffic.finish n).passage? n =
        some (.answered (match (traffic.service.receive reply.bytes).1 with
          | .error fault => fault.response
          | .ok response => response)) := by
  simp only [finish, passage, replied, conclude]
  cases (traffic.service.receive reply.bytes).1 with
  | error fault => exact ⟨rfl, rfl, passage?_move _ _ _⟩
  | ok response => exact ⟨rfl, rfl, passage?_move _ _ _⟩

variable [Interpreter σ]

theorem handle_of_error (quiet : traffic.worker.Quiet) (host : Surroundings) {incoming : Incoming}
    {fault : BridgeFault} (refused : traffic.service.job incoming = .error fault) :
    (traffic.handle host incoming).1 = fault.response ∧
      (traffic.handle host incoming).2.worker = traffic.worker ∧
      (traffic.handle host incoming).2.service = traffic.service := by
  obtain ⟨worker, service, passage⟩ := arrive_spec incoming traffic
  simp only [refused] at passage
  have idle : (traffic.arrive incoming).2.worker.queue = [] := by rw [worker, quiet.idle]
  have still : (traffic.arrive incoming).2.workAll host = (traffic.arrive incoming).2 := by
    rw [workAll, Worker.drain_of_idle idle]
  have start : traffic.workAll host = traffic := by rw [workAll, Worker.drain_of_idle quiet.idle]
  simp only [handle, start, submit_of_answered passage, still, finish_of_answered passage,
    response?, passage]
  exact ⟨rfl, worker, service⟩

/-- A request that makes a job has it done by the bridge, and the service receives the answer. -/
theorem handle_of_job (quiet : traffic.worker.Quiet) (host : Surroundings) {incoming : Incoming}
    {job : Job} (made : traffic.service.job incoming = .ok job)
    (whole : Interpreter.crashed (job.run host traffic.worker.bridge).2.interpreter = false) :
    let handled := traffic.handle host incoming
    let received := traffic.service.receive (job.run host traffic.worker.bridge).1.bytes
    handled.2.worker.Quiet ∧ handled.2.worker.bridge = (job.run host traffic.worker.bridge).2 ∧
      handled.2.service = received.2 ∧
      handled.1 = (match received.1 with
        | .error fault => fault.response
        | .ok response => response) := by
  intro handled received
  have start : traffic.workAll host = traffic := by rw [workAll, Worker.drain_of_idle quiet.idle]
  obtain ⟨worker, service, submitting⟩ := arrive_spec incoming traffic
  simp only [made] at submitting
  have arrived : (traffic.arrive incoming).2.worker.Quiet := by rwa [worker]
  obtain ⟨queued, kept, waiting⟩ := submit_of_quiet arrived submitting
  obtain ⟨again, done, replied⟩ := quiet.drain_loaded whole
  rw [worker] at queued waiting
  have worked : (((traffic.arrive incoming).2.submit (traffic.arrive incoming).1).workAll
      host).worker = (traffic.worker.loaded job).drain host := by rw [workAll, queued]
  have waits : (((traffic.arrive incoming).2.submit (traffic.arrive incoming).1).workAll
      host).passage? (traffic.arrive incoming).1 = some (.waiting traffic.worker.issued) := waiting
  obtain ⟨workers, services, answered⟩ := finish_of_reply waits (by rw [worked, replied])
  have same : (((traffic.arrive incoming).2.submit (traffic.arrive incoming).1).workAll
      host).service = traffic.service := kept.trans service
  rw [same] at services answered
  simp only [handled, handle, start, response?, answered]
  refine ⟨?_, ?_, services, rfl⟩
  · rwa [workers, worked]
  · rwa [workers, worked]

/-- The traffic after requests that were handled one after the other, each in its surroundings. -/
def handleAll (requests : List (Surroundings × Incoming)) (traffic : Traffic σ) : Traffic σ :=
  requests.foldl (fun traffic (host, incoming) => (traffic.handle host incoming).2) traffic

end Traffic

end ScriptBridge
