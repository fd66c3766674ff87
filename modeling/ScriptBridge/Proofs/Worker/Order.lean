import ScriptBridge.Proofs.Worker.Workplace

/-! # Jobs are done in order

Whatever the moves of clients and worker are, the jobs are done as they came into the queue, each as
a whole: the operations of the bridge are those of one job after the other, and behind them some of
the next one. The replies are those that the jobs give when they are run one after the other, and
behind them come the errors of those that are never done.
-/

namespace ScriptBridge

open Bridge (Operation Answer)

namespace Deed

variable {σ : Type} [Interpreter σ]

/-- The bridge behind jobs that were done one after the other. -/
def runAll (deeds : List Deed) (bridge : Bridge σ) : Bridge σ :=
  deeds.foldl (fun bridge deed => (deed.job.run deed.host bridge).2) bridge

/-- The replies of jobs that are run one after the other. -/
def replies : List Deed → Bridge σ → List (Nat × Except WorkerFault Reply)
  | [], _ => []
  | deed :: deeds, bridge =>
    (deed.ticket, .ok (deed.job.run deed.host bridge).1) ::
      replies deeds (deed.job.run deed.host bridge).2

theorem runAll_concat (deeds : List Deed) (deed : Deed) (bridge : Bridge σ) :
    runAll (deeds ++ [deed]) bridge = (deed.job.run deed.host (runAll deeds bridge)).2 := by
  simp [runAll]

theorem replies_concat (deeds : List Deed) (deed : Deed) (bridge : Bridge σ) :
    replies (deeds ++ [deed]) bridge = replies deeds bridge ++
      [(deed.ticket, .ok (deed.job.run deed.host (runAll deeds bridge)).1)] := by
  induction deeds generalizing bridge with
  | nil => rfl
  | cons first deeds ih => exact congrArg _ (ih _)

end Deed

/-- How a worker has ended its work if an entry was its last one. -/
def QueueEntry.ending : QueueEntry → WorkerPhase
  | .job _ _ => .crashed
  | .stop => .stopped

theorem QueueEntry.ending_ne_running (entry : QueueEntry) : entry.ending ≠ .running := by
  cases entry <;> simp [ending]

namespace Workplace

variable {σ : Type}

/-- Where a worker stands: with `rest` the entries of its queue that it is not through with, and
    `begun` the operations of the first of them that were performed. -/
inductive Stands [Interpreter σ] (before : Bridge σ) (rest : List QueueEntry)
    (begun : List (Surroundings × Operation)) (place : Workplace σ) : Prop where
  | free (running : place.worker.phase = .running) (none : place.underway = none)
      (queue : rest = place.worker.queue) (fresh : begun = [])
  | at_work (underway : Underway) (running : place.worker.phase = .running)
      (some : place.underway = some underway)
      (queue : rest = underway.entry :: place.worker.queue)
      (operations : begun.map (·.2) ++ underway.left = underway.entry.operations)
      (heard : ∀ front step, begun = front ++ [step] → step.1 = underway.host ∧
        underway.answer = ((before.performAll front).perform step.1 step.2).1)
  | gone (entry : QueueEntry) (ended : place.worker.phase = entry.ending)
      (none : place.underway = none) (queue : place.worker.queue = [])
      (first : rest.head? = some entry) (operations : begun.map (·.2) = entry.operations)
      (crash : entry ≠ .stop → Interpreter.crashed place.worker.bridge.interpreter = true)

/-- The tickets of entries that will not be done any more. -/
def dropped (rest : List QueueEntry) (place : Workplace σ) : List Nat :=
  if place.worker.phase = .running then [] else rest.filterMap QueueEntry.ticket?

/-- What holds of a workplace that a worker over some bridge was started in. -/
structure Orderly [Interpreter σ] (initial : Bridge σ) (rest : List QueueEntry)
    (begun : List (Surroundings × Operation)) (place : Workplace σ) : Prop where
  accepted : place.accepted = place.done.map Deed.entry ++ rest
  performed : place.performed.map (·.2) =
    place.done.flatMap (·.job.operations) ++ begun.map (·.2)
  history : place.worker.bridge = initial.performAll place.performed
  bridge : place.worker.bridge = (Deed.runAll place.done initial).performAll begun
  replies : place.worker.replies = Deed.replies place.done initial ++
    (place.dropped rest).map fun ticket => (ticket, .error .droppedReply)
  issued : place.accepted.filterMap QueueEntry.ticket? = List.range place.worker.issued
  stands : place.Stands (Deed.runAll place.done initial) rest begun

variable [Interpreter σ] {initial : Bridge σ} {rest : List QueueEntry}
  {begun : List (Surroundings × Operation)} {place : Workplace σ}

namespace Orderly

theorem of_clients (orderly : place.Orderly initial rest begun) (clients : List Client) :
    Orderly initial rest begun { place with clients } :=
  ⟨orderly.accepted, orderly.performed, orderly.history, orderly.bridge, orderly.replies,
    orderly.issued, by
      cases orderly.stands with
      | free running none queue fresh => exact .free running none queue fresh
      | at_work underway running some queue operations heard =>
          exact .at_work underway running some queue operations heard
      | gone entry ended none queue first operations crash =>
          exact .gone entry ended none queue first operations crash⟩

theorem of_enqueue (orderly : place.Orderly initial rest begun)
    (running : place.worker.phase = .running) (entry : QueueEntry) (clients : List Client)
    {issued : Nat} (tickets : List.range place.worker.issued ++ entry.ticket?.toList =
      List.range issued) :
    Orderly initial (rest ++ [entry]) begun { place with
      worker := { place.worker with queue := place.worker.queue ++ [entry], issued }
      clients
      accepted := place.accepted ++ [entry] } := by
  constructor
  · simp [orderly.accepted]
  · exact orderly.performed
  · exact orderly.history
  · exact orderly.bridge
  · have replies := orderly.replies
    simp only [dropped, running, if_true] at replies ⊢
    exact replies
  · rw [← tickets, ← orderly.issued]
    cases entry <;> simp [QueueEntry.ticket?]
  · cases orderly.stands with
    | free running none queue fresh => exact .free running none (by rw [queue]) fresh
    | at_work underway running some queue operations heard =>
        exact .at_work underway running some (by rw [queue]; rfl) operations heard
    | gone entry ended => exact absurd (ended.symm.trans running) entry.ending_ne_running

theorem press (orderly : place.Orderly initial rest begun) (n : Nat) :
    ∃ further, Orderly initial (rest ++ further) begun (place.press n) := by
  have same : Orderly initial (rest ++ []) begun place := by rwa [List.append_nil]
  have pressed := place.pressed_press n
  generalize place.press n = after at pressed ⊢
  cases pressed with
  | idle => exact ⟨[], same⟩
  | refused => exact ⟨[], same.of_clients _⟩
  | accepted job found running =>
      exact ⟨_, orderly.of_enqueue running _ _ List.range_succ.symm⟩
  | answered => exact ⟨[], same.of_clients _⟩
  | late => exact ⟨[], same.of_clients _⟩
  | stopping found running => exact ⟨_, orderly.of_enqueue running .stop _ (List.append_nil _)⟩

theorem leave (orderly : place.Orderly initial rest begun) (n : Nat) :
    Orderly initial rest begun (place.leave n) := by
  simp only [Workplace.leave]
  split
  · exact orderly.of_clients _
  · exact orderly.of_clients _
  · exact orderly.of_clients _
  · exact orderly

theorem abandon (orderly : place.Orderly initial rest begun) :
    ∃ further, Orderly initial (rest ++ further) begun place.abandon := by
  rcases place.abandon_cases with same | ⟨running, ended⟩
  · exact ⟨[], by rwa [same, List.append_nil]⟩
  · rw [ended]
    exact ⟨_, orderly.of_enqueue running .stop _ (List.append_nil _)⟩

theorem take (orderly : place.Orderly initial rest begun) (running : place.worker.phase = .running)
    (free : place.underway = none) {entry : QueueEntry} {queue : List QueueEntry}
    (first : place.worker.queue = entry :: queue) (host : Surroundings) :
    Orderly initial rest begun { place with
      worker := { place.worker with queue }
      underway := some ⟨entry, host, entry.operations, .nothing⟩ } := by
  refine ⟨orderly.accepted, orderly.performed, orderly.history, orderly.bridge, orderly.replies,
    orderly.issued, ?_⟩
  cases orderly.stands with
  | free _ _ same fresh =>
      subst fresh
      exact .at_work _ running rfl (by rw [same, first]) rfl fun front step eq => by simp at eq
  | at_work underway _ some => exact absurd (free.symm.trans some) (by simp)
  | gone entry ended => exact absurd (ended.symm.trans running) entry.ending_ne_running

theorem advance (orderly : place.Orderly initial rest begun)
    (running : place.worker.phase = .running) {underway : Underway}
    (some : place.underway = some underway) {operation : Operation} {left : List Operation}
    (next : underway.left = operation :: left) (host : Surroundings) :
    Orderly initial rest (begun ++ [(host, operation)])
      (place.advance host underway operation left) := by
  have history : (place.worker.bridge.perform host operation).2 =
      initial.performAll (place.performed ++ [(host, operation)]) := by
    rw [Bridge.performAll_append, ← orderly.history]
    rfl
  have bridge : (place.worker.bridge.perform host operation).2 =
      (Deed.runAll place.done initial).performAll (begun ++ [(host, operation)]) := by
    rw [Bridge.performAll_append, ← orderly.bridge]
    rfl
  refine ⟨orderly.accepted, ?_, history, bridge, orderly.replies, orderly.issued, ?_⟩
  · simp [Workplace.advance, orderly.performed]
  · cases orderly.stands with
    | free _ none => exact absurd (none.symm.trans some) (by simp)
    | gone entry ended => exact absurd (ended.symm.trans running) entry.ending_ne_running
    | at_work other _ same queue operations heard =>
        obtain rfl : underway = other := Option.some.inj (some.symm.trans same)
        refine .at_work _ running rfl queue ?_ fun front step eq => ?_
        · rw [← operations, next]
          simp
        · obtain ⟨rfl, last⟩ := List.append_inj' eq rfl
          obtain rfl := List.singleton_inj.mp last
          exact ⟨rfl, congrArg (fun bridge => (bridge.perform host operation).1) orderly.bridge⟩

/-- A worker that is through with an entry has performed its operations, and heard what the last of
    them answered. -/
theorem through (orderly : place.Orderly initial rest begun)
    (running : place.worker.phase = .running) {underway : Underway}
    (busy : place.underway = some underway) (through : underway.left = []) :
    rest = underway.entry :: place.worker.queue ∧
      begun.map (·.2) = underway.entry.operations ∧
      place.worker.replies = Deed.replies place.done initial ∧
      ∀ front step, begun = front ++ [step] → step.1 = underway.host ∧ underway.answer =
        (((Deed.runAll place.done initial).performAll front).perform step.1 step.2).1 := by
  have replies := orderly.replies
  rw [dropped, if_pos running, List.map_nil, List.append_nil] at replies
  cases orderly.stands with
  | free _ none => exact absurd (none.symm.trans busy) (by simp)
  | gone entry ended => exact absurd (ended.symm.trans running) entry.ending_ne_running
  | at_work other _ same queue operations heard =>
      obtain rfl : underway = other := Option.some.inj (busy.symm.trans same)
      rw [through, List.append_nil] at operations
      exact ⟨queue, operations, replies, heard⟩

theorem close (orderly : place.Orderly initial rest begun) {entry : QueueEntry}
    (queue : rest = entry :: place.worker.queue) (operations : begun.map (·.2) = entry.operations)
    (crash : entry ≠ .stop → Interpreter.crashed place.worker.bridge.interpreter = true)
    {worker : Worker σ} (bridge : worker.bridge = place.worker.bridge)
    (issued : worker.issued = place.worker.issued) (phase : worker.phase = entry.ending)
    (empty : worker.queue = [])
    (replies : worker.replies = Deed.replies place.done initial ++
      (rest.filterMap QueueEntry.ticket?).map fun ticket => (ticket, .error .droppedReply)) :
    Orderly initial rest begun { place with worker, underway := none } where
  accepted := orderly.accepted
  performed := orderly.performed
  history := bridge.trans orderly.history
  bridge := bridge.trans orderly.bridge
  replies := by
    rw [dropped, if_neg (phase ▸ entry.ending_ne_running)]
    exact replies
  issued := orderly.issued.trans (congrArg List.range issued.symm)
  stands := .gone entry phase rfl empty (by rw [queue]; rfl) operations fun job =>
    (congrArg (fun bridge => Interpreter.crashed bridge.interpreter) bridge).trans (crash job)

theorem reply (orderly : place.Orderly initial rest begun) (running : place.worker.phase = .running)
    {underway : Underway} (busy : place.underway = some underway) (through : underway.left = [])
    {ticket : Nat} {job : Job} (entry : underway.entry = .job ticket job) :
    Orderly initial place.worker.queue [] { place with
      worker := place.worker.answer ticket (.ok (.ofAnswer underway.answer))
      underway := none
      done := place.done ++ [⟨ticket, job, underway.host⟩] } := by
  obtain ⟨queue, operations, replies, heard⟩ := orderly.through running busy through
  rw [entry] at queue operations
  obtain ⟨front, step, last⟩ : ∃ front step, begun = front ++ [step] := by
    rcases begun.eq_nil_or_concat with rfl | ⟨front, step, eq⟩
    · cases job <;> simp [QueueEntry.operations, Job.operations] at operations
    · exact ⟨front, step, by simpa using eq⟩
  obtain ⟨host, answer⟩ := heard front step last
  obtain ⟨around, operation⟩ := step
  subst last
  have run := Job.run_eq_performAll operations (Deed.runAll place.done initial)
  simp only at host answer
  rw [← answer, host] at run
  have bridge : place.worker.bridge =
      (job.run underway.host (Deed.runAll place.done initial)).2 := by
    rw [run, orderly.bridge, ← host]
  refine ⟨?_, ?_, orderly.history, ?_, ?_, orderly.issued, .free running rfl rfl rfl⟩
  · simp [orderly.accepted, queue, Deed.entry]
  · have performed := orderly.performed
    rw [operations] at performed
    simpa [QueueEntry.operations] using performed
  · rw [Deed.runAll_concat]
    exact bridge
  · rw [Deed.replies_concat, run]
    simp [Worker.answer, dropped, running, replies]

theorem work (orderly : place.Orderly initial rest begun) (host : Surroundings) :
    ∃ rest begun, Orderly initial rest begun (place.work host) := by
  have worked := place.worked_work host
  generalize place.work host = after at worked ⊢
  cases worked with
  | ended | idle => exact ⟨rest, begun, orderly⟩
  | taken running free entry queue first => exact ⟨rest, begun, orderly.take running free first host⟩
  | advanced running underway busy operation left next =>
      exact ⟨rest, _, orderly.advance running busy next host⟩
  | stopped running underway busy through entry =>
      obtain ⟨queue, operations, replies, -⟩ := orderly.through running busy through
      rw [entry] at queue operations
      refine ⟨rest, begun, orderly.close queue operations (absurd rfl) rfl rfl rfl rfl ?_⟩
      rw [queue]
      simp [Worker.close, Worker.pending, replies, List.filterMap_cons, QueueEntry.ticket?]
  | crashed running underway busy through ticket job entry crash =>
      obtain ⟨queue, operations, replies, -⟩ := orderly.through running busy through
      rw [entry] at queue operations
      refine ⟨rest, begun, orderly.close queue operations (fun _ => crash) rfl rfl rfl rfl ?_⟩
      rw [queue]
      simp [Worker.close, Worker.pending, Worker.answer, replies, QueueEntry.ticket?]
  | done running underway busy through ticket job entry =>
      exact ⟨_, _, orderly.reply running busy through entry⟩

theorem move (orderly : place.Orderly initial rest begun) (move : Move) :
    ∃ rest begun, Orderly initial rest begun (place.move move) := by
  cases move with
  | call job => exact ⟨rest, begun, orderly.of_clients _⟩
  | join => exact ⟨rest, begun, orderly.of_clients _⟩
  | press n =>
      obtain ⟨further, pressed⟩ := orderly.press n
      exact ⟨_, _, pressed⟩
  | leave n => exact ⟨rest, begun, orderly.leave n⟩
  | abandon =>
      obtain ⟨further, abandoned⟩ := orderly.abandon
      exact ⟨_, _, abandoned⟩
  | work host => exact orderly.work host

theorem run (orderly : place.Orderly initial rest begun) (moves : List Move) :
    ∃ rest begun, Orderly initial rest begun (place.run moves) := by
  induction moves generalizing place rest begun with
  | nil => exact ⟨rest, begun, orderly⟩
  | cons move moves ih =>
      obtain ⟨rest, begun, moved⟩ := orderly.move move
      exact ih moved

end Orderly

end Workplace

end ScriptBridge
