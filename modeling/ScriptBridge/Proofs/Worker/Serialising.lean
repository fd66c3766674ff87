import ScriptBridge.Proofs.Worker.Clients
import ScriptBridge.Proofs.Worker.Progress

/-! # A worker serialises

Any number of clients hand jobs to a worker, in any order of their moves and of its own, and the end
of the work comes into the queue at any time. What comes of it is what comes of the jobs in front of
the end, when they are run one after the other in the order of the queue; and each client hears of
its own job once.
-/

namespace ScriptBridge

open Bridge (Operation)

variable {σ : Type} [Interpreter σ]

namespace Workplace

/-- What there is to hear of the entry at a place of the queue: of a job that was done, what it
    replies when it is run behind the jobs before it; of one that will not be done, an error. -/
def verdict (initial : Bridge σ) (i : Nat) (place : Workplace σ) :
    List (Except WorkerFault Reply) :=
  match place.done[i]? with
  | some deed => [.ok (deed.job.run deed.host (Deed.runAll (place.done.take i) initial)).1]
  | none => if place.worker.phase = .running then [] else [.error .droppedReply]

/-- The entries that the worker is not through with. -/
def pending (place : Workplace σ) : List QueueEntry :=
  place.accepted.drop place.done.length

variable {initial : Bridge σ} {rest : List QueueEntry}
  {begun : List (Surroundings × Operation)} {place : Workplace σ}

namespace Orderly

theorem tickets (orderly : place.Orderly initial rest begun) :
    place.done.map (·.ticket) ++ rest.filterMap QueueEntry.ticket? =
      List.range place.worker.issued := by
  have done : (place.done.map Deed.entry).filterMap QueueEntry.ticket? =
      place.done.map (·.ticket) := by
    rw [List.filterMap_map]
    exact congrFun (List.filterMap_eq_map (f := Deed.ticket)) _
  rw [← orderly.issued, orderly.accepted, List.filterMap_append, done]

theorem exists_verdict (orderly : place.Orderly initial rest begun) {count : Nat}
    (within : count ≤ place.accepted.length) (finished : place.ahead count = 0) {i : Nat}
    (first : i < count) : ∃ reply, place.verdict initial i = [reply] := by
  simp only [verdict]
  cases done : place.done[i]? with
  | some deed => exact ⟨_, rfl⟩
  | none =>
      have behind := List.getElem?_eq_none_iff.mp done
      have ended := (orderly.done_or_ended within finished).resolve_left (by omega)
      exact ⟨_, if_neg ended⟩

end Orderly

theorem run_accepted (place : Workplace σ) (moves : List Move) :
    place.accepted <+: (place.run moves).accepted := by
  induction moves generalizing place with
  | nil => exact List.prefix_rfl
  | cons move moves ih => exact (place.move_accepted move).trans (ih (place.move move))

theorem Orderly.progress (orderly : place.Orderly initial rest begun) {more : List Move}
    (enough : place.costs.sum ≤ more.countP Move.isWork) {i : Nat}
    (within : i < place.accepted.length) :
    ∃ reply, (place.run more).verdict initial i = [reply] := by
  obtain ⟨_, _, later⟩ := orderly.run more
  have left := orderly.ahead_run (Nat.le_refl _) more
  have total : place.ahead place.accepted.length ≤ place.costs.sum := by
    have split := congrArg List.sum
      (List.take_append_drop (place.accepted.length - place.done.length) place.costs)
    rw [List.sum_append] at split
    rw [ahead]
    omega
  refine later.exists_verdict (place.run_accepted more).length_le ?_ within
  omega

end Workplace

end ScriptBridge
