import Mathlib.Algebra.GroupWithZero.Nat
import ScriptBridge.Proofs.Worker.Order

/-! # Every entry has its turn

How many moves of the worker stand before an entry of the queue is fixed when the entry comes in.
What clients do in the meantime adds nothing to them, and every move of the worker is one less.
-/

namespace ScriptBridge

/-- The moves that an entry takes: it is taken, performed and concluded. -/
def QueueEntry.cost (entry : QueueEntry) : Nat :=
  entry.operations.length + 2

namespace Workplace

variable {σ : Type}

/-- The moves that are left for each entry that the worker is not through with. -/
def costs (place : Workplace σ) : List Nat :=
  if place.worker.phase = .running then
    place.underway.toList.map (·.left.length + 1) ++ place.worker.queue.map QueueEntry.cost
  else []

/-- The moves that are left for those of the first so many entries. -/
def ahead (count : Nat) (place : Workplace σ) : Nat :=
  (place.costs.take (count - place.done.length)).sum

def Move.isWork : Move → Bool
  | .work _ => true
  | .call _ | .join | .press _ | .leave _ | .abandon => false

/-- What clients do leaves the worker where it stands, and adds to its queue at most. -/
structure Spared (place after : Workplace σ) : Prop where
  done : after.done = place.done
  underway : after.underway = place.underway
  phase : after.worker.phase = place.worker.phase
  queue : place.worker.queue <+: after.worker.queue
  accepted : place.accepted <+: after.accepted

theorem spared_press (n : Nat) (place : Workplace σ) : place.Spared (place.press n) := by
  have pressed := place.pressed_press n
  generalize place.press n = after at pressed ⊢
  cases pressed with
  | idle | refused | answered | late => exact ⟨rfl, rfl, rfl, List.prefix_rfl, List.prefix_rfl⟩
  | accepted | stopping =>
      exact ⟨rfl, rfl, rfl, List.prefix_append _ _, List.prefix_append _ _⟩

theorem spared_leave (n : Nat) (place : Workplace σ) : place.Spared (place.leave n) := by
  simp only [leave]
  split <;> exact ⟨rfl, rfl, rfl, List.prefix_rfl, List.prefix_rfl⟩

theorem spared_abandon (place : Workplace σ) : place.Spared place.abandon := by
  rcases place.abandon_cases with same | ⟨-, ended⟩
  · rw [same]
    exact ⟨rfl, rfl, rfl, List.prefix_rfl, List.prefix_rfl⟩
  · rw [ended]
    exact ⟨rfl, rfl, rfl, List.prefix_append _ _, List.prefix_append _ _⟩

theorem Spared.costs {place after : Workplace σ} (spared : place.Spared after) :
    place.costs <+: after.costs := by
  obtain ⟨further, queue⟩ := spared.queue
  rw [Workplace.costs, Workplace.costs, spared.phase, spared.underway, ← queue]
  split
  · rw [List.map_append, ← List.append_assoc]
    exact List.prefix_append _ _
  · exact List.prefix_rfl

theorem Spared.ahead {place after : Workplace σ} (spared : place.Spared after) {count : Nat}
    (within : count - place.done.length ≤ place.costs.length) :
    after.ahead count = place.ahead count := by
  obtain ⟨further, costs⟩ := spared.costs
  rw [Workplace.ahead, Workplace.ahead, ← costs, spared.done, List.take_append_of_le_length within]

theorem costs_of_ended {place : Workplace σ} (ended : place.worker.phase ≠ .running) :
    place.costs = [] :=
  if_neg ended

theorem sum_take_le {first : Nat} (costs : List Nat) (count : Nat) :
    ((first :: costs).take count).sum ≤ (((first + 1) :: costs).take count).sum - 1 := by
  cases count with
  | zero => simp
  | succ count =>
      simp only [List.take_succ_cons, List.sum_cons]
      omega

variable [Interpreter σ]

theorem ahead_work (host : Surroundings) (place : Workplace σ) (count : Nat) :
    (place.work host).ahead count ≤ place.ahead count - 1 := by
  have worked := place.worked_work host
  generalize place.work host = after at worked ⊢
  cases worked with
  | ended ended => simp [ahead, costs_of_ended ended]
  | idle running free empty => simp [ahead, costs, running, free, empty]
  | taken running free entry queue first =>
      have before : place.costs = (entry.operations.length + 1 + 1) :: queue.map QueueEntry.cost := by
        simp [costs, running, free, first, QueueEntry.cost]
      simp only [ahead, before]
      refine Nat.le_trans (Nat.le_of_eq ?_) (sum_take_le _ _)
      simp [costs, running]
  | advanced running underway busy operation left next =>
      have before : place.costs = (left.length + 1 + 1) :: place.worker.queue.map QueueEntry.cost := by
        simp [costs, running, busy, next]
      simp only [ahead, before]
      refine Nat.le_trans (Nat.le_of_eq ?_) (sum_take_le _ _)
      simp [costs, advance, running]
  | stopped => simp [ahead, costs, Worker.close]
  | crashed => simp [ahead, costs, Worker.close]
  | done running underway busy through ticket job entry =>
      have before : place.costs = 1 :: place.worker.queue.map QueueEntry.cost := by
        simp [costs, running, busy, through]
      simp only [ahead, before]
      cases behind : count - place.done.length with
      | zero =>
          have less : count - (place.done.length + 1) = 0 := by omega
          simp [less]
      | succ more =>
          have less : count - (place.done.length + 1) = more := by omega
          simp [less, costs, running, Worker.answer]

variable {initial : Bridge σ} {rest : List QueueEntry}
  {begun : List (Surroundings × Bridge.Operation)} {place : Workplace σ}

theorem Orderly.costs_length (orderly : place.Orderly initial rest begun)
    (running : place.worker.phase = .running) : place.costs.length = rest.length := by
  cases orderly.stands with
  | free _ free queue => simp [costs, running, free, queue]
  | at_work underway _ busy queue => simp [costs, running, busy, queue]
  | gone entry ended => exact absurd (ended.symm.trans running) entry.ending_ne_running

theorem move_accepted (place : Workplace σ) (move : Move) :
    place.accepted <+: (place.move move).accepted := by
  cases move with
  | call | join => exact List.prefix_rfl
  | press n => exact (place.spared_press n).accepted
  | leave n => exact (place.spared_leave n).accepted
  | abandon => exact place.spared_abandon.accepted
  | work host =>
      have worked := place.worked_work host
      rw [Workplace.move]
      generalize place.work host = after at worked ⊢
      cases worked <;> exact List.prefix_rfl

theorem Orderly.ahead_move (orderly : place.Orderly initial rest begun) {count : Nat}
    (within : count ≤ place.accepted.length) (move : Move) :
    (place.move move).ahead count ≤ place.ahead count - if move.isWork then 1 else 0 := by
  have spared : ∀ after, place.Spared after → after.ahead count ≤ place.ahead count := by
    intro after spared
    by_cases running : place.worker.phase = .running
    · refine Nat.le_of_eq (spared.ahead ?_)
      rw [orderly.costs_length running]
      have length := congrArg List.length orderly.accepted
      simp only [List.length_append, List.length_map] at length
      omega
    · have ended : after.worker.phase ≠ .running := spared.phase ▸ running
      simp [ahead, costs_of_ended ended]
  cases move with
  | call | join => exact spared _ ⟨rfl, rfl, rfl, List.prefix_rfl, List.prefix_rfl⟩
  | press n => exact spared _ (place.spared_press n)
  | leave n => exact spared _ (place.spared_leave n)
  | abandon => exact spared _ place.spared_abandon
  | work host => exact place.ahead_work host count

/-- Enough moves of the worker, whatever comes between them, leave nothing of the entries that were
    in the queue before. -/
theorem Orderly.ahead_run (orderly : place.Orderly initial rest begun) {count : Nat}
    (within : count ≤ place.accepted.length) (moves : List Move) :
    (place.run moves).ahead count ≤ place.ahead count - moves.countP Move.isWork := by
  induction moves generalizing place rest begun with
  | nil => exact Nat.le_refl _
  | cons move moves ih =>
      obtain ⟨_, _, moved⟩ := orderly.move move
      have within' := Nat.le_trans within (place.move_accepted move).length_le
      have first := orderly.ahead_move within move
      have others := ih moved within'
      rw [List.countP_cons]
      change ((place.move move).run moves).ahead count ≤ _
      omega

/-- When no moves are left for the first entries, they are done, or the work has ended. -/
theorem Orderly.done_or_ended (orderly : place.Orderly initial rest begun) {count : Nat}
    (within : count ≤ place.accepted.length) (finished : place.ahead count = 0) :
    count ≤ place.done.length ∨ place.worker.phase ≠ .running := by
  by_cases running : place.worker.phase = .running
  · refine Or.inl (Nat.le_of_not_lt fun less => ?_)
    have positive : ∀ cost ∈ place.costs, 0 < cost := by
      intro cost member
      simp only [costs, running, if_true, List.mem_append, List.mem_map] at member
      rcases member with ⟨underway, -, rfl⟩ | ⟨entry, -, rfl⟩
      · exact Nat.succ_pos _
      · exact Nat.succ_pos _
    have length := congrArg List.length orderly.accepted
    simp only [List.length_append, List.length_map, ← orderly.costs_length running] at length
    obtain ⟨more, behind⟩ := Nat.exists_eq_add_of_lt less
    cases costs : place.costs with
    | nil => rw [costs] at length; simp at length; omega
    | cons first others =>
        have head := positive first (costs ▸ List.mem_cons_self)
        have taken : count - place.done.length = more + 1 := by omega
        rw [ahead, costs, taken, List.take_succ_cons, List.sum_cons] at finished
        omega
  · exact Or.inr running

end Workplace

end ScriptBridge
