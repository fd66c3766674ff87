import ScriptBridge.Proofs.Worker.Order

/-! # Every client has its own reply

A client whose job was taken has a ticket that no other client has, and what it is answered is the
reply for that ticket. A client is refused only after the worker has ended its work.
-/

namespace ScriptBridge

/-- What a client has been told is what the worker told it. -/
def Client.Informed {σ : Type} (worker : Worker σ) : Client → Prop
  | .answered ticket _ reply => (ticket, reply) ∈ worker.replies
  | .refused _ fault => fault = .stopped ∧ worker.phase ≠ .running
  | .offering _ | .waiting _ _ | .left _ _ | .joining | .joined => True

theorem Client.Informed.mono {σ : Type} {worker other : Worker σ} {client : Client}
    (informed : client.Informed worker) (replies : worker.replies <+: other.replies)
    (ended : worker.phase ≠ .running → other.phase ≠ .running) : client.Informed other := by
  cases client with
  | answered ticket job reply => exact replies.subset informed
  | refused job fault => exact ⟨informed.1, ended informed.2⟩
  | offering | waiting | left | joining | joined => trivial

namespace Workplace

variable {σ : Type}

/-- The ticket and the job of a client, by its number. -/
def claim? (n : Nat) (place : Workplace σ) : Option (Nat × Job) :=
  place.clients[n]?.bind Client.claim?

/-- What holds between the clients of a workplace and its worker. -/
structure Attended (place : Workplace σ) : Prop where
  accepted (n : Nat) (claim : Nat × Job) : place.claim? n = some claim →
    .job claim.1 claim.2 ∈ place.accepted
  distinct (n m : Nat) (claim other : Nat × Job) : place.claim? n = some claim →
    place.claim? m = some other → claim.1 = other.1 → n = m
  claimed (ticket : Nat) (job : Job) : .job ticket job ∈ place.accepted →
    ∃ n, place.claim? n = some (ticket, job)
  informed : ∀ client ∈ place.clients, client.Informed place.worker

variable {place : Workplace σ}

theorem claim?_set {n : Nat} {old : Client} (found : place.clients[n]? = some old) (new : Client)
    (m : Nat) :
    (place.clients.set n new)[m]?.bind Client.claim? =
      if n = m then new.claim? else place.claim? m := by
  have bound : n < place.clients.length := (List.getElem?_eq_some_iff.mp found).1
  rw [List.getElem?_set]
  by_cases same : n = m
  · subst same
    simp [bound]
  · simp [same, claim?]

theorem claim?_concat {new : Client} (claim : new.claim? = none) (m : Nat) :
    (place.clients ++ [new])[m]?.bind Client.claim? = place.claim? m := by
  rcases Nat.lt_trichotomy m place.clients.length with before | rfl | behind
  · rw [List.getElem?_append_left before]
    rfl
  · simp [claim?, claim]
  · rw [List.getElem?_eq_none (by simp; omega), claim?, List.getElem?_eq_none (by omega)]

namespace Attended

theorem of_clients (attended : place.Attended) {clients : List Client}
    (claims : ∀ n, clients[n]?.bind Client.claim? = place.claim? n)
    (informed : ∀ client ∈ clients, client ∈ place.clients ∨ client.Informed place.worker) :
    Attended { place with clients } where
  accepted n claim held := attended.accepted n claim ((claims n).symm.trans held)
  distinct n m claim other held held' := attended.distinct n m claim other
    ((claims n).symm.trans held) ((claims m).symm.trans held')
  claimed ticket job member := by
    obtain ⟨n, held⟩ := attended.claimed ticket job member
    exact ⟨n, (claims n).trans held⟩
  informed client member := (informed client member).elim (attended.informed client) id

theorem of_set (attended : place.Attended) {n : Nat} {old new : Client}
    (found : place.clients[n]? = some old) (claim : new.claim? = old.claim?)
    (informed : new.Informed place.worker) :
    Attended { place with clients := place.clients.set n new } := by
  refine attended.of_clients (fun m => ?_) fun client member => ?_
  · rw [claim?_set found]
    split
    · next same =>
        subst same
        rw [claim, claim?, found]
        rfl
    · rfl
  · rcases List.mem_or_eq_of_mem_set member with old | rfl
    · exact Or.inl old
    · exact Or.inr informed

theorem of_concat (attended : place.Attended) {new : Client} (claim : new.claim? = none)
    (informed : new.Informed place.worker) :
    Attended { place with clients := place.clients ++ [new] } := by
  refine attended.of_clients (claim?_concat claim) fun client member => ?_
  rcases List.mem_append.mp member with old | last
  · exact Or.inl old
  · obtain rfl := List.mem_singleton.mp last
    exact Or.inr informed

theorem of_worker (attended : place.Attended) {other : Workplace σ}
    (clients : other.clients = place.clients) (accepted : other.accepted = place.accepted)
    (replies : place.worker.replies <+: other.worker.replies)
    (ended : place.worker.phase ≠ .running → other.worker.phase ≠ .running) : other.Attended := by
  have claims : ∀ n, other.claim? n = place.claim? n := fun n => by rw [claim?, clients, claim?]
  constructor
  · intro n claim held
    rw [accepted]
    exact attended.accepted n claim ((claims n).symm.trans held)
  · intro n m claim other' held held'
    exact attended.distinct n m claim other' ((claims n).symm.trans held)
      ((claims m).symm.trans held')
  · intro ticket job member
    rw [accepted] at member
    obtain ⟨n, held⟩ := attended.claimed ticket job member
    exact ⟨n, (claims n).trans held⟩
  · intro client member
    rw [clients] at member
    exact (attended.informed client member).mono replies ended

theorem of_accept (attended : place.Attended)
    (fresh : ∀ ticket job, .job ticket job ∈ place.accepted → ticket < place.worker.issued)
    {n : Nat} {job : Job} (found : place.clients[n]? = some (.offering job))
    {worker : Worker σ} (replies : worker.replies = place.worker.replies)
    (phase : worker.phase = place.worker.phase) :
    Attended { place with
      worker
      clients := place.clients.set n (.waiting place.worker.issued job)
      accepted := place.accepted ++ [.job place.worker.issued job] } := by
  have claims := claim?_set found (.waiting place.worker.issued job)
  have old : ∀ m claim, place.claim? m = some claim → claim.1 < place.worker.issued :=
    fun m claim held => fresh _ _ (attended.accepted m claim held)
  constructor
  · intro m claim held
    replace held := (claims m).symm.trans held
    split at held
    · obtain rfl := Option.some.inj held
      exact List.mem_append_right _ List.mem_cons_self
    · exact List.mem_append_left _ (attended.accepted m claim held)
  · intro m k claim other held held' same
    replace held := (claims m).symm.trans held
    replace held' := (claims k).symm.trans held'
    split at held
    · next atN =>
        split at held'
        · next atN' => exact atN.symm.trans atN'
        · obtain rfl := Option.some.inj held
          exact absurd (old k other held') (by simp [← same])
    · split at held'
      · obtain rfl := Option.some.inj held'
        exact absurd (old m claim held) (by simp [same])
      · exact attended.distinct m k claim other held held' same
  · intro ticket given member
    rcases List.mem_append.mp member with before | last
    · obtain ⟨m, held⟩ := attended.claimed ticket given before
      have other : n ≠ m := by
        rintro rfl
        rw [claim?, found] at held
        simp [Client.claim?] at held
      exact ⟨m, (claims m).trans ((if_neg other).trans held)⟩
    · obtain ⟨rfl, rfl⟩ : ticket = place.worker.issued ∧ given = job := by simpa using last
      exact ⟨n, (claims n).trans (if_pos rfl)⟩
  · intro client member
    rcases List.mem_or_eq_of_mem_set member with before | rfl
    · exact (attended.informed client before).mono (replies ▸ List.prefix_rfl) (phase ▸ id)
    · trivial

theorem of_stop (attended : place.Attended) :
    Attended { place with accepted := place.accepted ++ [.stop] } where
  accepted n claim held := List.mem_append_left _ (attended.accepted n claim held)
  distinct := attended.distinct
  claimed ticket job member := attended.claimed ticket job (by simpa using member)
  informed := attended.informed

end Attended

variable [Interpreter σ] {initial : Bridge σ} {rest : List QueueEntry}
  {begun : List (Surroundings × Bridge.Operation)}

theorem Orderly.fresh (orderly : place.Orderly initial rest begun) (ticket : Nat) (job : Job)
    (member : .job ticket job ∈ place.accepted) : ticket < place.worker.issued := by
  have issued : ticket ∈ place.accepted.filterMap QueueEntry.ticket? :=
    List.mem_filterMap.mpr ⟨_, member, rfl⟩
  rw [orderly.issued] at issued
  exact List.mem_range.mp issued

namespace Attended

theorem press (attended : place.Attended) (orderly : place.Orderly initial rest begun) (n : Nat) :
    (place.press n).Attended := by
  have pressed := place.pressed_press n
  generalize place.press n = after at pressed ⊢
  cases pressed with
  | idle => exact attended
  | refused job found ended => exact attended.of_set found rfl ⟨rfl, ended⟩
  | accepted job found running => exact attended.of_accept orderly.fresh found rfl rfl
  | answered ticket job reply found heard =>
      refine attended.of_set found rfl ?_
      obtain ⟨⟨named, told⟩, first, rfl⟩ := Option.map_eq_some_iff.mp heard
      have same : named = ticket := by simpa using List.find?_some first
      exact same ▸ List.mem_of_find?_eq_some first
  | late found ended => exact attended.of_set found rfl trivial
  | stopping found running =>
      have joined : Attended { place with clients := place.clients.set n .joined } :=
        attended.of_set found rfl trivial
      exact joined.of_stop.of_worker rfl rfl List.prefix_rfl id

omit [Interpreter σ] in
theorem leave (attended : place.Attended) (n : Nat) : (place.leave n).Attended := by
  simp only [Workplace.leave]
  split
  · next found => exact attended.of_set found rfl trivial
  · next found => exact attended.of_set found rfl trivial
  · next found => exact attended.of_set found rfl trivial
  · exact attended

omit [Interpreter σ] in
theorem abandon (attended : place.Attended) : place.abandon.Attended := by
  rcases place.abandon_cases with same | ⟨-, ended⟩
  · rwa [same]
  · rw [ended]
    exact attended.of_stop.of_worker rfl rfl List.prefix_rfl id

end Attended

theorem work_frame (host : Surroundings) (place : Workplace σ) :
    (place.work host).clients = place.clients ∧ (place.work host).accepted = place.accepted ∧
      place.worker.replies <+: (place.work host).worker.replies ∧
      (place.worker.phase ≠ .running → (place.work host).worker.phase ≠ .running) := by
  have worked := place.worked_work host
  generalize place.work host = after at worked ⊢
  cases worked with
  | ended | idle | taken | advanced => exact ⟨rfl, rfl, List.prefix_rfl, id⟩
  | stopped running => exact ⟨rfl, rfl, List.prefix_append _ _, absurd running⟩
  | crashed running =>
      exact ⟨rfl, rfl, (List.prefix_append _ _).trans (List.prefix_append _ _), absurd running⟩
  | done running => exact ⟨rfl, rfl, List.prefix_append _ _, absurd running⟩

theorem Attended.move (attended : place.Attended) (orderly : place.Orderly initial rest begun)
    (move : Move) : (place.move move).Attended := by
  cases move with
  | call job => exact attended.of_concat rfl trivial
  | join => exact attended.of_concat rfl trivial
  | press n => exact attended.press orderly n
  | leave n => exact attended.leave n
  | abandon => exact attended.abandon
  | work host =>
      obtain ⟨clients, accepted, replies, ended⟩ := work_frame host place
      exact attended.of_worker clients accepted replies ended

theorem Attended.run (attended : place.Attended) (orderly : place.Orderly initial rest begun)
    (moves : List Move) : (place.run moves).Attended := by
  induction moves generalizing place rest begun with
  | nil => exact attended
  | cons move moves ih =>
      obtain ⟨rest, begun, moved⟩ := orderly.move move
      exact ih (attended.move orderly move) moved

end Workplace

end ScriptBridge
