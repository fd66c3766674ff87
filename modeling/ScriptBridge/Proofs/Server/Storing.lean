import ScriptBridge.Proofs.Cookie
import ScriptBridge.Proofs.Server.Crossing
import ScriptBridge.Proofs.Server.Replay

/-! # The order of a jar

When requests cross, the jar follows the order in which the cookies were stored. This need not be
the order in which the worker did the jobs: of two requests that have their replies, the later one
may store first.
-/

namespace ScriptBridge

namespace Worker

variable {σ : Type} {worker : Worker σ}

/-- Every ticket is answered or in the queue, in the order in which they were given. -/
def Numbered (worker : Worker σ) : Prop :=
  worker.replies.map (·.1) ++ worker.pending = List.range worker.issued

theorem numbered_spawn (bridge : Bridge σ) (depth : Nat) : (spawn bridge depth).Numbered := rfl

theorem Numbered.offerStop (numbered : worker.Numbered) : worker.offerStop.Numbered := by
  rw [Worker.offerStop]
  split
  · simpa [Numbered, pending, List.filterMap_cons, QueueEntry.ticket?] using numbered
  · exact numbered

theorem offerStop_spec (worker : Worker σ) :
    worker.offerStop.issued = worker.issued ∧ worker.offerStop.replies = worker.replies := by
  rw [Worker.offerStop]
  split
  · exact ⟨rfl, rfl⟩
  · exact ⟨rfl, rfl⟩

theorem Numbered.accept (numbered : worker.Numbered) {job : Job} {ticket : Nat}
    {after : Worker σ} (accepted : worker.offer job = (.accepted ticket, after)) :
    ticket = worker.issued ∧ after.Numbered ∧ after.issued = worker.issued + 1 ∧
      after.replies = worker.replies := by
  simp only [offer] at accepted
  split at accepted
  · simp at accepted
  · split at accepted
    · simp only [Prod.mk.injEq, Offer.accepted.injEq] at accepted
      obtain ⟨rfl, rfl⟩ := accepted
      refine ⟨rfl, ?_, rfl, rfl⟩
      simp only [Numbered, pending] at numbered ⊢
      simp only [List.filterMap_append, List.range_succ, ← numbered, List.append_assoc]
      rfl
    · simp at accepted

theorem mem_replies_of_reply? {ticket : Nat} {reply : Except WorkerFault Reply}
    (replied : worker.reply? ticket = some reply) : (ticket, reply) ∈ worker.replies := by
  obtain ⟨entry, found, rfl⟩ := Option.map_eq_some_iff.mp replied
  have at_ticket : (entry.1 == ticket) = true := by simpa using List.find?_some found
  obtain rfl := eq_of_beq at_ticket
  exact List.mem_of_find?_eq_some found

theorem Numbered.close (numbered : worker.Numbered) (phase : WorkerPhase) :
    (worker.close phase).Numbered := by
  simpa [Numbered, Worker.close, pending, Function.comp_def] using numbered

theorem Numbered.step [Interpreter σ] (numbered : worker.Numbered) (host : Surroundings) :
    (worker.step host).Numbered ∧ (worker.step host).issued = worker.issued ∧
      worker.replies <+: (worker.step host).replies := by
  cases phase : worker.phase with
  | stopped | crashed => simpa [Worker.step, phase] using numbered
  | running =>
      rcases queue : worker.queue with - | ⟨⟨ticket, job⟩ | _, rest⟩
      · simpa [Worker.step, phase, queue] using numbered
      · simp only [Worker.step, phase, queue, perform]
        have answered (reply : Except WorkerFault Reply) (bridge : Bridge σ) :
            Numbered ({ worker with queue := rest, bridge }.answer ticket reply) := by
          simpa [Numbered, pending, queue, answer, List.filterMap_cons, QueueEntry.ticket?]
            using numbered
        split
        · exact ⟨(answered (.error .droppedReply) (job.run host worker.bridge).2).close _, rfl,
            by simp [Worker.close, answer]⟩
        · exact ⟨answered _ (job.run host worker.bridge).2, rfl, by simp [answer]⟩
      · simp only [Worker.step, phase, queue]
        have passed : Numbered { worker with queue := rest, bridge := worker.bridge.shutdown } := by
          simpa [Numbered, pending, queue, List.filterMap_cons, QueueEntry.ticket?] using numbered
        exact ⟨passed.close _, rfl, by simp [Worker.close]⟩

end Worker

namespace Crossing

variable {σ : Type} {crossing : Crossing σ} {n ticket : Nat}

/-- The jar of crossing traffic comes from the texts that were stored. A request that waits has
    stored the front part of the texts of its reply, one that waits no more has stored them all. -/
structure Accounted (initial : Service) (crossing : Crossing σ) : Prop where
  service : crossing.traffic.service =
    { initial with cookies := initial.cookies.storeAll (crossing.stored.map (·.2)) }
  numbered : crossing.traffic.worker.Numbered
  fresh : ∀ n, crossing.traffic.arrived ≤ n → crossing.traffic.passage? n = none
  given : ∀ n ticket, crossing.traffic.ticket? n = some ticket →
    ticket < crossing.traffic.worker.issued
  apart : ∀ n m ticket, crossing.traffic.ticket? n = some ticket →
    crossing.traffic.ticket? m = some ticket → n = m
  before : ∀ n ticket, crossing.traffic.ticket? n = some ticket → crossing.storing n = none →
    crossing.storedFor ticket = []
  during : ∀ n part, crossing.storing n = some part →
    crossing.traffic.ticket? n = some part.ticket ∧
      ∃ reply, (part.ticket, reply) ∈ crossing.traffic.worker.replies ∧
        Traffic.kept initial reply = crossing.storedFor part.ticket ++ part.left
  after : ∀ ticket < crossing.traffic.worker.issued,
    (∀ n, crossing.traffic.ticket? n ≠ some ticket) →
      ∃ reply, (ticket, reply) ∈ crossing.traffic.worker.replies ∧
        Traffic.kept initial reply = crossing.storedFor ticket
  known : ∀ entry ∈ crossing.stored, entry.1 < crossing.traffic.worker.issued

variable {initial : Service}

theorem accounted_start (service : Service) (bridge : Bridge σ) (depth : Nat) :
    (start service bridge depth).Accounted service where
  service := rfl
  numbered := Worker.numbered_spawn bridge depth
  fresh _ _ := rfl
  given _ _ waits := by simp [start, Traffic.new, Traffic.ticket?, Traffic.passage?] at waits
  apart _ _ _ waits := by simp [start, Traffic.new, Traffic.ticket?, Traffic.passage?] at waits
  before _ _ _ _ := rfl
  during _ _ part := by simp [start] at part
  after ticket given := absurd given (Nat.not_lt_zero ticket)
  known _ member := absurd member List.not_mem_nil

theorem storedFor_eq_nil (none : ∀ entry ∈ crossing.stored, entry.1 ≠ ticket) :
    crossing.storedFor ticket = [] := by
  rw [storedFor, List.map_eq_nil_iff, List.filter_eq_nil_iff]
  exact fun entry member => by simpa using none entry member

theorem storedFor_put_self (ticket : Nat) (text : String) (crossing : Crossing σ) :
    (crossing.put ticket text).storedFor ticket = crossing.storedFor ticket ++ [text] := by
  simp [storedFor, put]

theorem storedFor_put_of_ne {other : Nat} (ne : other ≠ ticket) (text : String)
    (crossing : Crossing σ) :
    (crossing.put ticket text).storedFor other = crossing.storedFor other := by
  simp [storedFor, put, Ne.symm ne]

namespace Accounted

theorem of_same (accounted : crossing.Accounted initial) {traffic : Traffic σ}
    (service : traffic.service = crossing.traffic.service) (numbered : traffic.worker.Numbered)
    (issued : traffic.worker.issued = crossing.traffic.worker.issued)
    (replies : crossing.traffic.worker.replies <+: traffic.worker.replies)
    (fresh : ∀ n, traffic.arrived ≤ n → traffic.passage? n = none)
    (tickets : ∀ n, traffic.ticket? n = crossing.traffic.ticket? n) :
    Accounted initial { crossing with traffic } where
  service := service.trans accounted.service
  numbered := numbered
  fresh := fresh
  given n ticket waits := by
    rw [issued]
    exact accounted.given n ticket (tickets n ▸ waits)
  apart n m ticket waits also :=
    accounted.apart n m ticket (tickets n ▸ waits) (tickets m ▸ also)
  before n ticket waits := accounted.before n ticket (tickets n ▸ waits)
  during n part stores := by
    obtain ⟨waits, reply, given, eq⟩ := accounted.during n part stores
    exact ⟨(tickets n).trans waits, reply, replies.mem given, eq⟩
  after ticket given idle := by
    rw [issued] at given
    obtain ⟨reply, replied, eq⟩ := accounted.after ticket given fun n => tickets n ▸ idle n
    exact ⟨reply, replies.mem replied, eq⟩
  known entry member := by
    rw [issued]
    exact accounted.known entry member

theorem arrive (accounted : crossing.Accounted initial) (incoming : Incoming) :
    Accounted initial { crossing with traffic := (crossing.traffic.arrive incoming).2 } := by
  obtain ⟨passage, arrived, idle⟩ := Traffic.exists_arrive_eq incoming crossing.traffic
  rw [arrived]
  refine accounted.of_same rfl accounted.numbered rfl List.prefix_rfl ?_ ?_
  · intro n late
    have later : crossing.traffic.arrived < n := late
    rw [Traffic.passage?_move_of_ne (by omega)]
    exact accounted.fresh n (by omega)
  · intro n
    by_cases last : n = crossing.traffic.arrived
    · have unknown := accounted.fresh crossing.traffic.arrived (Nat.le_refl _)
      rw [last, Traffic.ticket?, Traffic.ticket?, Traffic.passage?_move, unknown]
      split
      · next ticket waits => exact absurd (Option.some.inj waits) (idle ticket)
      · rfl
    · exact Traffic.ticket?_move_of_ne last _ _

theorem fresh_move (accounted : crossing.Accounted initial) {passage next : Passage}
    (there : crossing.traffic.passage? n = some passage) {traffic : Traffic σ}
    (arrived : traffic.arrived = crossing.traffic.arrived)
    (passages : traffic.passages = crossing.traffic.passages) :
    ∀ m, (traffic.move n next).arrived ≤ m → (traffic.move n next).passage? m = none := by
  intro m late
  have later : crossing.traffic.arrived ≤ m := arrived ▸ late
  have unknown := accounted.fresh m later
  have other : m ≠ n := by
    rintro rfl
    rw [there] at unknown
    simp at unknown
  rw [Traffic.passage?_move_of_ne other, Traffic.passage?, passages]
  exact unknown

theorem take (accounted : crossing.Accounted initial) {job : Job} {worker : Worker σ}
    (there : crossing.traffic.passage? n = some (.submitting job)) (numbered : worker.Numbered)
    (issued : worker.issued = crossing.traffic.worker.issued + 1)
    (replies : worker.replies = crossing.traffic.worker.replies) :
    Accounted initial { crossing with
      traffic := { crossing.traffic with worker }.move n
        (.waiting crossing.traffic.worker.issued) } := by
  generalize moved : { crossing.traffic with worker }.move n
    (.waiting crossing.traffic.worker.issued) = traffic
  have idle : crossing.traffic.ticket? n = none := by rw [Traffic.ticket?, there]
  have self : traffic.ticket? n = some crossing.traffic.worker.issued := by
    rw [← moved, Traffic.ticket?, Traffic.passage?_move]
  have others : ∀ m, m ≠ n → traffic.ticket? m = crossing.traffic.ticket? m := by
    intro m other
    rw [← moved, Traffic.ticket?_move_of_ne other]
    rfl
  -- Whoever waits now is this request, with a ticket that nobody had before, or has waited before.
  have older : ∀ {m ticket}, traffic.ticket? m = some ticket →
      m = n ∧ ticket = crossing.traffic.worker.issued ∨
        m ≠ n ∧ crossing.traffic.ticket? m = some ticket := by
    intro m ticket waits
    by_cases at_n : m = n
    · rw [at_n, self] at waits
      exact .inl ⟨at_n, (Option.some.inj waits).symm⟩
    · exact .inr ⟨at_n, others m at_n ▸ waits⟩
  have same : traffic.worker = worker := by rw [← moved]; rfl
  constructor
  case service => rw [← accounted.service, ← moved]; rfl
  case numbered => rwa [same]
  case fresh => rw [← moved]; exact accounted.fresh_move there rfl rfl
  case given =>
    intro m ticket waits
    rw [same, issued]
    rcases older waits with ⟨-, rfl⟩ | ⟨-, before⟩
    · omega
    · exact Nat.lt_succ_of_lt (accounted.given m ticket before)
  case apart =>
    intro m k ticket waits also
    rcases older waits with ⟨at_n, last⟩ | ⟨-, before⟩
    · rcases older also with ⟨at_n', -⟩ | ⟨-, before⟩
      · rw [at_n, at_n']
      · exact absurd (accounted.given k ticket before) (by omega)
    · rcases older also with ⟨-, last⟩ | ⟨-, before'⟩
      · exact absurd (accounted.given m ticket before) (by omega)
      · exact accounted.apart m k ticket before before'
  case before =>
    intro m ticket waits none
    rcases older waits with ⟨-, rfl⟩ | ⟨-, before⟩
    · exact storedFor_eq_nil fun entry member => Nat.ne_of_lt (accounted.known entry member)
    · exact accounted.before m ticket before none
  case during =>
    intro m part stores
    obtain ⟨waits, reply, replied, eq⟩ := accounted.during m part stores
    have other : m ≠ n := by
      rintro rfl
      rw [idle] at waits
      simp at waits
    exact ⟨(others m other).trans waits, reply, by rwa [same, replies], eq⟩
  case after =>
    intro ticket given none
    rw [same, issued] at given
    have earlier : ticket ≠ crossing.traffic.worker.issued := by
      rintro rfl
      exact none n self
    have idle : ∀ m, crossing.traffic.ticket? m ≠ some ticket := by
      intro m waits
      by_cases at_n : m = n
      · rw [at_n, idle] at waits
        simp at waits
      · exact none m ((others m at_n).trans waits)
    obtain ⟨reply, replied, eq⟩ := accounted.after ticket (by omega) idle
    exact ⟨reply, by rwa [same, replies], eq⟩
  case known =>
    intro entry member
    rw [same, issued]
    exact Nat.lt_succ_of_lt (accounted.known entry member)

theorem submit (accounted : crossing.Accounted initial) (n : Nat) :
    Accounted initial { crossing with traffic := crossing.traffic.submit n } := by
  simp only [Traffic.submit]
  split
  · next job there =>
      have idle : crossing.traffic.ticket? n = none := by rw [Traffic.ticket?, there]
      split
      · next ticket worker offered =>
          obtain ⟨rfl, numbered, issued, replies⟩ := accounted.numbered.accept offered
          exact accounted.take there numbered issued replies
      · exact accounted
      · next fault worker offered =>
          refine accounted.of_same rfl accounted.numbered rfl List.prefix_rfl
            (accounted.fresh_move there rfl rfl) fun m => ?_
          by_cases self : m = n
          · rw [self, idle, Traffic.ticket?, Traffic.passage?_move]
          · exact Traffic.ticket?_move_of_ne self _ _
  · exact accounted

theorem collect (accounted : crossing.Accounted initial) (n : Nat) :
    (crossing.collect n).Accounted initial := by
  simp only [Crossing.collect]
  split
  · next ticket idle waits =>
      split
      · next reply replied =>
          have given : (ticket, reply) ∈ crossing.traffic.worker.replies :=
            Worker.mem_replies_of_reply? replied
          have kept : Traffic.kept crossing.traffic.service reply = Traffic.kept initial reply := by
            simp only [Traffic.kept, accounted.service]
          refine { accounted with before := fun m other also none => ?_, during := ?_ }
          · rw [storing_turn] at none
            split at none
            · simp at none
            · exact accounted.before m other also none
          · intro m part stores
            rw [storing_turn] at stores
            split at stores
            · next at_n =>
                obtain rfl := Option.some.inj stores
                refine ⟨at_n ▸ waits, reply, given, ?_⟩
                have nothing := accounted.before n ticket waits idle
                exact (kept.symm.trans (List.nil_append _).symm).trans (by rw [← nothing]; rfl)
            · exact accounted.during m part stores
      · exact accounted
  · exact accounted

theorem store (accounted : crossing.Accounted initial) (n : Nat) :
    (crossing.store n).Accounted initial := by
  simp only [Crossing.store]
  split
  · next ticket text left response part =>
      obtain ⟨waits, reply, replied, eq⟩ := accounted.during n _ part
      simp only at waits replied eq
      -- A ticket has one request, so the texts of all other tickets stay as they are.
      have others : ∀ {m other}, crossing.traffic.ticket? m = some other → m ≠ n →
          (crossing.put ticket text).storedFor other = crossing.storedFor other := by
        intro m other also ne
        refine storedFor_put_of_ne (fun same => ne ?_) text crossing
        rw [same] at also
        exact accounted.apart m n ticket also waits
      constructor
      case service =>
        rw [stored_turn, stored_put, List.map_append, List.map_singleton,
          CookieJar.storeAll_concat]
        simp only [traffic_turn, put, accounted.service]
      case numbered =>
        rw [traffic_turn, worker_put]
        exact accounted.numbered
      case fresh =>
        simp only [traffic_turn, arrived_put, passage?_put]
        exact accounted.fresh
      case given =>
        simp only [traffic_turn, ticket?_put, worker_put]
        exact accounted.given
      case apart =>
        simp only [traffic_turn, ticket?_put]
        exact accounted.apart
      case before =>
        intro m other also none
        rw [traffic_turn, ticket?_put] at also
        rw [storing_turn, storing_put] at none
        split at none
        · simp at none
        · next ne =>
            rw [storedFor_turn, others also ne]
            exact accounted.before m other also none
      case during =>
        intro m next stores
        rw [storing_turn, storing_put] at stores
        rw [traffic_turn, ticket?_put, worker_put]
        split at stores
        · next at_n =>
            obtain rfl := Option.some.inj stores
            rw [at_n]
            refine ⟨waits, reply, replied, ?_⟩
            rw [storedFor_turn, storedFor_put_self, eq]
            simp
        · next ne =>
            obtain ⟨also, reply, replied, eq⟩ := accounted.during m next stores
            refine ⟨also, reply, replied, ?_⟩
            rw [storedFor_turn, others also ne, eq]
      case after =>
        intro other given idle
        simp only [traffic_turn, ticket?_put, worker_put] at given idle ⊢
        obtain ⟨reply, replied, eq⟩ := accounted.after other given idle
        refine ⟨reply, replied, ?_⟩
        have ne : other ≠ ticket := by
          rintro rfl
          exact idle n waits
        rw [storedFor_turn, storedFor_put_of_ne ne, eq]
      case known =>
        intro entry member
        rw [stored_turn, stored_put] at member
        rw [traffic_turn, worker_put]
        rcases List.mem_append.mp member with earlier | last
        · exact accounted.known entry earlier
        · obtain rfl := List.mem_singleton.mp last
          exact accounted.given n ticket waits
  · exact accounted

theorem depart (accounted : crossing.Accounted initial) (n : Nat) :
    (crossing.depart n).Accounted initial := by
  simp only [Crossing.depart]
  split
  · next ticket response part =>
      obtain ⟨waits, reply, replied, eq⟩ := accounted.during n _ part
      simp only at waits replied eq
      have passage := Traffic.ticket?_eq_some_iff.mp waits
      have fresh : ∀ m, (crossing.traffic.move n (.answered response)).arrived ≤ m →
          (crossing.traffic.move n (.answered response)).passage? m = none :=
        accounted.fresh_move passage rfl rfl
      have service : (crossing.traffic.move n (.answered response)).service =
        crossing.traffic.service := rfl
      have worker : (crossing.traffic.move n (.answered response)).worker =
        crossing.traffic.worker := rfl
      have self : (crossing.traffic.move n (.answered response)).ticket? n = none := by
        rw [Traffic.ticket?, Traffic.passage?_move]
      have others : ∀ m, m ≠ n → (crossing.traffic.move n (.answered response)).ticket? m =
          crossing.traffic.ticket? m := fun m other =>
        Traffic.ticket?_move_of_ne other (.answered response) crossing.traffic
      generalize crossing.traffic.move n (.answered response) = traffic at *
      have older : ∀ {m other}, traffic.ticket? m = some other →
          m ≠ n ∧ crossing.traffic.ticket? m = some other := by
        intro m other also
        have ne : m ≠ n := by
          rintro rfl
          rw [self] at also
          simp at also
        exact ⟨ne, (others m ne).symm.trans also⟩
      constructor
      case service => exact service.trans accounted.service
      case numbered =>
        rw [traffic_turn, worker]
        exact accounted.numbered
      case fresh => exact fresh
      case given =>
        intro m other also
        rw [traffic_turn, worker]
        exact accounted.given m other (older also).2
      case apart =>
        intro m k other also too
        exact accounted.apart m k other (older also).2 (older too).2
      case before =>
        intro m other also none
        obtain ⟨ne, also⟩ := older also
        rw [storing_turn, if_neg ne] at none
        exact accounted.before m other also none
      case during =>
        intro m next stores
        rw [storing_turn] at stores
        split at stores
        · simp at stores
        · next ne =>
            obtain ⟨also, reply, replied, eq⟩ := accounted.during m next stores
            rw [traffic_turn, worker]
            exact ⟨(others m ne).trans also, reply, replied, eq⟩
      case after =>
        intro other given idle
        rw [traffic_turn, worker] at given ⊢
        by_cases own : other = ticket
        · rw [own]
          exact ⟨reply, replied, eq.trans (List.append_nil _)⟩
        · refine accounted.after other given fun m also => ?_
          by_cases at_n : m = n
          · rw [at_n, waits] at also
            exact own (Option.some.inj also).symm
          · exact idle m ((others m at_n).trans also)
      case known =>
        intro entry member
        rw [traffic_turn, worker]
        exact accounted.known entry member
  · exact accounted

variable [Interpreter σ]

theorem work (accounted : crossing.Accounted initial) (host : Surroundings) :
    Accounted initial { crossing with traffic := crossing.traffic.work host } := by
  obtain ⟨numbered, issued, replies⟩ := accounted.numbered.step host
  exact accounted.of_same rfl numbered issued replies accounted.fresh fun _ => rfl

omit [Interpreter σ] in
theorem stop (accounted : crossing.Accounted initial) :
    Accounted initial { crossing with
      traffic := { crossing.traffic with worker := crossing.traffic.worker.offerStop } } := by
  obtain ⟨issued, replies⟩ := crossing.traffic.worker.offerStop_spec
  exact accounted.of_same rfl accounted.numbered.offerStop issued (replies ▸ List.prefix_rfl)
    accounted.fresh fun _ => rfl

theorem step (accounted : crossing.Accounted initial) (move : Move) :
    (crossing.step move).Accounted initial := by
  cases move with
  | arrive incoming => exact accounted.arrive incoming
  | submit n => exact accounted.submit n
  | work host => exact accounted.work host
  | stop => exact accounted.stop
  | collect n => exact accounted.collect n
  | store n => exact accounted.store n
  | depart n => exact accounted.depart n

theorem run (accounted : crossing.Accounted initial) (moves : List Move) :
    (crossing.run moves).Accounted initial := by
  induction moves generalizing crossing with
  | nil => exact accounted
  | cons move moves ih => exact ih (accounted.step move)

omit [Interpreter σ] in
/-- Once every response is known, each ticket has its reply, and its texts are stored. -/
theorem settled (accounted : crossing.Accounted initial)
    (answered : crossing.traffic.inFlight = 0) :
    crossing.traffic.worker.replies.map (·.1) = List.range crossing.traffic.worker.issued ∧
      ∀ answer ∈ crossing.traffic.worker.replies,
        crossing.storedFor answer.1 = Traffic.kept initial answer.2 := by
  have replied : ∀ ticket < crossing.traffic.worker.issued,
      ∃ reply, (ticket, reply) ∈ crossing.traffic.worker.replies ∧
        Traffic.kept initial reply = crossing.storedFor ticket := by
    intro ticket given
    refine accounted.after ticket given fun n => ?_
    simp [Traffic.ticket?_eq_none_of_inFlight answered n]
  have numbered : crossing.traffic.worker.replies.map (·.1) ++ crossing.traffic.worker.pending =
      List.range crossing.traffic.worker.issued := accounted.numbered
  have once := List.nodup_append.mp (numbered ▸ List.nodup_range)
  -- A ticket that is in the queue has no reply yet.
  have none : crossing.traffic.worker.pending = [] := by
    refine List.eq_nil_iff_forall_not_mem.mpr fun ticket waits => ?_
    have given : ticket ∈ List.range crossing.traffic.worker.issued :=
      numbered ▸ List.mem_append_right _ waits
    obtain ⟨reply, there, -⟩ := replied ticket (List.mem_range.mp given)
    exact once.2.2 ticket (List.mem_map_of_mem there) ticket waits rfl
  rw [none, List.append_nil] at numbered
  refine ⟨numbered, fun answer member => ?_⟩
  have given : answer.1 ∈ List.range crossing.traffic.worker.issued :=
    numbered ▸ List.mem_map_of_mem member
  obtain ⟨reply, there, eq⟩ := replied answer.1 (List.mem_range.mp given)
  have same : (answer.1, reply) = answer := List.inj_on_of_nodup_map once.1 there member rfl
  rw [← eq, ← same]

end Accounted

/-- The ticket of the last reply that a text for a cookie was stored of. -/
def lastFor? (name : String) (crossing : Crossing σ) : Option Nat :=
  (crossing.stored.filter fun entry => CookieJar.speaks name entry.2).getLast?.map (·.1)

/-- Of the texts for a cookie, the one that was stored last is also the last one in the order of the
    tickets, if no later ticket has such a text. -/
theorem getLast?_of_last {p : String → Bool} {stored : List (Nat × String)}
    {answers : List (Nat × List String)} (increasing : answers.Pairwise (·.1 < ·.1))
    (texts : ∀ answer ∈ answers, answer.2 = (stored.filter (·.1 == answer.1)).map (·.2))
    (known : ∀ entry ∈ stored, ∃ answer ∈ answers, answer.1 = entry.1)
    (last : ∀ entry ∈ (stored.filter (p ·.2)).getLast?, ∀ answer ∈ answers, entry.1 < answer.1 →
      answer.2.filter p = []) :
    ((answers.flatMap (·.2)).filter p).getLast? = (stored.filter (p ·.2)).getLast?.map (·.2) := by
  have spoken : ∀ answer ∈ answers, answer.2.filter p =
      ((stored.filter (p ·.2)).filter (·.1 == answer.1)).map (·.2) := by
    intro answer member
    rw [texts answer member, List.filter_map, List.filter_comm]
    rfl
  have known : ∀ entry ∈ stored.filter (p ·.2), ∃ answer ∈ answers, answer.1 = entry.1 :=
    fun entry member => known entry (List.mem_filter.mp member).1
  rw [List.filter_flatMap]
  generalize stored.filter (p ·.2) = stored at spoken known last ⊢
  rcases List.eq_nil_or_concat stored with rfl | ⟨front, ⟨ticket, text⟩, rfl⟩
  · have nothing : answers.flatMap (fun answer => answer.2.filter p) = [] :=
      List.flatMap_eq_nil_iff.mpr spoken
    rw [nothing]
    rfl
  · obtain ⟨answer, member, rfl⟩ := known (ticket, text) (by simp)
    obtain ⟨earlier, later, rfl⟩ := List.append_of_mem member
    have own : answer.2.filter p = (front.filter (·.1 == answer.1)).map (·.2) ++ [text] := by
      rw [spoken answer member]
      simp
    -- What comes behind its own ticket adds nothing, so the text is the last one there too.
    have silent : later.flatMap (fun answer => answer.2.filter p) = [] := by
      refine List.flatMap_eq_nil_iff.mpr fun other among => ?_
      have order := (List.pairwise_append.mp increasing).2.1
      exact last (answer.1, text) (by simp) other (by simp [among])
        (List.rel_of_pairwise_cons order among)
    rw [List.flatMap_append, List.flatMap_cons, silent, own]
    simp

variable [Interpreter σ]

/-- Once every response is known, the jar is what the texts of all replies make of it, each of them
    stored once: those of one reply in their order, those of different replies in the order in which
    their requests came to the jar. The cookie of a name is the one of the order in which the worker
    did the jobs, unless a request stored a text for it behind that of a later job. -/
theorem jar_of_stores (service : Service) (bridge : Bridge σ) (depth : Nat)
    (replays : service.replayCookies = true) (moves : List Move)
    (answered : ((start service bridge depth).run moves).traffic.inFlight = 0) :
    let crossing := (start service bridge depth).run moves
    let jar := crossing.traffic.service.cookies
    let executed := crossing.traffic.worker.replies
    jar = service.cookies.storeAll (crossing.stored.map (·.2)) ∧
      executed.map (·.1) = List.range crossing.traffic.worker.issued ∧
      (∀ answer ∈ executed, crossing.storedFor answer.1 = Traffic.cookieTexts answer.2) ∧
      (∀ entry ∈ crossing.stored, entry.1 < crossing.traffic.worker.issued) ∧
      ∀ name, (∀ last ∈ crossing.lastFor? name, ∀ answer ∈ executed, last < answer.1 →
          ∀ text ∈ Traffic.cookieTexts answer.2, CookieJar.speaks name text = false) →
        jar.get? name =
          (service.cookies.storeAll
            (executed.flatMap fun answer => Traffic.cookieTexts answer.2)).get? name := by
  intro crossing jar executed
  have accounted : crossing.Accounted service := (accounted_start service bridge depth).run moves
  obtain ⟨tickets, texts⟩ := accounted.settled answered
  have held : jar = service.cookies.storeAll (crossing.stored.map (·.2)) :=
    congrArg Service.cookies accounted.service
  have stored : ∀ answer ∈ executed,
      crossing.storedFor answer.1 = Traffic.cookieTexts answer.2 := by
    intro answer member
    rw [texts answer member, Traffic.kept, if_pos replays]
  refine ⟨held, tickets, stored, accounted.known, ?_⟩
  intro name last
  let answers := executed.map fun answer => (answer.1, Traffic.cookieTexts answer.2)
  have increasing : answers.Pairwise (·.1 < ·.1) := by
    have order : (executed.map (·.1)).Pairwise (· < ·) := tickets ▸ List.pairwise_lt_range
    exact List.pairwise_map.mpr (List.pairwise_map.mp order)
  have texts : ∀ answer ∈ answers,
      answer.2 = (crossing.stored.filter (·.1 == answer.1)).map (·.2) :=
    List.forall_mem_map.mpr fun answer member => (stored answer member).symm
  have known : ∀ entry ∈ crossing.stored, ∃ answer ∈ answers, answer.1 = entry.1 := by
    intro entry member
    have given : entry.1 ∈ executed.map (·.1) := by
      rw [tickets, List.mem_range]
      exact accounted.known entry member
    obtain ⟨answer, there, same⟩ := List.mem_map.mp given
    exact ⟨_, List.mem_map_of_mem there, same⟩
  have silent : ∀ entry ∈ (crossing.stored.filter fun entry =>
      CookieJar.speaks name entry.2).getLast?, ∀ answer ∈ answers, entry.1 < answer.1 →
        answer.2.filter (CookieJar.speaks name) = [] := by
    intro entry final
    refine List.forall_mem_map.mpr fun answer member later => List.filter_eq_nil_iff.mpr ?_
    intro text set
    simp [last entry.1 (Option.mem_map_of_mem _ final) answer member later text set]
  have ends := getLast?_of_last increasing texts known silent
  simp only [answers, List.flatMap_map] at ends
  have same : ((crossing.stored.map (·.2)).filter (CookieJar.speaks name)).getLast? =
      (crossing.stored.filter fun entry => CookieJar.speaks name entry.2).getLast?.map (·.2) := by
    rw [List.filter_map, List.getLast?_map, Function.comp_def]
  rw [held, CookieJar.get?_storeAll, CookieJar.get?_storeAll, CookieJar.lastAsked?_eq_getLast?,
    CookieJar.lastAsked?_eq_getLast?, ends, same]

/-- Two visits that have their replies, one with a cookie `sid=a` and then one with `sid=b`. -/
def twoVisits : List Move :=
  let host := Bridge.hostOf "s.rhai" "header(\"Set-Cookie: \" + _GET[\"c\"]);"
  [.arrive (Traffic.visit "/?c=sid=a"), .arrive (Traffic.visit "/?c=sid=b"), .submit 0, .work host,
    .submit 1, .work host, .collect 0, .collect 1]

theorem jar_of_stores_of_two_visits :
    let config := Traffic.replayingConfig "s.rhai"
    let moves := twoVisits ++ [.store 0, .store 1, .depart 1, .depart 0]
    config.serve.replayCookies = true ∧
    ∃ crossing, crossing = (start (.ofConfig config.serve)
        (Bridge.new config (Script.Engine.new .standard) (.recording [])) 1).run moves ∧
      crossing.traffic.inFlight = 0 ∧
      crossing.stored = [(0, "sid=a"), (1, "sid=b")] ∧
      crossing.traffic.service.cookies.get? "sid" = some "b" ∧
      (CookieJar.empty.storeAll (crossing.traffic.worker.replies.flatMap fun answer =>
        Traffic.cookieTexts answer.2)).get? "sid" = some "b" := by
  intro config moves
  have run : ((start (.ofConfig config.serve) (Bridge.new config (Script.Engine.new .standard)
        (.recording [])) 1).run moves).traffic.inFlight = 0 ∧
      ((start (.ofConfig config.serve) (Bridge.new config (Script.Engine.new .standard)
        (.recording [])) 1).run moves).stored = [(0, "sid=a"), (1, "sid=b")] ∧
      ((start (.ofConfig config.serve) (Bridge.new config (Script.Engine.new .standard)
        (.recording [])) 1).run moves).traffic.worker.issued = 2 := by decide +kernel
  obtain ⟨held, tickets, -, -, ordered⟩ := jar_of_stores (.ofConfig config.serve)
    (Bridge.new config (Script.Engine.new .standard) (.recording [])) 1 rfl moves run.1
  generalize (start (.ofConfig config.serve) (Bridge.new config (Script.Engine.new .standard)
    (.recording [])) 1).run moves = crossing at run held tickets ordered ⊢
  obtain ⟨answered, stored, issued⟩ := run
  have kept : crossing.traffic.service.cookies.get? "sid" = some "b" := by
    rw [held, stored]
    decide +kernel
  have last : crossing.lastFor? "sid" = some 1 := by
    rw [lastFor?, stored]
    decide +kernel
  have agrees := ordered "sid" fun ticket final answer member later => by
    have given : answer.1 ∈ List.range 2 := issued ▸ tickets ▸ List.mem_map_of_mem member
    obtain rfl : 1 = ticket := Option.some.inj (last.symm.trans final)
    exact absurd (List.mem_range.mp given) (by omega)
  exact ⟨rfl, crossing, rfl, answered, stored, kept, agrees ▸ kept⟩

/-- The second visit stores its cookie first, and the jar keeps that of the first one. -/
theorem jar_not_in_order_of_jobs :
    let config := Traffic.replayingConfig "s.rhai"
    let moves := twoVisits ++ [.store 1, .depart 1, .store 0, .depart 0]
    ∃ crossing, crossing = (start (.ofConfig config.serve)
        (Bridge.new config (Script.Engine.new .standard) (.recording [])) 1).run moves ∧
      crossing.traffic.inFlight = 0 ∧
      crossing.traffic.worker.replies.map (fun answer => Traffic.cookieTexts answer.2) =
        [["sid=a"], ["sid=b"]] ∧
      crossing.traffic.service.cookies.cookies = [("sid", "a")] ∧
      crossing.traffic.service.cookies ≠ CookieJar.empty.storeAll
        (crossing.traffic.worker.replies.flatMap fun answer => Traffic.cookieTexts answer.2) := by
  intro config moves
  have run : ((start (.ofConfig config.serve) (Bridge.new config (Script.Engine.new .standard)
        (.recording [])) 1).run moves).traffic.inFlight = 0 ∧
      ((start (.ofConfig config.serve) (Bridge.new config (Script.Engine.new .standard)
        (.recording [])) 1).run moves).traffic.worker.replies.map
          (fun answer => Traffic.cookieTexts answer.2) = [["sid=a"], ["sid=b"]] ∧
      ((start (.ofConfig config.serve) (Bridge.new config (Script.Engine.new .standard)
        (.recording [])) 1).run moves).traffic.service.cookies.cookies = [("sid", "a")] := by
    decide +kernel
  generalize (start (.ofConfig config.serve) (Bridge.new config (Script.Engine.new .standard)
    (.recording [])) 1).run moves = crossing at run ⊢
  obtain ⟨answered, executed, held⟩ := run
  refine ⟨crossing, rfl, answered, executed, held, fun same => ?_⟩
  rw [same, List.flatMap_def, executed] at held
  exact absurd held (by decide +kernel)

end Crossing

end ScriptBridge
