import ScriptBridge.Proofs.Server.Handling

/-! # Crossing requests

The last move of a request, taken apart: a request that has its reply stores the cookies of the
reply one by one, and what others do can come between any two of them. If nothing comes in between,
the parts come to the whole move again.
-/

namespace ScriptBridge

namespace Traffic

variable {σ : Type}

/-- The texts of the cookies that a reply sets. -/
def cookieTexts : Except WorkerFault Reply → List String
  | .error _ => []
  | .ok reply =>
    match Message.parse reply.bytes with
    | .error _ => []
    | .ok message => message.headerValues "Set-Cookie"

def responseTo : Except WorkerFault Reply → Response
  | .error fault => fault.toBridge.response
  | .ok reply =>
    match Message.parse reply.bytes with
    | .error fault => fault.toBridge.response
    | .ok message =>
      match message.toResponse with
      | .error fault => fault.toBridge.response
      | .ok response => response

/-- The texts of a reply that a service stores. -/
def kept (service : Service) (reply : Except WorkerFault Reply) : List String :=
  if service.replayCookies then cookieTexts reply else []

theorem conclude_eq (n : Nat) (reply : Except WorkerFault Reply) (traffic : Traffic σ) :
    traffic.conclude n reply =
      { traffic with service := { traffic.service with
          cookies := traffic.service.cookies.storeAll (kept traffic.service reply) } }.move n
        (.answered (responseTo reply)) := by
  obtain ⟨⟨script, size, replays, cookies⟩, worker, arrived, passages⟩ := traffic
  have nothing : cookies.storeAll [] = cookies := rfl
  cases reply with
  | error fault => simp [conclude, kept, cookieTexts, responseTo, nothing]
  | ok reply =>
      cases read : Message.parse reply.bytes with
      | error fault =>
          simp [conclude, Service.receive, kept, cookieTexts, responseTo, read, nothing]
      | ok message =>
          simp only [conclude, Service.receive, Service.keepCookies, kept, cookieTexts, responseTo,
            read]
          cases message.toResponse with
          | error fault => cases replays <;> rfl
          | ok response => cases replays <;> rfl

theorem exists_arrive_eq (incoming : Incoming) (traffic : Traffic σ) :
    ∃ passage, (traffic.arrive incoming).2 =
        { traffic with arrived := traffic.arrived + 1 }.move traffic.arrived passage ∧
      ∀ ticket, passage ≠ .waiting ticket := by
  simp only [arrive]
  split
  · exact ⟨_, rfl, by simp⟩
  · exact ⟨_, rfl, by simp⟩

/-- The ticket that a request waits with. -/
def ticket? (n : Nat) (traffic : Traffic σ) : Option Nat :=
  match traffic.passage? n with
  | some (.waiting ticket) => some ticket
  | _ => none

theorem ticket?_eq_some_iff {n ticket : Nat} {traffic : Traffic σ} :
    traffic.ticket? n = some ticket ↔ traffic.passage? n = some (.waiting ticket) := by
  simp only [ticket?]
  split
  · next found => simp [found]
  · next other =>
      simp only [reduceCtorEq, false_iff]
      exact other ticket

theorem ticket?_move_of_ne {n m : Nat} (other : m ≠ n) (passage : Passage)
    (traffic : Traffic σ) : (traffic.move n passage).ticket? m = traffic.ticket? m := by
  rw [ticket?, ticket?, passage?_move_of_ne other]

theorem ticket?_eq_none_of_inFlight {traffic : Traffic σ} (none : traffic.inFlight = 0) (n : Nat) :
    traffic.ticket? n = .none := by
  rw [Option.eq_none_iff_forall_ne_some]
  intro ticket waits
  obtain ⟨entry, found, passage⟩ := Option.map_eq_some_iff.mp (ticket?_eq_some_iff.mp waits)
  have never := List.countP_eq_zero.mp none entry (List.mem_of_find?_eq_some found)
  obtain ⟨m, at_m⟩ := entry
  obtain rfl : at_m = .waiting ticket := passage
  exact never rfl

end Traffic

/-- What a request does that has its reply: it stores the texts that are left, then it departs. -/
structure Storing where
  ticket : Nat
  left : List String
  response : Response

/-- Traffic whose requests store their cookies one by one, and the texts that were stored so far,
    each with the ticket of its reply. -/
structure Crossing (σ : Type) where
  traffic : Traffic σ
  storing : Nat → Option Storing
  stored : List (Nat × String)

namespace Crossing

variable {σ : Type}

/-- A request goes over to another part of its work. -/
def turn (n : Nat) (part : Option Storing) (crossing : Crossing σ) : Crossing σ :=
  { crossing with storing := fun m => if m = n then part else crossing.storing m }

/-- A text goes into the jar. -/
def put (ticket : Nat) (text : String) (crossing : Crossing σ) : Crossing σ :=
  let service := { crossing.traffic.service with
    cookies := crossing.traffic.service.cookies.store text }
  { crossing with
    traffic := { crossing.traffic with service }
    stored := crossing.stored ++ [(ticket, text)] }

def putAll (ticket : Nat) (texts : List String) (crossing : Crossing σ) : Crossing σ :=
  let service := { crossing.traffic.service with
    cookies := crossing.traffic.service.cookies.storeAll texts }
  { crossing with
    traffic := { crossing.traffic with service }
    stored := crossing.stored ++ texts.map (ticket, ·) }

/-- A request takes its reply. -/
def collect (n : Nat) (crossing : Crossing σ) : Crossing σ :=
  match crossing.storing n, crossing.traffic.ticket? n with
  | none, some ticket =>
    match crossing.traffic.worker.reply? ticket with
    | some reply => crossing.turn n (some
        ⟨ticket, Traffic.kept crossing.traffic.service reply, Traffic.responseTo reply⟩)
    | none => crossing
  | _, _ => crossing

/-- A request stores the next of its texts. The jar is locked for no more than this. -/
def store (n : Nat) (crossing : Crossing σ) : Crossing σ :=
  match crossing.storing n with
  | some ⟨ticket, text :: left, response⟩ =>
    (crossing.put ticket text).turn n (some ⟨ticket, left, response⟩)
  | _ => crossing

/-- A request that has stored its texts gives its response. -/
def depart (n : Nat) (crossing : Crossing σ) : Crossing σ :=
  match crossing.storing n with
  | some ⟨_, [], response⟩ =>
    { crossing with traffic := crossing.traffic.move n (.answered response) }.turn n none
  | _ => crossing

inductive Move where
  | arrive (incoming : Incoming)
  | submit (n : Nat)
  | work (host : Surroundings)
  /-- Someone wants the worker to end. The service has a handle of it, so that its work does not
      end for want of handles. -/
  | stop
  | collect (n : Nat)
  | store (n : Nat)
  | depart (n : Nat)

def step [Interpreter σ] (move : Move) (crossing : Crossing σ) : Crossing σ :=
  match move with
  | .arrive incoming => { crossing with traffic := (crossing.traffic.arrive incoming).2 }
  | .submit n => { crossing with traffic := crossing.traffic.submit n }
  | .work host => { crossing with traffic := crossing.traffic.work host }
  | .stop => { crossing with
      traffic := { crossing.traffic with worker := crossing.traffic.worker.offerStop } }
  | .collect n => crossing.collect n
  | .store n => crossing.store n
  | .depart n => crossing.depart n

def run [Interpreter σ] (moves : List Move) (crossing : Crossing σ) : Crossing σ :=
  moves.foldl (fun crossing move => crossing.step move) crossing

/-- A service over a worker that was just started. -/
def start (service : Service) (bridge : Bridge σ) (depth : Nat) : Crossing σ :=
  ⟨.new service (.spawn bridge depth), fun _ => none, []⟩

/-- The texts that were stored for a ticket. -/
def storedFor (ticket : Nat) (crossing : Crossing σ) : List String :=
  (crossing.stored.filter (·.1 == ticket)).map (·.2)

variable {crossing : Crossing σ} {n ticket : Nat} {left : List String} {response : Response}

theorem storing_turn (n m : Nat) (part : Option Storing) (crossing : Crossing σ) :
    (crossing.turn n part).storing m = if m = n then part else crossing.storing m := rfl

@[simp] theorem traffic_turn (n : Nat) (part : Option Storing) (crossing : Crossing σ) :
    (crossing.turn n part).traffic = crossing.traffic := rfl

@[simp] theorem stored_turn (n : Nat) (part : Option Storing) (crossing : Crossing σ) :
    (crossing.turn n part).stored = crossing.stored := rfl

@[simp] theorem storedFor_turn (n ticket : Nat) (part : Option Storing) (crossing : Crossing σ) :
    (crossing.turn n part).storedFor ticket = crossing.storedFor ticket := rfl

@[simp] theorem stored_put (ticket : Nat) (text : String) (crossing : Crossing σ) :
    (crossing.put ticket text).stored = crossing.stored ++ [(ticket, text)] := by
  simp only [put]

@[simp] theorem storing_put (ticket : Nat) (text : String) (crossing : Crossing σ) :
    (crossing.put ticket text).storing = crossing.storing := by
  simp only [put]

@[simp] theorem worker_put (ticket : Nat) (text : String) (crossing : Crossing σ) :
    (crossing.put ticket text).traffic.worker = crossing.traffic.worker := by
  simp only [put]

@[simp] theorem arrived_put (ticket : Nat) (text : String) (crossing : Crossing σ) :
    (crossing.put ticket text).traffic.arrived = crossing.traffic.arrived := by
  simp only [put]

@[simp] theorem passage?_put (ticket n : Nat) (text : String) (crossing : Crossing σ) :
    (crossing.put ticket text).traffic.passage? n = crossing.traffic.passage? n := by
  simp only [put, Traffic.passage?]

@[simp] theorem ticket?_put (ticket n : Nat) (text : String) (crossing : Crossing σ) :
    (crossing.put ticket text).traffic.ticket? n = crossing.traffic.ticket? n := by
  simp only [Traffic.ticket?, passage?_put]

theorem turn_turn (n : Nat) (part next : Option Storing) (crossing : Crossing σ) :
    (crossing.turn n part).turn n next = crossing.turn n next := by
  simp only [turn, Crossing.mk.injEq, true_and, and_true]
  funext m
  split
  · rfl
  · rfl

theorem turn_of_eq {part : Option Storing} (already : crossing.storing n = part) :
    crossing.turn n part = crossing := by
  have same : (fun m => if m = n then part else crossing.storing m) = crossing.storing := by
    funext m
    split
    · next at_n => rw [at_n, already]
    · rfl
  rw [turn, same]

theorem collect_of_reply (idle : crossing.storing n = none)
    (waits : crossing.traffic.ticket? n = some ticket) {reply : Except WorkerFault Reply}
    (replied : crossing.traffic.worker.reply? ticket = some reply) :
    crossing.collect n = crossing.turn n (some
      ⟨ticket, Traffic.kept crossing.traffic.service reply, Traffic.responseTo reply⟩) := by
  simp only [collect, idle, waits, replied]

theorem store_of_cons {text : String}
    (part : crossing.storing n = some ⟨ticket, text :: left, response⟩) :
    crossing.store n = (crossing.put ticket text).turn n (some ⟨ticket, left, response⟩) := by
  simp only [store, part]

theorem depart_of_nil (part : crossing.storing n = some ⟨ticket, [], response⟩) :
    crossing.depart n =
      { crossing with traffic := crossing.traffic.move n (.answered response) }.turn n none := by
  simp only [depart, part]

theorem putAll_nil (ticket : Nat) (crossing : Crossing σ) :
    crossing.putAll ticket [] = crossing := by
  simp [putAll, CookieJar.storeAll]

theorem putAll_cons (ticket : Nat) (text : String) (texts : List String) (crossing : Crossing σ) :
    crossing.putAll ticket (text :: texts) = (crossing.put ticket text).putAll ticket texts := by
  simp [putAll, put, CookieJar.storeAll]

section

variable [Interpreter σ]

theorem run_store (part : crossing.storing n = some ⟨ticket, left, response⟩) :
    crossing.run (List.replicate left.length (.store n)) =
      (crossing.putAll ticket left).turn n (some ⟨ticket, [], response⟩) := by
  induction left generalizing crossing with
  | nil => rw [putAll_nil, turn_of_eq part]; rfl
  | cons text left ih =>
      have first : crossing.step (.store n) =
          (crossing.put ticket text).turn n (some ⟨ticket, left, response⟩) := store_of_cons part
      calc crossing.run (List.replicate (left.length + 1) (.store n))
        _ = (crossing.step (.store n)).run (List.replicate left.length (.store n)) := rfl
        _ = ((crossing.step (.store n)).putAll ticket left).turn n
              (some ⟨ticket, [], response⟩) := ih (by rw [first, storing_turn, if_pos rfl])
        _ = (((crossing.put ticket text).putAll ticket left).turn n
              (some ⟨ticket, left, response⟩)).turn n (some ⟨ticket, [], response⟩) := by
            rw [first]
            rfl
        _ = _ := by rw [turn_turn, putAll_cons]

/-- The moves of a request from its reply on. -/
def settling (n count : Nat) : List Move :=
  Move.collect n :: (List.replicate count (Move.store n) ++ [Move.depart n])

/-- If nothing comes in between they come to the last move of a request. -/
theorem run_settling (idle : crossing.storing n = none)
    (waits : crossing.traffic.ticket? n = some ticket) {reply : Except WorkerFault Reply}
    (replied : crossing.traffic.worker.reply? ticket = some reply) :
    let texts := Traffic.kept crossing.traffic.service reply
    crossing.run (settling n texts.length) =
      { crossing with
        traffic := crossing.traffic.finish n
        stored := crossing.stored ++ texts.map (ticket, ·) } := by
  intro texts
  let first : Storing := ⟨ticket, texts, Traffic.responseTo reply⟩
  let last : Storing := ⟨ticket, [], Traffic.responseTo reply⟩
  let settled := { crossing.putAll ticket texts with traffic := crossing.traffic.finish n }
  have finished : crossing.traffic.finish n =
      (crossing.putAll ticket texts).traffic.move n (.answered last.response) := by
    have concluded : crossing.traffic.finish n = crossing.traffic.conclude n reply := by
      simp only [Traffic.finish, Traffic.ticket?_eq_some_iff.mp waits, replied]
    exact concluded.trans (Traffic.conclude_eq n reply crossing.traffic)
  calc crossing.run (settling n texts.length)
    _ = ((crossing.turn n (some first)).run (List.replicate texts.length (.store n))).depart n := by
        simp only [settling, run, List.foldl_cons, List.foldl_append, List.foldl_nil, step,
          collect_of_reply idle waits replied]
        rfl
    _ = (((crossing.turn n (some first)).putAll ticket texts).turn n (some last)).depart n := by
        rw [run_store (storing_turn _ _ _ _ |>.trans (if_pos rfl))]
    _ = ((settled.turn n (some first)).turn n (some last)).turn n none := by
        rw [depart_of_nil (storing_turn _ _ _ _ |>.trans (if_pos rfl))]
        simp only [settled, finished]
        rfl
    _ = settled.turn n none := by rw [turn_turn, turn_turn]
    _ = settled := turn_of_eq idle

end

end Crossing

end ScriptBridge
