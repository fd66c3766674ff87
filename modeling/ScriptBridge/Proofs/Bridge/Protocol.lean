import ScriptBridge.Proofs.Bridge.Lifecycle
import ScriptBridge.Recorder

/-! # The order of calls

The calls that a bridge makes on its interpreter are traced, and the trace is held against the order
that interpreters rely on. The order is kept but for one thing: a command shuts the interpreter down
in the middle of a request, if one is active when it comes or if it is refused the standard streams.
-/

namespace ScriptBridge

/-- A call, whether the interpreter was started when it came, and whether it succeeded. -/
structure Event where
  call : Call
  started : Bool
  succeeded : Bool

/-- An interpreter and the calls that it got, the last one first. -/
structure Traced (σ : Type) where
  inner : σ
  trace : List Event

namespace Traced

variable {σ : Type} [Interpreter σ]

/-- A call that the interpreter has come through. -/
def log (call : Call) (succeeded : Bool) (next : σ) (traced : Traced σ) : Traced σ :=
  ⟨next, ⟨call, Interpreter.started traced.inner, succeeded⟩ :: traced.trace⟩

/-- Makes a call that always succeeds. -/
def pass (call : Call) (step : σ → σ) (traced : Traced σ) : Traced σ :=
  traced.log call true (step traced.inner)

/-- Makes a call that can fail. -/
def attempt (call : Call) (step : σ → Except ScriptFault Unit × σ) (traced : Traced σ) :
    Except ScriptFault Unit × Traced σ :=
  let (result, next) := step traced.inner
  (result, traced.log call result.isOk next)

instance : Interpreter (Traced σ) where
  started traced := Interpreter.started traced.inner
  active traced := Interpreter.active traced.inner
  exitStatus traced := Interpreter.exitStatus traced.inner
  crashed traced := Interpreter.crashed traced.inner
  startup options := attempt (.startup options) (Interpreter.startup options)
  declare info := pass (.declare info) (Interpreter.declare info)
  requestStartup := attempt .requestStartup Interpreter.requestStartup
  setSymbol name value := pass (.symbol name value) (Interpreter.setSymbol name value)
  readForm target data := pass (.form target data) (Interpreter.readForm target data)
  attachBody body := pass (.body body) (Interpreter.attachBody body)
  exposeStdout := pass .exposeStdout Interpreter.exposeStdout
  routeStdio := attempt .routeStdio Interpreter.routeStdio
  finishRequestStartup := pass .finish Interpreter.finishRequestStartup
  execute host script traced :=
    let (execution, next) := Interpreter.execute host script traced.inner
    (execution, traced.log (.execute script) execution.outcome.isOk next)
  requestShutdown := pass .requestShutdown Interpreter.requestShutdown
  shutdown := pass .shutdown Interpreter.shutdown

end Traced

/-- How often the last request was torn down that began. None counts if the last request did not
    begin, or if the interpreter was shut down since. -/
def teardowns : List Event → Option Nat
  | [] => none
  | event :: earlier =>
    match event.call with
    | .requestStartup => if event.succeeded then some 0 else none
    | .requestShutdown => (teardowns earlier).map (· + 1)
    | .shutdown => none
    | _ => teardowns earlier

/-- If a request began, it was torn down exactly once. -/
def Settled (trace : List Event) : Prop :=
  teardowns trace = none ∨ teardowns trace = some 1

/-- What an event needs of those before it: only an interpreter that is down is started, requests
    begin one after the other in a started interpreter, and scripts run within a request. -/
def Event.InOrder (earlier : List Event) (event : Event) : Prop :=
  match event.call with
  | .startup _ => event.started = false
  | .requestStartup => event.started = true ∧ Settled earlier
  | .execute _ => teardowns earlier = some 0
  | _ => True

/-- A shutdown does not come in the middle of a request. -/
def Event.EndsWhole (earlier : List Event) (event : Event) : Prop :=
  match event.call with
  | .shutdown => Settled earlier
  | _ => True

/-- Something holds of every event and those before it. -/
def Always (P : List Event → Event → Prop) : List Event → Prop
  | [] => True
  | event :: earlier => P earlier event ∧ Always P earlier

/-- The order of calls that an interpreter relies on. -/
structure FollowsProtocol (trace : List Event) : Prop where
  inOrder : Always Event.InOrder trace
  endsWhole : Always Event.EndsWhole trace

instance (trace : List Event) : Decidable (Settled trace) :=
  inferInstanceAs (Decidable (_ ∨ _))

instance (earlier : List Event) : (event : Event) → Decidable (event.InOrder earlier)
  | ⟨.startup _, started, _⟩ => inferInstanceAs (Decidable (started = false))
  | ⟨.requestStartup, started, _⟩ => inferInstanceAs (Decidable (started = true ∧ Settled earlier))
  | ⟨.execute _, _, _⟩ => inferInstanceAs (Decidable (teardowns earlier = some 0))
  | ⟨.declare _, _, _⟩ | ⟨.symbol _ _, _, _⟩ | ⟨.form _ _, _, _⟩ | ⟨.body _, _, _⟩
  | ⟨.exposeStdout, _, _⟩ | ⟨.routeStdio, _, _⟩ | ⟨.finish, _, _⟩ | ⟨.requestShutdown, _, _⟩
  | ⟨.shutdown, _, _⟩ => isTrue trivial

instance (earlier : List Event) : (event : Event) → Decidable (event.EndsWhole earlier)
  | ⟨.shutdown, _, _⟩ => inferInstanceAs (Decidable (Settled earlier))
  | ⟨.startup _, _, _⟩ | ⟨.declare _, _, _⟩ | ⟨.requestStartup, _, _⟩ | ⟨.symbol _ _, _, _⟩
  | ⟨.form _ _, _, _⟩ | ⟨.body _, _, _⟩ | ⟨.exposeStdout, _, _⟩ | ⟨.routeStdio, _, _⟩
  | ⟨.finish, _, _⟩ | ⟨.execute _, _, _⟩ | ⟨.requestShutdown, _, _⟩ => isTrue trivial

instance decidableAlways (P : List Event → Event → Prop) [∀ earlier, DecidablePred (P earlier)] :
    (trace : List Event) → Decidable (Always P trace)
  | [] => isTrue trivial
  | event :: earlier =>
    have := decidableAlways P earlier
    inferInstanceAs (Decidable (P earlier event ∧ Always P earlier))

instance (trace : List Event) : Decidable (FollowsProtocol trace) :=
  decidable_of_iff (Always Event.InOrder trace ∧ Always Event.EndsWhole trace)
    ⟨fun both => ⟨both.1, both.2⟩, fun follows => ⟨follows.inOrder, follows.endsWhole⟩⟩

/-- What the calls so far are in a phase: within a request it was not torn down, and otherwise it
    was. -/
def Phase.Fits : Phase → List Event → Prop
  | .unstarted, trace | .idle _, trace => Settled trace
  | .active _, trace => teardowns trace = some 0

variable {σ : Type} [Interpreter σ]

/-- The calls came in order, and shutdowns did not come in the middle of a request just if `whole`
    holds. -/
structure Orderly (whole : Prop) (_ : Directory) (phase : Phase) (traced : Traced σ) : Prop where
  flags : Interpreter.flags traced.inner = phase.flags
  inOrder : Always Event.InOrder traced.trace
  endsWhole : Always Event.EndsWhole traced.trace ↔ whole
  fits : phase.Fits traced.trace

section

variable {whole : Prop} {directory : Directory} {phase next : Phase} {traced : Traced σ}

theorem Orderly.log (orderly : Orderly whole directory phase traced) {call : Call}
    {succeeded : Bool} {inner : σ} (flags : Interpreter.flags inner = next.flags)
    (inOrder : Event.InOrder traced.trace ⟨call, phase.flags.1, succeeded⟩)
    (endsWhole : Event.EndsWhole traced.trace ⟨call, phase.flags.1, succeeded⟩)
    (fits : next.Fits (⟨call, phase.flags.1, succeeded⟩ :: traced.trace)) :
    Orderly whole directory next (traced.log call succeeded inner) := by
  have started : Interpreter.started traced.inner = phase.flags.1 :=
    congrArg Prod.fst orderly.flags
  simp only [Traced.log, started]
  refine ⟨flags, ⟨inOrder, orderly.inOrder⟩, ?_, fits⟩
  exact (and_iff_right endsWhole).trans orderly.endsWhole

theorem Orderly.log_within (orderly : Orderly whole directory phase traced) {call : Call}
    {succeeded : Bool} {inner : σ} (flags : Interpreter.flags inner = Interpreter.flags traced.inner)
    (inOrder : ∀ started, Event.InOrder traced.trace ⟨call, started, succeeded⟩)
    (endsWhole : ∀ started, Event.EndsWhole traced.trace ⟨call, started, succeeded⟩)
    (same : ∀ started, teardowns (⟨call, started, succeeded⟩ :: traced.trace) =
      teardowns traced.trace) :
    Orderly whole directory phase (traced.log call succeeded inner) := by
  refine orderly.log (flags.trans orderly.flags) (inOrder _) (endsWhole _) ?_
  have fits := orderly.fits
  cases phase <;> simpa only [Phase.Fits, Settled, same] using fits

theorem Orderly.attempt {bad : Phase} {call : Call} {step : σ → Except ScriptFault Unit × σ}
    (orderly : Orderly whole directory phase traced)
    (leads : Leads (step traced.inner) (Interpreter.flags · = next.flags)
      (Interpreter.flags · = bad.flags))
    (inOrder : ∀ succeeded, Event.InOrder traced.trace ⟨call, phase.flags.1, succeeded⟩)
    (endsWhole : ∀ succeeded, Event.EndsWhole traced.trace ⟨call, phase.flags.1, succeeded⟩)
    (good : next.Fits (⟨call, phase.flags.1, true⟩ :: traced.trace))
    (failed : bad.Fits (⟨call, phase.flags.1, false⟩ :: traced.trace)) :
    Leads (traced.attempt call step) (Orderly whole directory next)
      (Orderly whole directory bad) := by
  simp only [Traced.attempt]
  rcases called : step traced.inner with ⟨result, inner⟩
  rw [called] at leads
  cases result with
  | ok => exact orderly.log leads (inOrder _) (endsWhole _) good
  | error => exact orderly.log leads (inOrder _) (endsWhole _) failed

end

theorem orderly_phaseInvariant [LawfulInterpreter σ] (whole : Prop) (ini : Table String) :
    PhaseInvariant ini (fun _ => True) (Orderly (σ := σ) whole) where
  flags orderly := orderly.flags
  relocate orderly := ⟨orderly.flags, orderly.inOrder, orderly.endsWhole, orderly.fits⟩
  startup _ orderly :=
    orderly.attempt (LawfulInterpreter.startup _ _ orderly.flags) (fun _ => rfl)
      (fun _ => trivial) orderly.fits orderly.fits
  declare orderly :=
    orderly.log_within (LawfulInterpreter.declare _ _) (fun _ => trivial) (fun _ => trivial)
      fun _ => rfl
  requestStartup orderly :=
    orderly.attempt (LawfulInterpreter.requestStartup _ orderly.flags)
      (fun _ => ⟨rfl, orderly.fits⟩) (fun _ => trivial) rfl (Or.inl rfl)
  setSymbol orderly :=
    orderly.log_within (LawfulInterpreter.setSymbol _ _ _) (fun _ => trivial) (fun _ => trivial)
      fun _ => rfl
  readForm orderly :=
    orderly.log_within (LawfulInterpreter.readForm _ _ _) (fun _ => trivial) (fun _ => trivial)
      fun _ => rfl
  attachBody orderly :=
    orderly.log_within (LawfulInterpreter.attachBody _ _) (fun _ => trivial) (fun _ => trivial)
      fun _ => rfl
  exposeStdout orderly :=
    orderly.log_within (LawfulInterpreter.exposeStdout _) (fun _ => trivial) (fun _ => trivial)
      fun _ => rfl
  routeStdio orderly :=
    orderly.log_within (LawfulInterpreter.routeStdio _) (fun _ => trivial) (fun _ => trivial)
      fun _ => rfl
  finishRequestStartup orderly :=
    orderly.log_within (LawfulInterpreter.finishRequestStartup _) (fun _ => trivial)
      (fun _ => trivial) fun _ => rfl
  execute _ orderly :=
    orderly.log_within (LawfulInterpreter.execute _ _ _) (fun _ => orderly.fits)
      (fun _ => trivial) fun _ => rfl
  requestShutdown {_ purpose _} orderly := by
    refine orderly.log (LawfulInterpreter.requestShutdown _ orderly.flags) trivial trivial
      (Or.inr ?_)
    have begun : teardowns _ = some 0 := orderly.fits
    simp [teardowns, begun]
  shutdown orderly :=
    orderly.log (LawfulInterpreter.shutdown _ (congrArg Prod.fst orderly.flags)) trivial
      orderly.fits (Or.inl rfl)

/-- An interpreter that is shut down in the middle of a request sees a shutdown too early. -/
theorem orderly_cutOff [LawfulInterpreter σ] (whole : Prop) :
    CutOff (Orderly (σ := σ) whole) (Orderly False) := by
  intro directory purpose traced orderly
  refine ⟨LawfulInterpreter.shutdown _ (congrArg Prod.fst orderly.flags),
    ⟨trivial, orderly.inOrder⟩, ?_, Or.inl rfl⟩
  have begun : teardowns traced.trace = some 0 := orderly.fits
  refine ⟨fun always => ?_, False.elim⟩
  rcases always.1 with none | one
  · exact absurd (begun.symm.trans none) (by simp)
  · exact absurd (begun.symm.trans one) (by simp)

namespace Bridge

/-- No operation of a history shuts the interpreter down in the middle of a request. -/
def NeverCutsOff (bridge : Bridge σ) : List (Surroundings × Operation) → Prop
  | [] => True
  | (host, operation) :: history =>
    ¬ operation.CutsOff bridge ∧ NeverCutsOff (bridge.perform host operation).2 history

/-- What is left of an invariant after a history, that some operation may have cut a request off
    in. -/
theorem Rests.performAll_cutOff {config : Config} {hosts : Surroundings → Prop}
    {Inv Inv' : Directory → Phase → σ → Prop} {bridge : Bridge σ}
    (rules : PhaseInvariant config.interpreter.ini hosts Inv)
    (rules' : PhaseInvariant config.interpreter.ini hosts Inv') (cut : CutOff Inv Inv')
    (cut' : CutOff Inv' Inv') (history : List (Surroundings × Operation))
    (known : ∀ entry ∈ history, hosts entry.1) (rests : bridge.Rests config Inv) :
    (bridge.NeverCutsOff history → (bridge.performAll history).Rests config Inv) ∧
      (¬ bridge.NeverCutsOff history → (bridge.performAll history).Rests config Inv') := by
  induction history generalizing bridge with
  | nil => exact ⟨fun _ => rests, fun cuts => absurd trivial cuts⟩
  | cons entry history ih =>
      have host := known entry List.mem_cons_self
      have later : ∀ entry ∈ history, hosts entry.1 :=
        fun entry member => known entry (List.mem_cons_of_mem _ member)
      by_cases cuts : entry.2.CutsOff bridge
      · -- From here on only `Inv'` is kept, whatever the later operations do.
        have first := rests.perform_of_cutsOff rules rules' cut cut' host entry.2 cuts
        have left := first.performAll rules' cut' later
        exact ⟨fun never => absurd cuts never.1, fun _ => left⟩
      · have first := rests.perform rules host entry.2 cuts
        obtain ⟨kept, left⟩ := ih later first
        exact ⟨fun never => kept never.2, fun some => left fun never => some ⟨cuts, never⟩⟩

/-- All calls come in order but for shutdowns, and shutdowns do too just if no command cuts a
    request off. -/
theorem followsProtocol_iff [LawfulInterpreter σ] (config : Config) (interpreter : σ)
    (fresh : Interpreter.flags interpreter = (false, false)) (env : Environment)
    (history : List (Surroundings × Operation)) :
    let start := Bridge.new config (⟨interpreter, []⟩ : Traced σ) env
    let trace := (start.performAll history).interpreter.trace
    Always Event.InOrder trace ∧ (FollowsProtocol trace ↔ start.NeverCutsOff history) := by
  intro start trace
  have rests : start.Rests config (Orderly True) :=
    rests_new ⟨fresh, trivial, iff_of_true trivial trivial, Or.inl rfl⟩
  obtain ⟨kept, left⟩ := rests.performAll_cutOff (orderly_phaseInvariant True _)
    (orderly_phaseInvariant False _) (orderly_cutOff True) (orderly_cutOff False)
    history fun _ _ => trivial
  by_cases never : start.NeverCutsOff history
  · obtain ⟨⟨phase, -, holds⟩, -⟩ := kept never
    have orderly := holds.interpreter
    exact ⟨orderly.inOrder, iff_of_true ⟨orderly.inOrder, orderly.endsWhole.2 trivial⟩ never⟩
  · obtain ⟨⟨phase, -, holds⟩, -⟩ := left never
    have orderly := holds.interpreter
    exact ⟨orderly.inOrder,
      iff_of_false (fun follows => orderly.endsWhole.1 follows.endsWhole) never⟩

/-- The order of calls on the script engine, with a request that is never run and then a command. -/
theorem followsProtocol_iff_of_engine :
    Interpreter.flags (Script.Engine.new .standard) = (false, false) ∧
      let start := Bridge.new .standard (⟨.new .standard, []⟩ : Traced Script.Engine) (.recording [])
      let history := [(⟨.empty, [], 0⟩, .setRequestInfo ⟨"GET", "/", none, none⟩),
        (⟨.empty, [], 0⟩, .runOnce ⟨"GET", "/", none, none⟩ "index.rhai"),
        (⟨.empty, [], 0⟩, .runCommand "list" "/app/public")]
      let trace := (start.performAll history).interpreter.trace
      Always Event.InOrder trace ∧ (FollowsProtocol trace ↔ start.NeverCutsOff history) :=
  ⟨rfl, followsProtocol_iff _ _ rfl _ _⟩

/-- A command takes the place of a request that was never run: the request is not torn down. -/
theorem not_followsProtocol_of_abandoned_request :
    ¬ FollowsProtocol
      ((Bridge.new .standard
          (⟨.new [.emit (.body (utf8 "x"))] ⟨false, false, false⟩, []⟩ : Traced Recorder)
          (.recording [])).performAll
        [(⟨.empty, [], 0⟩, .setRequestInfo ⟨"GET", "/", none, none⟩),
          (⟨.empty, [], 0⟩, .runCommand "list" "/app/public")]).interpreter.trace := by
  decide +kernel

end Bridge

end ScriptBridge
