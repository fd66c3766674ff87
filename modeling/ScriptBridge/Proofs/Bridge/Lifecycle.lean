import ScriptBridge.Proofs.Bridge.Resting
import ScriptBridge.Script.Engine

/-! # The states of a bridge

A bridge keeps a state of its own beside the two flags of its interpreter. Over an interpreter that
keeps its contract the two always agree when an operation returns, whichever of the steps failed.
-/

namespace ScriptBridge

/-- The contract of an interpreter on its two flags. Calls that can fail may fail at any time. -/
class LawfulInterpreter (σ : Type) [Interpreter σ] : Prop where
  startup (options : StartupOptions) (i : σ) : Interpreter.flags i = (false, false) →
    Leads (Interpreter.startup options i)
      (Interpreter.flags · = (true, false)) (Interpreter.flags · = (false, false))
  requestStartup (i : σ) : Interpreter.flags i = (true, false) →
    Leads (Interpreter.requestStartup i)
      (Interpreter.flags · = (true, true)) (Interpreter.flags · = (true, false))
  requestShutdown (i : σ) : Interpreter.flags i = (true, true) →
    Interpreter.flags (Interpreter.requestShutdown i) = (true, false)
  shutdown (i : σ) : Interpreter.started i = true →
    Interpreter.flags (Interpreter.shutdown i) = (false, false)
  execute (host : Surroundings) (script : String) (i : σ) :
    Interpreter.flags (Interpreter.execute host script i).2 = Interpreter.flags i
  declare (info : RequestInfo) (i : σ) :
    Interpreter.flags (Interpreter.declare info i) = Interpreter.flags i
  setSymbol (name : String) (value : Value) (i : σ) :
    Interpreter.flags (Interpreter.setSymbol name value i) = Interpreter.flags i
  readForm (target : FormTarget) (data : Bytes) (i : σ) :
    Interpreter.flags (Interpreter.readForm target data i) = Interpreter.flags i
  attachBody (body : Bytes) (i : σ) :
    Interpreter.flags (Interpreter.attachBody body i) = Interpreter.flags i
  exposeStdout (i : σ) : Interpreter.flags (Interpreter.exposeStdout i) = Interpreter.flags i
  routeStdio (i : σ) : Interpreter.flags (Interpreter.routeStdio i).2 = Interpreter.flags i
  finishRequestStartup (i : σ) :
    Interpreter.flags (Interpreter.finishRequestStartup i) = Interpreter.flags i

namespace Script.Engine

theorem flags_conclude (emissions : List Emission) (outcome : Except ScriptFault Unit)
    (engine : Engine) :
    Interpreter.flags (engine.conclude emissions outcome).2 = Interpreter.flags engine := by
  cases outcome with
  | ok => rfl
  | error => rfl

theorem flags_load (host : Surroundings) (path : String) (engine : Engine) :
    Interpreter.flags (engine.load host path).2 = Interpreter.flags engine := by
  simp only [load]
  split
  · rfl
  · split
    · rfl
    · split <;> rfl

theorem flags_execute (host : Surroundings) (path : String) (engine : Engine) :
    Interpreter.flags (engine.execute host path).2 = Interpreter.flags engine := by
  have loaded := flags_load host path engine
  simp only [execute]
  split
  · rfl
  · split
    · rfl
    · split
      · next called =>
          rw [called] at loaded
          rw [flags_conclude, loaded]
      · next called =>
          rw [called] at loaded
          rw [runProgram, flags_conclude]
          exact loaded

instance : LawfulInterpreter Engine where
  startup options engine unstarted := by
    have down : engine.started = false := congrArg Prod.fst unstarted
    have inactive : engine.active = false := congrArg Prod.snd unstarted
    simp only [Interpreter.startup, startup, down]
    cases Settings.ofTable options.ini with
    | ok settings => simp [Leads, Interpreter.flags, Interpreter.started, Interpreter.active,
        inactive]
    | error fault => exact unstarted
  requestStartup engine idle := by
    have up : engine.started = true := congrArg Prod.fst idle
    simp [Interpreter.requestStartup, requestStartup, up, Leads, Interpreter.flags,
      Interpreter.started, Interpreter.active]
  requestShutdown engine active := by
    have up : engine.started = true := congrArg Prod.fst active
    simp [Interpreter.flags, Interpreter.started, Interpreter.active,
      Interpreter.requestShutdown, requestShutdown, up]
  shutdown engine _ := by
    simp only [Interpreter.flags, Interpreter.started, Interpreter.active, Interpreter.shutdown,
      shutdown]
    split
    · rfl
    · next inactive => simpa using inactive
  execute := flags_execute
  declare _ _ := rfl
  setSymbol _ _ _ := rfl
  readForm _ _ _ := rfl
  attachBody _ _ := rfl
  exposeStdout _ := rfl
  routeStdio engine := by
    simp only [Interpreter.routeStdio, routeStdio]
    split <;> rfl
  finishRequestStartup _ := rfl

end Script.Engine

variable {σ : Type} [Interpreter σ]

/-- An interpreter in a phase has the flags of the phase. -/
def HasFlags (_ : Directory) (phase : Phase) (interpreter : σ) : Prop :=
  Interpreter.flags interpreter = phase.flags

theorem hasFlags_phaseInvariant [LawfulInterpreter σ] (ini : Table String) :
    PhaseInvariant ini (fun _ => True) (HasFlags (σ := σ)) where
  flags holds := holds
  relocate holds := holds
  startup _ holds := LawfulInterpreter.startup _ _ holds
  declare holds := (LawfulInterpreter.declare _ _).trans holds
  requestStartup holds := LawfulInterpreter.requestStartup _ holds
  setSymbol holds := (LawfulInterpreter.setSymbol _ _ _).trans holds
  readForm holds := (LawfulInterpreter.readForm _ _ _).trans holds
  attachBody holds := (LawfulInterpreter.attachBody _ _).trans holds
  exposeStdout holds := (LawfulInterpreter.exposeStdout _).trans holds
  routeStdio holds := (LawfulInterpreter.routeStdio _).trans holds
  finishRequestStartup holds := (LawfulInterpreter.finishRequestStartup _).trans holds
  execute _ holds := (LawfulInterpreter.execute _ _ _).trans holds
  requestShutdown holds := LawfulInterpreter.requestShutdown _ holds
  shutdown holds := LawfulInterpreter.shutdown _ (congrArg Prod.fst holds)

theorem hasFlags_cutOff [LawfulInterpreter σ] : CutOff (HasFlags (σ := σ)) HasFlags :=
  fun _ _ _ holds => LawfulInterpreter.shutdown _ (congrArg Prod.fst holds)

namespace Bridge

/-- The state of a bridge, the flags of its interpreter and the buffers of its capture agree. -/
structure Consistent (bridge : Bridge σ) : Prop where
  resting : bridge.state.isResting = true
  warm : bridge.state = .warm → bridge.started = true ∧ bridge.active = false
  requestActive : bridge.state = .requestActive → bridge.started = true ∧ bridge.active = true
  unstarted : bridge.state = .uninitialized ∨ bridge.state = .shutdown →
    bridge.started = false ∧ bridge.active = false
  released : bridge.state = .shutdown →
    bridge.capture.body.capacity = 0 ∧ bridge.capture.headers.fields.capacity = 0

theorem Rests.consistent {config : Config} {bridge : Bridge σ}
    (rests : bridge.Rests config HasFlags) : bridge.Consistent := by
  obtain ⟨⟨phase, told, holds⟩, released⟩ := rests
  have flags : (bridge.started, bridge.active) = phase.flags := holds.interpreter
  refine ⟨LifecycleState.isResting_of_phase? told, ?_, ?_, ?_, released⟩
  · intro state
    rw [state] at told
    obtain rfl := Option.some.inj told
    exact Prod.mk.inj flags
  · intro state
    rw [state] at told
    obtain rfl := Option.some.inj told
    exact Prod.mk.inj flags
  · intro state
    rcases state with state | state
    all_goals
      rw [state] at told
      obtain rfl := Option.some.inj told
      exact Prod.mk.inj flags

theorem shutdown_of_down {bridge : Bridge σ} (state : bridge.state = .shutdown)
    (unstarted : bridge.started = false) : bridge.shutdown = bridge := by
  simp [shutdown, state, unstarted]

/-- The state, the flags and the buffers agree after every history of operations, and a second
    shutdown changes nothing. -/
theorem consistent_after_history [LawfulInterpreter σ] (config : Config) (interpreter : σ)
    (fresh : Interpreter.flags interpreter = (false, false)) (env : Environment)
    (history : List (Surroundings × Operation)) :
    let bridge := (Bridge.new config interpreter env).performAll history
    bridge.Consistent ∧ bridge.shutdown.Consistent ∧
      bridge.shutdown.shutdown = bridge.shutdown := by
  have rules := hasFlags_phaseInvariant (σ := σ) config.interpreter.ini
  have rests : ((Bridge.new config interpreter env).performAll history).Rests config HasFlags :=
    (rests_new fresh).performAll rules hasFlags_cutOff fun _ _ => trivial
  obtain ⟨down, state⟩ := rests.shutdown rules
  have consistent := down.consistent
  exact ⟨rests.consistent, consistent,
    shutdown_of_down state (consistent.unstarted (Or.inr state)).1⟩

/-- The script engine, a request that is never run, and a command that takes its place. -/
theorem consistent_after_abandoned_request :
    Interpreter.flags (Script.Engine.new .standard) = (false, false) ∧
      let bridge := (Bridge.new .standard (Script.Engine.new .standard) (.recording [])).performAll
        [(⟨.empty, [], 0⟩, .setRequestInfo ⟨"GET", "/", none, none⟩),
          (⟨.empty, [], 0⟩, .runCommand "list" "/app/public")]
      bridge.Consistent ∧ bridge.shutdown.Consistent ∧
        bridge.shutdown.shutdown = bridge.shutdown :=
  ⟨rfl, consistent_after_history _ _ rfl _ _⟩

end Bridge

end ScriptBridge
