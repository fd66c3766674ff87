import ScriptBridge.Bridge.Operation
import ScriptBridge.Proofs.Capture.Keeping

/-! # Phases of an interpreter

A bridge leads its interpreter through phases: it is started for requests or for one command, and
while it is started a request is active in it or not. A phase invariant says something about the
interpreter in each phase, and one rule for each call says that the call keeps it. From the rules
follows what holds of the interpreter of a bridge after any history (`Rests.performAll`).
-/

namespace ScriptBridge

/-- What an interpreter was started for. -/
inductive Purpose where
  | requests
  | command
  deriving Repr, DecidableEq

/-- Where an interpreter stands between two calls. -/
inductive Phase where
  | unstarted
  | idle (purpose : Purpose)
  | active (purpose : Purpose)
  deriving Repr, DecidableEq

/-- Whether the interpreter is started, and whether a request is active in it. -/
def Phase.flags : Phase → Bool × Bool
  | .unstarted => (false, false)
  | .idle _ => (true, false)
  | .active _ => (true, true)

/-- The phase that the interpreter of a resting bridge is in. -/
def LifecycleState.phase? : LifecycleState → Option Phase
  | .uninitialized | .shutdown => some .unstarted
  | .warm => some (.idle .requests)
  | .requestActive => some (.active .requests)
  | _ => none

theorem LifecycleState.isResting_of_phase? {state : LifecycleState} {phase : Phase}
    (rests : state.phase? = some phase) : state.isResting = true := by
  cases state <;> first | rfl | exact absurd rests (by simp [phase?])

/-- The options that an interpreter is started with: those for requests are always the same. -/
def Purpose.Admits (ini : Table String) : Purpose → StartupOptions → Prop
  | .requests, options => options = ⟨[], ini⟩
  | .command, _ => True

/-- What is behind a step that can fail: `good` after success, and `bad` after a failure. -/
def Leads {ε α β : Type} (step : Except ε α × β) (good bad : β → Prop) : Prop :=
  match step with
  | (.ok _, b) => good b
  | (.error _, b) => bad b

theorem Leads.imp {ε α β : Type} {step : Except ε α × β} {good good' bad bad' : β → Prop}
    (leads : Leads step good bad) (ok : ∀ b, good b → good' b) (error : ∀ b, bad b → bad' b) :
    Leads step good' bad' := by
  obtain ⟨result, b⟩ := step
  cases result with
  | ok => exact ok b leads
  | error => exact error b leads

theorem Leads.either {ε α β : Type} {step : Except ε α × β} {good bad : β → Prop}
    (leads : Leads step good bad) : good step.2 ∨ bad step.2 := by
  obtain ⟨result, b⟩ := step
  cases result with
  | ok => exact Or.inl leads
  | error => exact Or.inr leads

/-- Where a script runs whose paths are read from a directory. -/
def Surroundings.under (directory : Directory) (host : Surroundings) : Surroundings :=
  { host with workingDir := directory.place host.workingDir }

variable {σ : Type} [Interpreter σ]

/-- Whether an interpreter is started, and whether a request is active in it. -/
def Interpreter.flags (interpreter : σ) : Bool × Bool :=
  (Interpreter.started interpreter, Interpreter.active interpreter)

/-- Something said about an interpreter in each phase and with each working directory, that every
    call keeps which a bridge makes in that phase. Shutting an interpreter down in the middle of a
    request is left out: see `CutOff`. -/
structure PhaseInvariant (ini : Table String) (hosts : Surroundings → Prop)
    (Inv : Directory → Phase → σ → Prop) : Prop where
  flags {directory phase interpreter} :
    Inv directory phase interpreter → Interpreter.flags interpreter = phase.flags
  relocate {directory directory' interpreter} :
    Inv directory .unstarted interpreter → Inv directory' .unstarted interpreter
  startup {directory purpose options interpreter} :
    purpose.Admits ini options → Inv directory .unstarted interpreter →
      Leads (Interpreter.startup options interpreter)
        (Inv directory (.idle purpose)) (Inv directory .unstarted)
  declare {directory info interpreter} :
    Inv directory (.idle .requests) interpreter →
      Inv directory (.idle .requests) (Interpreter.declare info interpreter)
  requestStartup {directory purpose interpreter} :
    Inv directory (.idle purpose) interpreter →
      Leads (Interpreter.requestStartup interpreter)
        (Inv directory (.active purpose)) (Inv directory (.idle purpose))
  setSymbol {directory name value interpreter} :
    Inv directory (.active .requests) interpreter →
      Inv directory (.active .requests) (Interpreter.setSymbol name value interpreter)
  readForm {directory target data interpreter} :
    Inv directory (.active .requests) interpreter →
      Inv directory (.active .requests) (Interpreter.readForm target data interpreter)
  attachBody {directory body interpreter} :
    Inv directory (.active .requests) interpreter →
      Inv directory (.active .requests) (Interpreter.attachBody body interpreter)
  exposeStdout {directory interpreter} :
    Inv directory (.active .requests) interpreter →
      Inv directory (.active .requests) (Interpreter.exposeStdout interpreter)
  routeStdio {directory interpreter} :
    Inv directory (.active .command) interpreter →
      Inv directory (.active .command) (Interpreter.routeStdio interpreter).2
  finishRequestStartup {directory purpose interpreter} :
    Inv directory (.active purpose) interpreter →
      Inv directory (.active purpose) (Interpreter.finishRequestStartup interpreter)
  execute {directory purpose host script interpreter} :
    hosts host → Inv directory (.active purpose) interpreter →
      Inv directory (.active purpose)
        (Interpreter.execute (host.under directory) script interpreter).2
  requestShutdown {directory purpose interpreter} :
    Inv directory (.active purpose) interpreter →
      Inv directory (.idle purpose) (Interpreter.requestShutdown interpreter)
  shutdown {directory purpose interpreter} :
    Inv directory (.idle purpose) interpreter →
      Inv directory .unstarted (Interpreter.shutdown interpreter)

/-- What one invariant becomes if the interpreter is shut down in the middle of a request. -/
def CutOff (Inv Inv' : Directory → Phase → σ → Prop) : Prop :=
  ∀ directory purpose interpreter, Inv directory (.active purpose) interpreter →
    Inv' directory .unstarted (Interpreter.shutdown interpreter)

section

variable {ini : Table String} {hosts : Surroundings → Prop} {Inv : Directory → Phase → σ → Prop}
  {directory : Directory} {interpreter : σ}

theorem PhaseInvariant.giveQuery (rules : PhaseInvariant ini hosts Inv) (request : Request)
    (active : Inv directory (.active .requests) interpreter) :
    Inv directory (.active .requests) (Seeder.giveQuery request interpreter) := by
  simp only [Seeder.giveQuery]
  split
  · exact active
  · exact rules.readForm active

theorem PhaseInvariant.giveCookies (rules : PhaseInvariant ini hosts Inv) (seeder : Seeder)
    (env : Environment) (active : Inv directory (.active .requests) interpreter) :
    Inv directory (.active .requests) (seeder.giveCookies env interpreter) := by
  simp only [Seeder.giveCookies]
  split
  · exact active
  · exact rules.setSymbol active

theorem PhaseInvariant.giveBody (rules : PhaseInvariant ini hosts Inv) (seeder : Seeder)
    (request : Request) (env : Environment)
    (active : Inv directory (.active .requests) interpreter) :
    Inv directory (.active .requests) (seeder.giveBody request env interpreter) := by
  simp only [Seeder.giveBody]
  split
  · exact active
  · split
    · exact rules.readForm (rules.attachBody active)
    · exact rules.attachBody active

theorem PhaseInvariant.giveEnvironment (rules : PhaseInvariant ini hosts Inv) (seeder : Seeder)
    (env : Environment) (active : Inv directory (.active .requests) interpreter) :
    Inv directory (.active .requests) (seeder.giveEnvironment env interpreter) := by
  simp only [Seeder.giveEnvironment]
  split
  · exact rules.setSymbol active
  · exact active

theorem PhaseInvariant.give (rules : PhaseInvariant ini hosts Inv) (seeder : Seeder) (now : Int64)
    (request : Request) (env : Environment)
    (active : Inv directory (.active .requests) interpreter) :
    Inv directory (.active .requests) (seeder.give now request env interpreter) := by
  apply rules.finishRequestStartup
  apply rules.giveEnvironment
  apply rules.giveBody
  apply rules.exposeStdout
  apply rules.giveCookies
  apply rules.setSymbol
  exact rules.giveQuery request active

theorem PhaseInvariant.seed (rules : PhaseInvariant ini hosts Inv) (seeder : Seeder) (now : Int64)
    (request : Request) (env : Environment) (idle : Inv directory (.idle .requests) interpreter) :
    Leads (seeder.seed now request env interpreter)
      (Inv directory (.active .requests)) (Inv directory (.idle .requests)) := by
  have declared : Inv directory (.idle .requests)
      (Interpreter.declare (seeder.info request env) interpreter) := rules.declare idle
  have leads := rules.requestStartup declared
  simp only [Seeder.seed]
  split
  · next fault next called =>
      rw [called] at leads
      exact leads
  · next next called =>
      rw [called] at leads
      exact rules.give seeder now request env leads

end

namespace Bridge

/-- The parts of a bridge that only its configuration says something about. -/
structure Configured (config : Config) (bridge : Bridge σ) : Prop where
  seeder : bridge.seeder = ⟨config.serverInfo, config.request⟩
  command : bridge.command = config.command
  ini : bridge.ini = config.interpreter.ini
  capture : bridge.capture.Regular config.buffer

/-- A bridge of a configuration whose interpreter satisfies an invariant in some phase. -/
structure In (config : Config) (Inv : Directory → Phase → σ → Prop) (phase : Phase)
    (bridge : Bridge σ) : Prop extends Configured config bridge where
  interpreter : Inv bridge.env.directory phase bridge.interpreter

/-- The buffers of a bridge are released after a shutdown. -/
def ReleasedIfShutdown (bridge : Bridge σ) : Prop :=
  bridge.state = .shutdown →
    bridge.capture.body.capacity = 0 ∧ bridge.capture.headers.fields.capacity = 0

/-- A bridge between two operations: its state tells the phase of its interpreter. -/
structure Rests (config : Config) (Inv : Directory → Phase → σ → Prop) (bridge : Bridge σ) :
    Prop where
  phase : ∃ phase, bridge.state.phase? = some phase ∧ bridge.In config Inv phase
  released : bridge.ReleasedIfShutdown

/-- Whether a command gets an interpreter and a request, but not the standard streams. -/
def LacksStreams (line : String) (bridge : Bridge σ) : Prop :=
  ∃ idle active,
    Interpreter.startup (bridge.commandOptions line) bridge.takeDown.interpreter = (.ok (), idle) ∧
      Interpreter.requestStartup idle = (.ok (), active) ∧
        ∃ fault, (Interpreter.routeStdio active).1 = .error fault

/-- Whether a command shuts an interpreter down in the middle of a request: of one that was active
    before, or of its own. -/
def CutsOff (line : String) (bridge : Bridge σ) : Prop :=
  bridge.active = true ∨ bridge.LacksStreams line

/-- Whether an operation shuts an interpreter down in the middle of a request. -/
def Operation.CutsOff (bridge : Bridge σ) : Operation → Prop
  | .runCommand line _ => bridge.CutsOff line
  | _ => False

section

variable {config : Config} {hosts : Surroundings → Prop} {Inv : Directory → Phase → σ → Prop}
  {phase : Phase} {bridge : Bridge σ}

theorem In.flags (rules : PhaseInvariant config.interpreter.ini hosts Inv)
    (holds : bridge.In config Inv phase) : (bridge.started, bridge.active) = phase.flags :=
  rules.flags holds.interpreter

omit [Interpreter σ] in
theorem In.change {Inv' : Directory → Phase → σ → Prop} {phase' : Phase}
    (holds : bridge.In config Inv phase) {interpreter : σ} {state : LifecycleState}
    (next : Inv' bridge.env.directory phase' interpreter) :
    In config Inv' phase' { bridge with interpreter, state } :=
  ⟨⟨holds.seeder, holds.command, holds.ini, holds.capture⟩, next⟩

theorem In.endRequest (rules : PhaseInvariant config.interpreter.ini hosts Inv) {purpose : Purpose}
    (holds : bridge.In config Inv (.active purpose)) :
    bridge.endRequest.In config Inv (.idle purpose) := by
  have active : bridge.active = true := congrArg Prod.snd (holds.flags rules)
  simp only [Bridge.endRequest, active, if_true]
  exact holds.change (rules.requestShutdown holds.interpreter)

theorem endRequest_of_inactive (inactive : bridge.active = false) : bridge.endRequest = bridge := by
  simp [endRequest, inactive]

theorem In.takeDown_of_idle (rules : PhaseInvariant config.interpreter.ini hosts Inv)
    {purpose : Purpose} (holds : bridge.In config Inv (.idle purpose)) :
    bridge.takeDown.In config Inv .unstarted := by
  have started : bridge.started = true := congrArg Prod.fst (holds.flags rules)
  simp only [Bridge.takeDown, started, if_true]
  exact holds.change (rules.shutdown holds.interpreter)

theorem takeDown_of_unstarted (unstarted : bridge.started = false) : bridge.takeDown = bridge := by
  simp [takeDown, unstarted]

theorem In.warmUp (rules : PhaseInvariant config.interpreter.ini hosts Inv)
    (holds : bridge.In config Inv .unstarted) :
    Leads bridge.warmUp
      (fun bridge => bridge.In config Inv (.idle .requests) ∧ bridge.state = .warm)
      (fun bridge => bridge.In config Inv .unstarted ∧ bridge.state = .uninitialized) := by
  have unstarted : bridge.started = false := congrArg Prod.fst (holds.flags rules)
  have admitted : Purpose.requests.Admits config.interpreter.ini ⟨[], bridge.ini⟩ :=
    congrArg _ holds.ini
  have leads := rules.startup admitted holds.interpreter
  simp only [Bridge.warmUp, unstarted]
  rcases called : Interpreter.startup ⟨[], bridge.ini⟩ bridge.interpreter with ⟨result, next⟩
  rw [called] at leads
  cases result with
  | ok => exact ⟨holds.change leads, rfl⟩
  | error => exact ⟨holds.change leads, rfl⟩

theorem warmUp_of_started (started : bridge.started = true) :
    bridge.warmUp = (.ok (), bridge) := by
  simp [warmUp, started]

theorem In.shutdown (rules : PhaseInvariant config.interpreter.ini hosts Inv)
    (holds : bridge.In config Inv phase) (released : bridge.ReleasedIfShutdown) :
    bridge.shutdown.Rests config Inv ∧ bridge.shutdown.state = .shutdown := by
  have settle : ∀ {next : Bridge σ}, next.In config Inv .unstarted →
      Rests config Inv { next with capture := next.capture.release, state := .shutdown } :=
    fun holds => ⟨⟨.unstarted, rfl,
      ⟨⟨holds.seeder, holds.command, holds.ini, holds.capture.release⟩, holds.interpreter⟩⟩,
      fun _ => ⟨rfl, rfl⟩⟩
  by_cases done : bridge.state = .shutdown ∧ bridge.started = false
  · have unstarted : phase = .unstarted := by
      have flags := holds.flags rules
      cases phase <;> simp_all [Phase.flags]
    subst unstarted
    have same : bridge.shutdown = bridge := by
      simp only [Bridge.shutdown, done, Bool.not_false, and_self, if_true]
    rw [same]
    exact ⟨⟨⟨.unstarted, by rw [done.1]; rfl, holds⟩, released⟩, done.1⟩
  · have down : bridge.shutdown = { bridge.endRequest.takeDown with
        capture := bridge.endRequest.takeDown.capture.release, state := .shutdown } := by
      simp only [Bridge.shutdown, Bool.not_eq_true', done, if_false]
    rw [down]
    refine ⟨settle ?_, rfl⟩
    cases phase with
    | unstarted =>
        rw [endRequest_of_inactive (congrArg Prod.snd (holds.flags rules)),
          takeDown_of_unstarted (congrArg Prod.fst (holds.flags rules))]
        exact holds
    | idle purpose =>
        rw [endRequest_of_inactive (congrArg Prod.snd (holds.flags rules))]
        exact holds.takeDown_of_idle rules
    | active purpose => exact (holds.endRequest rules).takeDown_of_idle rules

end

end Bridge

end ScriptBridge
