import ScriptBridge.Proofs.Bridge.Resting

/-! # What a bridge forgets

Two bridges of one configuration may have gone through different histories. If their interpreters
forget what happened to them whenever a request or a command begins, and if the environments agree,
then a request or a command is answered by both with the same bytes. What an interpreter keeps all
the same from one request to the next has to agree as well, but only for requests.
-/

namespace ScriptBridge

/-- Two steps with the same result that lead to states in a relation. -/
def InStep {α σ : Type} (R : σ → σ → Prop) (left right : α × σ) : Prop :=
  ∃ result i j, left = (result, i) ∧ right = (result, j) ∧ R i j

variable {σ : Type} [Interpreter σ]

/-- States that no call between the start of a request and the end of its script tells apart, as
    long as scripts run in `host`. -/
structure Congruence (host : Surroundings) (Sim : Directory → σ → σ → Prop) : Prop where
  startup {directory i j} (options : StartupOptions) : Sim directory i j →
    InStep (Sim directory) (Interpreter.startup options i) (Interpreter.startup options j)
  requestStartup {directory i j} : Sim directory i j →
    InStep (Sim directory) (Interpreter.requestStartup i) (Interpreter.requestStartup j)
  setSymbol {directory i j} (name : String) (value : Value) : Sim directory i j →
    Sim directory (Interpreter.setSymbol name value i) (Interpreter.setSymbol name value j)
  readForm {directory i j} (target : FormTarget) (data : Bytes) : Sim directory i j →
    Sim directory (Interpreter.readForm target data i) (Interpreter.readForm target data j)
  attachBody {directory i j} (body : Bytes) : Sim directory i j →
    Sim directory (Interpreter.attachBody body i) (Interpreter.attachBody body j)
  exposeStdout {directory i j} : Sim directory i j →
    Sim directory (Interpreter.exposeStdout i) (Interpreter.exposeStdout j)
  routeStdio {directory i j} : Sim directory i j →
    InStep (Sim directory) (Interpreter.routeStdio i) (Interpreter.routeStdio j)
  finishRequestStartup {directory i j} : Sim directory i j →
    Sim directory (Interpreter.finishRequestStartup i) (Interpreter.finishRequestStartup j)
  execute {directory i j} (script : String) : Sim directory i j →
    (Interpreter.execute (host.under directory) script i).1 =
      (Interpreter.execute (host.under directory) script j).1

/-- Interpreters that forget: all that are not started are alike, and so are all that are started
    for requests and keep the same, once they are told of the next request. -/
structure Forgetful {κ : Type} (ini : Table String) (hosts : Surroundings → Prop)
    (host : Surroundings) (Inv : Directory → Phase → σ → Prop) (Sim : Directory → σ → σ → Prop)
    (kept : σ → κ) : Prop where
  rules : PhaseInvariant ini hosts Inv
  cut : CutOff Inv Inv
  congruence : Congruence host Sim
  unstarted {directory i j} :
    Inv directory .unstarted i → Inv directory .unstarted j → Sim directory i j
  declared {directory i j} (info : RequestInfo) :
    Inv directory (.idle .requests) i → Inv directory (.idle .requests) j → kept i = kept j →
      Sim directory (Interpreter.declare info i) (Interpreter.declare info j)
  kept_startup (options : StartupOptions) (i : σ) :
    kept (Interpreter.startup options i).2 = kept i
  kept_requestShutdown (i : σ) : kept (Interpreter.requestShutdown i) = kept i
  /-- What could be started once can be started again. -/
  restarts {directory i j} :
    Inv directory (.idle .requests) i → Inv directory .unstarted j →
      (Interpreter.startup ⟨[], ini⟩ j).1 = .ok ()

section

variable {host : Surroundings} {Sim : Directory → σ → σ → Prop} {directory : Directory} {i j : σ}

theorem Congruence.giveQuery (congruence : Congruence host Sim) (request : Request)
    (sim : Sim directory i j) :
    Sim directory (Seeder.giveQuery request i) (Seeder.giveQuery request j) := by
  simp only [Seeder.giveQuery]
  split
  · exact sim
  · exact congruence.readForm _ _ sim

theorem Congruence.giveCookies (congruence : Congruence host Sim) (seeder : Seeder)
    (env : Environment) (sim : Sim directory i j) :
    Sim directory (seeder.giveCookies env i) (seeder.giveCookies env j) := by
  simp only [Seeder.giveCookies]
  split
  · exact sim
  · exact congruence.setSymbol _ _ sim

theorem Congruence.giveBody (congruence : Congruence host Sim) (seeder : Seeder)
    (request : Request) (env : Environment) (sim : Sim directory i j) :
    Sim directory (seeder.giveBody request env i) (seeder.giveBody request env j) := by
  simp only [Seeder.giveBody]
  split
  · exact sim
  · split
    · exact congruence.readForm _ _ (congruence.attachBody _ sim)
    · exact congruence.attachBody _ sim

theorem Congruence.giveEnvironment (congruence : Congruence host Sim) (seeder : Seeder)
    (env : Environment) (sim : Sim directory i j) :
    Sim directory (seeder.giveEnvironment env i) (seeder.giveEnvironment env j) := by
  simp only [Seeder.giveEnvironment]
  split
  · exact congruence.setSymbol _ _ sim
  · exact sim

theorem Congruence.give (congruence : Congruence host Sim) (seeder : Seeder) (now : Int64)
    (request : Request) (env : Environment) (sim : Sim directory i j) :
    Sim directory (seeder.give now request env i) (seeder.give now request env j) := by
  apply congruence.finishRequestStartup
  apply congruence.giveEnvironment
  apply congruence.giveBody
  apply congruence.exposeStdout
  apply congruence.giveCookies
  apply congruence.setSymbol
  exact congruence.giveQuery request sim

end

namespace Bridge

variable {κ : Type} {config : Config} {hosts : Surroundings → Prop} {host : Surroundings}
  {Inv : Directory → Phase → σ → Prop} {Sim : Directory → σ → σ → Prop} {kept : σ → κ}
  {a b : Bridge σ}

/-- Bridges with the same environment and alike captures, over interpreters in a relation. -/
structure Twins (config : Config) (Sim : Directory → σ → σ → Prop) (a b : Bridge σ) : Prop where
  env : a.env = b.env
  capture : a.capture.Alike config.buffer b.capture
  seeder : a.seeder = b.seeder
  command : a.command = b.command
  interpreter : Sim a.env.directory a.interpreter b.interpreter

@[simp]
theorem env_endRequest (bridge : Bridge σ) : bridge.endRequest.env = bridge.env := by
  simp only [endRequest]
  split <;> rfl

@[simp]
theorem env_warmUp (bridge : Bridge σ) : bridge.warmUp.2.env = bridge.env := by
  simp only [warmUp]
  split
  · rfl
  · split <;> rfl

@[simp]
theorem env_takeDown (bridge : Bridge σ) : bridge.takeDown.env = bridge.env := by
  simp only [takeDown]
  split <;> rfl

/-- What a host hears of an attempt to start an interpreter. -/
def startAnswer : Except ScriptFault Unit → Except BridgeFault Unit
  | .ok _ => .ok ()
  | .error fault => .error (.startupFailure fault.message)

theorem warmUp_of_unstarted (unstarted : a.started = false) :
    a.warmUp.1 = startAnswer (Interpreter.startup ⟨[], a.ini⟩ a.interpreter).1 := by
  simp only [warmUp, unstarted]
  rcases Interpreter.startup ⟨[], a.ini⟩ a.interpreter with ⟨result, next⟩
  cases result with
  | ok => rfl
  | error => rfl

/-- Whatever a resting bridge went through, warming it up gives what it gives over an interpreter
    that is not started, and leads to an idle interpreter. -/
theorem Rests.ready (forgets : Forgetful config.interpreter.ini hosts host Inv Sim kept)
    (rests : a.Rests config Inv) {fresh : σ} (new : Inv a.env.directory .unstarted fresh) :
    a.endRequest.warmUp.1 =
        startAnswer (Interpreter.startup ⟨[], config.interpreter.ini⟩ fresh).1 ∧
      Leads a.endRequest.warmUp (In config Inv (.idle .requests)) (fun _ => True) := by
  have rules := forgets.rules
  have warm : ∀ {bridge : Bridge σ}, bridge.In config Inv (.idle .requests) →
      bridge.env.directory = a.env.directory →
      bridge.warmUp.1 = startAnswer (Interpreter.startup ⟨[], config.interpreter.ini⟩ fresh).1 ∧
        Leads bridge.warmUp (In config Inv (.idle .requests)) (fun _ => True) := by
    intro bridge holds directory
    have idle := holds.interpreter
    rw [directory] at idle
    -- It answers without a start, so a fresh interpreter must be sure to start.
    rw [warmUp_of_started (congrArg Prod.fst (holds.flags rules)), forgets.restarts idle new]
    exact ⟨rfl, holds⟩
  rcases rests.cases with holds | holds | ⟨-, holds⟩
  · rw [endRequest_of_inactive (congrArg Prod.snd (holds.flags rules))]
    refine ⟨?_, (holds.warmUp rules).imp (fun _ h => h.1) (fun _ _ => trivial)⟩
    rw [warmUp_of_unstarted (congrArg Prod.fst (holds.flags rules)), holds.ini]
    obtain ⟨result, i, j, called, called', -⟩ :=
      forgets.congruence.startup ⟨[], config.interpreter.ini⟩
        (forgets.unstarted holds.interpreter new)
    rw [called, called']
  · rw [endRequest_of_inactive (congrArg Prod.snd (holds.flags rules))]
    exact warm holds rfl
  · exact warm (holds.endRequest rules) (by simp)

theorem kept_warmUp (forgets : Forgetful config.interpreter.ini hosts host Inv Sim kept)
    (bridge : Bridge σ) :
    kept bridge.endRequest.warmUp.2.interpreter = kept bridge.interpreter := by
  have ended : kept bridge.endRequest.interpreter = kept bridge.interpreter := by
    simp only [endRequest]
    split
    · exact forgets.kept_requestShutdown _
    · rfl
  have warmed : ∀ bridge : Bridge σ, kept bridge.warmUp.2.interpreter = kept bridge.interpreter := by
    intro bridge
    have started := forgets.kept_startup ⟨[], bridge.ini⟩ bridge.interpreter
    simp only [warmUp]
    split
    · rfl
    · split
      · next called =>
          rw [called] at started
          exact started
      · next called =>
          rw [called] at started
          exact started
  exact (warmed _).trans ended

theorem In.seed_twins (forgets : Forgetful config.interpreter.ini hosts host Inv Sim kept)
    (left : a.In config Inv (.idle .requests)) (right : b.In config Inv (.idle .requests))
    (same : kept a.interpreter = kept b.interpreter) (env : a.env = b.env)
    (capture : a.capture.Alike config.buffer b.capture) (now : Int64) (request : Request) :
    (a.seed now request).1 = (b.seed now request).1 ∧
      ((a.seed now request).1 = .ok () →
        Twins config Sim (a.seed now request).2 (b.seed now request).2) := by
  have seeder : a.seeder = b.seeder := left.seeder.trans right.seeder.symm
  have idle : Inv a.env.directory (.idle .requests) b.interpreter := by
    rw [env]
    exact right.interpreter
  obtain ⟨result, i, j, called, called', sim⟩ := forgets.congruence.requestStartup
    (forgets.declared (a.seeder.info request a.env) left.interpreter idle same)
  simp only [Bridge.seed, Seeder.seed, ← seeder, ← env, called, called']
  cases result with
  | error fault => exact ⟨rfl, fun ok => absurd ok (by simp)⟩
  | ok =>
      have given := forgets.congruence.give a.seeder now request a.env sim
      exact ⟨rfl, fun _ => ⟨rfl, capture.openStdout, rfl,
        left.command.trans right.command.symm, given⟩⟩

theorem Rests.beginRequest_twins (forgets : Forgetful config.interpreter.ini hosts host Inv Sim kept)
    (left : a.Rests config Inv) (right : b.Rests config Inv)
    (same : kept a.interpreter = kept b.interpreter) (env : a.env = b.env) {fresh : σ}
    (new : Inv a.env.directory .unstarted fresh) (request : Request) (script : Option String) :
    (a.beginRequest host request script).1 = (b.beginRequest host request script).1 ∧
      ((a.beginRequest host request script).1 = .ok () →
        Twins config Sim (a.beginRequest host request script).2
          (b.beginRequest host request script).2) := by
  obtain ⟨answer, ready⟩ := left.ready forgets new
  obtain ⟨answer', ready'⟩ := right.ready forgets (env ▸ new)
  have env_left : a.endRequest.warmUp.2.env = a.env := by simp
  have env_right : b.endRequest.warmUp.2.env = b.env := by simp
  rw [← answer'] at answer
  rw [← kept_warmUp forgets a, ← kept_warmUp forgets b] at same
  simp only [Bridge.beginRequest]
  rcases called : a.endRequest.warmUp with ⟨result, warm⟩
  rcases called' : b.endRequest.warmUp with ⟨result', warm'⟩
  rw [called] at answer ready env_left same
  rw [called'] at answer ready' env_right same
  obtain rfl : result = result' := answer
  cases result with
  | error fault => exact ⟨rfl, fun ok => absurd ok (by simp)⟩
  | ok =>
      have env : warm.env = warm'.env := env_left.trans (env.trans env_right.symm)
      have seeder : warm.seeder = warm'.seeder := ready.seeder.trans ready'.seeder.symm
      have alike := ready.capture.reset_alike ready'.capture
      refine In.seed_twins forgets ?_ ?_ ?_ (by simp only [env, seeder]) alike host.now request
      · exact ⟨⟨ready.seeder, ready.command, ready.ini, alike.left.regular⟩, by
          simpa using ready.interpreter⟩
      · exact ⟨⟨ready'.seeder, ready'.command, ready'.ini, alike.right.regular⟩, by
          simpa using ready'.interpreter⟩
      · exact same

theorem Twins.executeSeeded (congruence : Congruence host Sim) (twins : Twins config Sim a b)
    (script : String) :
    (a.executeSeeded host script).capture.Alike config.buffer
      (b.executeSeeded host script).capture := by
  have execution := congruence.execute script twins.interpreter
  simp only [Surroundings.under] at execution
  simp only [Bridge.executeSeeded, Bridge.surroundings, Environment.workingDir, ← twins.env,
    ← execution]
  exact (twins.capture.emitAll _).mergeStdout

omit [Interpreter σ] in
theorem response_eq (alike : a.capture.Alike config.buffer b.capture) :
    a.response = b.response := by
  simp only [response, HeaderBlock.statusLine, alike.status, alike.fields, alike.body]

/-- Resting bridges with the same environment, over interpreters that keep the same, answer a request
    with the same bytes. -/
theorem Rests.runOnce_eq (forgets : Forgetful config.interpreter.ini hosts host Inv Sim kept)
    (left : a.Rests config Inv) (right : b.Rests config Inv)
    (same : kept a.interpreter = kept b.interpreter) (env : a.env = b.env) {fresh : σ}
    (new : Inv a.env.directory .unstarted fresh) (request : Request) (script : String) :
    (a.runOnce host request script).1 = (b.runOnce host request script).1 := by
  obtain ⟨answer, twins⟩ :=
    left.beginRequest_twins forgets right same env new request (some script)
  simp only [Bridge.runOnce, Bridge.tryRunOnce]
  cases request.validate with
  | error fault => rfl
  | ok =>
      rcases called : a.beginRequest host request (some script) with ⟨result, next⟩
      rcases called' : b.beginRequest host request (some script) with ⟨result', next'⟩
      rw [called, called'] at answer twins
      obtain rfl : result = result' := answer
      cases result with
      | error fault => rfl
      | ok => exact response_eq ((twins rfl).executeSeeded forgets.congruence script)

theorem Rests.takeDown (forgets : Forgetful config.interpreter.ini hosts host Inv Sim kept)
    (rests : a.Rests config Inv) : a.takeDown.In config Inv .unstarted := by
  by_cases active : a.active = true
  · exact rests.takeDown_of_active forgets.rules active forgets.cut
  · exact rests.takeDown_of_inactive forgets.rules (by simpa using active)

theorem Rests.prepareCommand_twins (forgets : Forgetful config.interpreter.ini hosts host Inv Sim kept)
    (left : a.Rests config Inv) (right : b.Rests config Inv) (env : a.env = b.env)
    (publicDir : String) :
    Twins config Sim (a.takeDown.prepareCommand host publicDir)
      (b.takeDown.prepareCommand host publicDir) := by
  have down := left.takeDown forgets
  have down' := right.takeDown forgets
  have ready := down.prepareCommand forgets.rules host publicDir
  have ready' := down'.prepareCommand forgets.rules host publicDir
  have command : a.takeDown.command = b.takeDown.command :=
    down.command.trans down'.command.symm
  have same : (a.takeDown.prepareCommand host publicDir).env =
      (b.takeDown.prepareCommand host publicDir).env := by
    simp only [Bridge.prepareCommand, env_takeDown, env, command]
  refine ⟨same, down.capture.reset_alike down'.capture, down.seeder.trans down'.seeder.symm,
    command, forgets.unstarted ready.interpreter ?_⟩
  rw [same]
  exact ready'.interpreter

theorem Twins.executeCommand (congruence : Congruence host Sim) (twins : Twins config Sim a b)
    (publicDir : String) :
    (a.executeCommand host publicDir).1 = (b.executeCommand host publicDir).1 := by
  have finished : Twins config Sim
      { a with interpreter := Interpreter.finishRequestStartup a.interpreter }
      { b with interpreter := Interpreter.finishRequestStartup b.interpreter } :=
    ⟨twins.env, twins.capture, twins.seeder, twins.command,
      congruence.finishRequestStartup twins.interpreter⟩
  simp only [Bridge.executeCommand, ← twins.command]
  exact (finished.executeSeeded congruence _).body

theorem Rests.runCommand_eq (forgets : Forgetful config.interpreter.ini hosts host Inv Sim kept)
    (left : a.Rests config Inv) (right : b.Rests config Inv) (env : a.env = b.env)
    (line publicDir : String) :
    (a.runCommand host line publicDir).1 = (b.runCommand host line publicDir).1 := by
  have twins := left.prepareCommand_twins forgets right env publicDir
  have congruence := forgets.congruence
  simp only [Bridge.runCommand]
  generalize a.takeDown.prepareCommand host publicDir = x at twins ⊢
  generalize b.takeDown.prepareCommand host publicDir = y at twins ⊢
  have options : x.commandOptions line = y.commandOptions line := by
    simp only [commandOptions, twins.command]
  obtain ⟨result, i, j, called, called', sim⟩ :=
    congruence.startup (x.commandOptions line) twins.interpreter
  simp only [← options, called, called']
  cases result with
  | error fault => rfl
  | ok =>
      obtain ⟨result, i, j, called, called', sim⟩ := congruence.requestStartup sim
      simp only [startCommand, called, called']
      cases result with
      | error fault => rfl
      | ok =>
          obtain ⟨result, i, j, called, called', sim⟩ := congruence.routeStdio sim
          simp only [called, called']
          cases result with
          | error fault => rfl
          | ok =>
              have ready : Twins config Sim { x with interpreter := i } { y with interpreter := j } :=
                ⟨twins.env, twins.capture, twins.seeder, twins.command, sim⟩
              exact ready.executeCommand congruence publicDir

end Bridge

end ScriptBridge
