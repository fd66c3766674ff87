import ScriptBridge.Proofs.Bridge.Forgetting
import ScriptBridge.Proofs.Bridge.Lifecycle
import ScriptBridge.Proofs.Resolution

/-! # What the script engine forgets

The engine keeps compiled scripts, the modules that were imported and some counts from one request to
the next. A compiled script is only used while its file has the time of the compilation, so that
running it is as good as reading the file again; this is not so of modules. All else is gone when a
request is shut down, but for what the engine was started with; and a shutdown leaves nothing.
-/

namespace ScriptBridge.Script

namespace Engine

/-- An engine without what does not show in an execution: the last exit status, the compiled scripts
    and their counts. -/
def core (engine : Engine) : Engine :=
  { engine with exitStatus := 0, cache := [], hits := 0, misses := 0 }

theorem exists_of_core {engine other : Engine} (same : engine.core = other.core) :
    ∃ exitStatus cache hits misses, other = { engine with exitStatus, cache, hits, misses } := by
  refine ⟨other.exitStatus, other.cache, other.hits, other.misses, ?_⟩
  cases engine
  cases other
  simp only [core, mk.injEq] at same ⊢
  simp [same]

/-- An engine without what it keeps from one request to the next. -/
def base (engine : Engine) : Engine :=
  { engine.core with modules := [] }

/-- Every compiled script is what `host` compiles, if the file there has the same time. -/
def Sound (host : Surroundings) (directory : Directory) (engine : Engine) : Prop :=
  ∀ path compiled, engine.cache.lookup (Path.components path) = some compiled →
    host.files.modified (directory.place host.workingDir) path = .ok compiled.modified →
      engine.compile (host.under directory) path = .ok compiled.program

theorem sound_of_empty {host : Surroundings} {directory : Directory} {engine : Engine}
    (empty : engine.cache = []) : Sound host directory engine := by
  intro path compiled kept
  simp [empty] at kept

theorem lookup_filter_ne {key other : List String} (ne : other ≠ key)
    (cache : List (List String × Compiled)) :
    (cache.filter (·.1 != key)).lookup other = cache.lookup other := by
  induction cache with
  | nil => rfl
  | cons entry cache ih =>
      obtain ⟨k, compiled⟩ := entry
      by_cases eq : k = key
      · subst eq
        have differs : (other == k) = false := by simpa using ne
        simp [List.lookup_cons, ih, differs]
      · simp [List.lookup_cons, ih, eq]

/-- The program of a file, read anew. -/
def reload (host : Surroundings) (path : String) (engine : Engine) : Except ScriptFault Program :=
  match host.files.modified host.workingDir path with
  | .error fault => .error (.io fault.message)
  | .ok _ => engine.compile host path

theorem Sound.load_eq {host : Surroundings} {directory : Directory} {engine : Engine}
    (sound : Sound host directory engine) (path : String) :
    (engine.load (host.under directory) path).1 = engine.reload (host.under directory) path := by
  simp only [load, reload]
  cases time : (host.under directory).files.modified (host.under directory).workingDir path with
  | error fault => rfl
  | ok modified =>
      simp only
      split
      · next compiled kept =>
          obtain ⟨kept, same⟩ := Option.filter_eq_some_iff.mp kept
          have current : compiled.modified = modified := by simpa using same
          exact (sound path compiled kept (by rw [current]; exact time)).symm
      · simp only [compile]
        split
        · next failed => exact failed.symm
        · next done => exact done.symm

theorem Sound.load {host other : Surroundings} {directory : Directory} {engine : Engine}
    (agree : other.Agree host) (sound : Sound host directory engine) (path : String) :
    Sound host directory (engine.load (other.under directory) path).2 := by
  simp only [Engine.load]
  cases time : (other.under directory).files.modified (other.under directory).workingDir path with
  | error fault => exact sound
  | ok modified =>
      simp only
      split
      · exact sound
      · split
        · exact sound
        · next program compiles =>
            intro path' compiled kept time'
            simp only [remember, List.lookup_cons] at kept
            -- Paths are told apart by their components, so another text may name the same file.
            by_cases same : Path.components path' = Path.components path
            · simp only [same, beq_self_eq_true, Option.some.injEq] at kept
              subst kept
              simp only [compile] at compiles ⊢
              split at compiles
              · simp at compiles
              · next text reads =>
                  have place : (other.under directory).workingDir =
                      directory.place host.workingDir := by
                    rw [← agree.workingDir]
                    rfl
                  rw [place] at time reads
                  have reads' := agree.readText same.symm time time' reads
                  simp only [remember, Surroundings.under, reads']
                  exact compiles
            · have differs : (Path.components path' == Path.components path) = false := by
                simpa using same
              simp only [differs, lookup_filter_ne same] at kept
              exact sound path' compiled kept time'

/-- An engine that was started for requests. -/
def warm (limits : Limits) (settings : Settings) : Engine :=
  { Engine.new limits with started := true, settings }

/-- What an engine is in a phase, or what it is once the phase is over. -/
def Shape (limits : Limits) (ini : Table String) : Phase → Engine → Prop
  | .unstarted, engine => engine.core = Engine.new limits ∧ engine.cache = []
  | .idle .requests, engine => ∃ settings, Settings.ofTable ini = .ok settings ∧
      { engine.base with request := none } = warm limits settings
  | .active .requests, engine => ∃ settings, Settings.ofTable ini = .ok settings ∧
      engine.requestShutdown.base = warm limits settings
  | .idle .command, engine | .active .command, engine => engine.shutdown.core = Engine.new limits

/-- An engine in a phase, whichever scripts it has compiled. -/
structure Shaped (limits : Limits) (ini : Table String) (_ : Directory) (phase : Phase)
    (engine : Engine) : Prop where
  flags : Interpreter.flags engine = phase.flags
  shape : Shape limits ini phase engine

/-- An engine in a phase, with compiled scripts that are good in `host`. -/
structure Follows (limits : Limits) (ini : Table String) (host : Surroundings)
    (directory : Directory) (phase : Phase) (engine : Engine) : Prop where
  flags : Interpreter.flags engine = phase.flags
  sound : Sound host directory engine
  shape : Shape limits ini phase engine

theorem core_conclude (emissions : List Emission) (outcome : Except ScriptFault Unit)
    (engine : Engine) : (engine.conclude emissions outcome).2.core = engine.core := by
  cases outcome with
  | ok => rfl
  | error => rfl

theorem core_load (host : Surroundings) (path : String) (engine : Engine) :
    (engine.load host path).2.core = engine.core := by
  simp only [load]
  split
  · rfl
  · split
    · rfl
    · split <;> rfl

theorem outlet_of_load {host : Surroundings} {path : String} {engine next : Engine}
    {result : Except ScriptFault Program} (loads : engine.load host path = (result, next)) :
    next.outlet = engine.outlet := by
  have same := core_load host path engine
  rw [loads] at same
  have outlet : next.core.outlet = engine.core.outlet := by rw [← same]
  exact outlet

theorem cache_conclude (emissions : List Emission) (outcome : Except ScriptFault Unit)
    (engine : Engine) : (engine.conclude emissions outcome).2.cache = engine.cache := by
  cases outcome with
  | ok => rfl
  | error => rfl

theorem cache_startup (options : StartupOptions) (engine : Engine) :
    (engine.startup options).2.cache = engine.cache := by
  simp only [startup]
  split
  · rfl
  · split <;> rfl

theorem cache_requestStartup (engine : Engine) : engine.requestStartup.2.cache = engine.cache := by
  simp only [requestStartup]
  split <;> rfl

theorem cache_routeStdio (engine : Engine) : engine.routeStdio.2.cache = engine.cache := by
  simp only [routeStdio]
  split <;> rfl

theorem limits_startup (options : StartupOptions) (engine : Engine) :
    (engine.startup options).2.limits = engine.limits := by
  simp only [startup]
  split
  · rfl
  · cases Settings.ofTable options.ini <;> rfl

theorem limits_requestStartup (engine : Engine) :
    engine.requestStartup.2.limits = engine.limits := by
  simp only [requestStartup]
  split <;> rfl

theorem limits_routeStdio (engine : Engine) : engine.routeStdio.2.limits = engine.limits := by
  simp only [routeStdio]
  split <;> rfl

/-- What an execution changes: compiled scripts and modules, and nothing else that shows but for what
    the outlet holds back. -/
theorem execute_spec {engine : Engine} (running : Interpreter.flags engine = (true, true))
    (host : Surroundings) (path : String) :
    (∃ pending modules, (engine.execute host path).2.core =
      { engine.core with outlet := { engine.outlet with pending }, modules }) ∧
      (engine.execute host path).2.cache = (engine.load host path).2.cache := by
  obtain ⟨started, active⟩ : engine.started = true ∧ engine.active = true := Prod.mk.inj running
  have loaded := core_load host path engine
  rcases called : engine.load host path with ⟨result, next⟩
  have outlet := outlet_of_load called
  rw [called] at loaded
  replace loaded : next.core = engine.core := loaded
  simp only [execute, started, active, called, Bool.not_true, Bool.false_eq_true, if_false]
  cases result with
  | error fault =>
      exact ⟨⟨engine.outlet.pending, engine.modules, (core_conclude _ _ _).trans loaded⟩,
        cache_conclude _ _ _⟩
  | ok program =>
      let machine := (program.run (next.frame host) next.scope next.modules next.outlet).2
      refine ⟨⟨.empty, machine.modules, ?_⟩, cache_conclude _ _ _⟩
      simp only [runProgram, core_conclude, ← loaded, ← outlet]
      rfl

theorem Sound.congr {host : Surroundings} {directory : Directory} {engine next : Engine}
    (sound : Sound host directory engine) (cache : next.cache = engine.cache)
    (limits : next.limits = engine.limits) : Sound host directory next := by
  intro path compiled kept time
  rw [cache] at kept
  have compiles := sound path compiled kept time
  simp only [compile, limits] at compiles ⊢
  exact compiles

section

variable {limits : Limits} {ini : Table String} {host : Surroundings} {directory : Directory}
  {engine next : Engine}

theorem Follows.shaped {phase : Phase} (follows : Follows limits ini host directory phase engine) :
    Shaped limits ini directory phase engine :=
  ⟨follows.flags, follows.shape⟩

/-- An engine that is shut down is new but for its last exit status and its counts. -/
theorem Shaped.shutdown {phase : Phase} (shaped : Shaped limits ini directory phase engine)
    (started : phase.flags.1 = true) :
    Shaped limits ini directory .unstarted engine.shutdown := by
  have down : Interpreter.flags engine.shutdown = (false, false) := by
    refine LawfulInterpreter.shutdown engine ?_
    exact (congrArg Prod.fst shaped.flags).trans started
  have empty : engine.shutdown.cache = [] := rfl
  refine ⟨down, ?_, empty⟩
  have shape := shaped.shape
  match phase, started with
  | .idle .requests, _ =>
      obtain ⟨settings, -, eq⟩ := shape
      have idle : engine.active = false := congrArg Prod.snd shaped.flags
      simp only [Engine.shutdown, idle]
      cases engine
      simp only [base, core, warm, Engine.new, mk.injEq] at eq ⊢
      simp_all
  | .active .requests, _ =>
      obtain ⟨settings, -, eq⟩ := shape
      have active : engine.active = true := congrArg Prod.snd shaped.flags
      simp only [Engine.shutdown, active, if_true]
      cases engine
      simp only [base, core, warm, Engine.new, requestShutdown, mk.injEq] at eq ⊢
      simp_all
  | .idle .command, _ => exact shape
  | .active .command, _ => exact shape

theorem Shaped.startup {options : StartupOptions} {purpose : ScriptBridge.Purpose}
    (admits : purpose.Admits ini options) (shaped : Shaped limits ini directory .unstarted engine) :
    Leads (engine.startup options) (Shaped limits ini directory (.idle purpose))
      (Shaped limits ini directory .unstarted) := by
  have lawful := LawfulInterpreter.startup options engine shaped.flags
  obtain ⟨eq, empty⟩ := shaped.shape
  have down : engine.started = false := congrArg Prod.fst shaped.flags
  have idle : engine.active = false := congrArg Prod.snd shaped.flags
  simp only [Interpreter.startup, Engine.startup, down] at lawful ⊢
  cases read : Settings.ofTable options.ini with
  | error fault => exact shaped
  | ok settings =>
      rw [read] at lawful
      refine ⟨lawful, ?_⟩
      cases purpose with
      | requests =>
          obtain rfl : options = ⟨[], ini⟩ := admits
          refine ⟨settings, read, ?_⟩
          cases engine
          simp only [base, core, warm, Engine.new, mk.injEq] at eq ⊢
          simp_all
      | command =>
          simp only [Shape, Engine.shutdown, idle]
          cases engine
          simp only [core, Engine.new, mk.injEq] at eq ⊢
          simp_all

theorem Shaped.requestStartup {purpose : ScriptBridge.Purpose}
    (shaped : Shaped limits ini directory (.idle purpose) engine) :
    Leads engine.requestStartup (Shaped limits ini directory (.active purpose))
      (Shaped limits ini directory (.idle purpose)) := by
  have lawful := LawfulInterpreter.requestStartup engine shaped.flags
  have up : engine.started = true := congrArg Prod.fst shaped.flags
  simp only [Interpreter.requestStartup, Engine.requestStartup, up, if_true] at lawful ⊢
  refine ⟨lawful, ?_⟩
  have shape := shaped.shape
  cases purpose with
  | requests =>
      obtain ⟨settings, isSettings, eq⟩ := shape
      refine ⟨settings, isSettings, ?_⟩
      cases engine
      simp only [base, core, warm, Engine.new, requestShutdown, mk.injEq] at eq ⊢
      simp_all [Outlet.endRequest, Outlet.cleared, Outlet.new]
  | command =>
      have idle : engine.active = false := congrArg Prod.snd shaped.flags
      simp only [Shape, Engine.shutdown, idle] at shape ⊢
      cases engine
      simp only [core, Engine.new, requestShutdown, if_true, mk.injEq] at shape ⊢
      simp_all

theorem Shaped.requestShutdown {purpose : ScriptBridge.Purpose}
    (shaped : Shaped limits ini directory (.active purpose) engine) :
    Shaped limits ini directory (.idle purpose) engine.requestShutdown := by
  refine ⟨LawfulInterpreter.requestShutdown engine shaped.flags, ?_⟩
  have shape := shaped.shape
  cases purpose with
  | requests =>
      obtain ⟨settings, isSettings, eq⟩ := shape
      refine ⟨settings, isSettings, ?_⟩
      rw [eq]
      rfl
  | command =>
      have active : engine.active = true := congrArg Prod.snd shaped.flags
      simp only [Shape, Engine.shutdown, active, if_true] at shape
      exact shape

theorem shutdown_core_eq (active : engine.active = true) (active' : next.active = true)
    (ends : next.requestShutdown.base = engine.requestShutdown.base) :
    next.shutdown.core = engine.shutdown.core := by
  simp only [Engine.shutdown, active, active', if_true]
  cases engine
  cases next
  simp only [base, core, Engine.requestShutdown, mk.injEq] at ends ⊢
  simp_all

theorem Shaped.within {purpose : ScriptBridge.Purpose}
    (shaped : Shaped limits ini directory (.active purpose) engine)
    (flags : Interpreter.flags next = Interpreter.flags engine)
    (ends : next.requestShutdown.base = engine.requestShutdown.base) :
    Shaped limits ini directory (.active purpose) next := by
  refine ⟨flags.trans shaped.flags, ?_⟩
  have shape := shaped.shape
  cases purpose with
  | requests =>
      obtain ⟨settings, isSettings, eq⟩ := shape
      exact ⟨settings, isSettings, ends.trans eq⟩
  | command =>
      have active : engine.active = true := congrArg Prod.snd shaped.flags
      have active' : next.active = true := (congrArg Prod.snd flags).trans active
      exact (shutdown_core_eq active active' ends).trans shape

theorem Shaped.routeStdio (shaped : Shaped limits ini directory (.active .command) engine) :
    Shaped limits ini directory (.active .command) engine.routeStdio.2 := by
  refine ⟨(LawfulInterpreter.routeStdio engine).trans shaped.flags, ?_⟩
  have active : engine.active = true := congrArg Prod.snd shaped.flags
  have shape := shaped.shape
  simp only [Engine.routeStdio]
  split
  · simp only [Shape, Engine.shutdown, active, if_true] at shape ⊢
    exact shape
  · exact shape

/-- The end of a request leaves nothing of its script but modules. -/
theorem requestShutdown_execute (running : Interpreter.flags engine = (true, true))
    (host : Surroundings) (script : String) :
    (engine.execute host script).2.requestShutdown.base = engine.requestShutdown.base := by
  obtain ⟨⟨pending, modules, core_eq⟩, -⟩ := execute_spec running host script
  generalize (engine.execute host script).2 = next at core_eq ⊢
  cases next
  cases engine
  simp only [base, core, Engine.requestShutdown, mk.injEq] at core_eq ⊢
  simp_all [Outlet.endRequest, Outlet.cleared]

theorem Shaped.execute {purpose : ScriptBridge.Purpose}
    (shaped : Shaped limits ini directory (.active purpose) engine) (host : Surroundings)
    (script : String) :
    Shaped limits ini directory (.active purpose) (engine.execute host script).2 :=
  shaped.within (flags_execute host script engine)
    (requestShutdown_execute shaped.flags host script)

theorem Shaped.follows {phase : Phase} (shaped : Shaped limits ini directory phase next)
    (sound : Sound host directory engine) (cache : next.cache = engine.cache)
    (same : next.limits = engine.limits) : Follows limits ini host directory phase next :=
  ⟨shaped.flags, sound.congr cache same, shaped.shape⟩

theorem leads_follows {good bad : Phase} {step : Except ScriptFault Unit × Engine}
    (leads : Leads step (Shaped limits ini directory good) (Shaped limits ini directory bad))
    (sound : Sound host directory engine) (cache : step.2.cache = engine.cache)
    (same : step.2.limits = engine.limits) :
    Leads step (Follows limits ini host directory good)
      (Follows limits ini host directory bad) := by
  obtain ⟨result, next⟩ := step
  cases result with
  | ok => exact Shaped.follows leads sound cache same
  | error fault => exact Shaped.follows leads sound cache same

theorem Follows.shutdown {phase : Phase} (follows : Follows limits ini host directory phase engine)
    (started : phase.flags.1 = true) :
    Follows limits ini host directory .unstarted engine.shutdown := by
  have down := follows.shaped.shutdown started
  exact ⟨down.flags, sound_of_empty down.shape.2, down.shape⟩

theorem Follows.execute {purpose : ScriptBridge.Purpose} {other : Surroundings}
    (agree : other.Agree host) (script : String)
    (follows : Follows limits ini host directory (.active purpose) engine) :
    Follows limits ini host directory (.active purpose)
      (engine.execute (other.under directory) script).2 := by
  have shaped := follows.shaped.execute (other.under directory) script
  obtain ⟨⟨pending, modules, core_eq⟩, cache⟩ :=
    execute_spec follows.flags (other.under directory) script
  have loaded := core_load (other.under directory) script engine
  have same := (congrArg Engine.limits core_eq).trans (congrArg Engine.limits loaded).symm
  exact shaped.follows (follows.sound.load agree script) cache same

end

theorem shaped_phaseInvariant (limits : Limits) (ini : Table String) :
    PhaseInvariant ini (fun _ => True) (Shaped limits ini) where
  flags shaped := shaped.flags
  relocate shaped := ⟨shaped.flags, shaped.shape⟩
  startup admits shaped := shaped.startup admits
  declare shaped := ⟨shaped.flags, shaped.shape⟩
  requestStartup shaped := shaped.requestStartup
  setSymbol shaped := shaped.within rfl rfl
  readForm shaped := shaped.within rfl rfl
  attachBody shaped := shaped.within rfl rfl
  exposeStdout shaped := shaped.within rfl rfl
  routeStdio shaped := shaped.routeStdio
  finishRequestStartup shaped := shaped
  execute _ shaped := shaped.execute _ _
  requestShutdown shaped := shaped.requestShutdown
  shutdown shaped := shaped.shutdown rfl

theorem shaped_cutOff (limits : Limits) (ini : Table String) :
    CutOff (Shaped limits ini) (Shaped limits ini) :=
  fun _ _ _ shaped => shaped.shutdown rfl

/-- An engine follows its phases, in all surroundings that agree with `host`. -/
theorem follows_phaseInvariant (limits : Limits) (ini : Table String) (host : Surroundings) :
    PhaseInvariant ini (Surroundings.Agree · host) (Follows limits ini host) where
  flags follows := follows.flags
  relocate follows := ⟨follows.flags, sound_of_empty follows.shape.2, follows.shape⟩
  startup admits follows := leads_follows (follows.shaped.startup admits) follows.sound
    (cache_startup _ _) (limits_startup _ _)
  declare follows := ⟨follows.flags, follows.sound.congr rfl rfl, follows.shape⟩
  requestStartup follows := leads_follows follows.shaped.requestStartup follows.sound
    (cache_requestStartup _) (limits_requestStartup _)
  setSymbol follows := ((shaped_phaseInvariant limits ini).setSymbol follows.shaped).follows
    follows.sound rfl rfl
  readForm follows := ((shaped_phaseInvariant limits ini).readForm follows.shaped).follows
    follows.sound rfl rfl
  attachBody follows := ((shaped_phaseInvariant limits ini).attachBody follows.shaped).follows
    follows.sound rfl rfl
  exposeStdout follows := ((shaped_phaseInvariant limits ini).exposeStdout follows.shaped).follows
    follows.sound rfl rfl
  routeStdio follows := follows.shaped.routeStdio.follows follows.sound (cache_routeStdio _)
    (limits_routeStdio _)
  finishRequestStartup follows := follows
  execute agree follows := follows.execute agree _
  requestShutdown follows := follows.shaped.requestShutdown.follows follows.sound rfl rfl
  shutdown follows := follows.shutdown rfl

theorem follows_cutOff (limits : Limits) (ini : Table String) (host : Surroundings) :
    CutOff (Follows limits ini host) (Follows limits ini host) :=
  fun _ _ _ follows => follows.shutdown rfl

/-- Engines with the same core, whose compiled scripts are good in `host`. -/
structure Alike (host : Surroundings) (directory : Directory) (engine other : Engine) : Prop where
  core : engine.core = other.core
  left : Sound host directory engine
  right : Sound host directory other

section

variable {limits : Limits} {ini : Table String} {host : Surroundings} {directory : Directory}
  {engine other : Engine}

theorem Alike.step (alike : Alike host directory engine other) (step : Engine → Engine)
    (core : ∀ engine : Engine, (step engine).core = (step engine.core).core)
    (cache : ∀ engine : Engine, (step engine).cache = engine.cache)
    (same : ∀ engine : Engine, (step engine).limits = engine.limits) :
    Alike host directory (step engine) (step other) where
  core := by rw [core engine, core other, alike.core]
  left := alike.left.congr (cache engine) (same engine)
  right := alike.right.congr (cache other) (same other)

theorem Alike.startup (alike : Alike host directory engine other) (options : StartupOptions) :
    InStep (Alike host directory) (engine.startup options) (other.startup options) := by
  obtain ⟨exitStatus, cache, hits, misses, rfl⟩ := exists_of_core alike.core
  simp only [Engine.startup]
  split
  · exact ⟨_, _, _, rfl, rfl, alike⟩
  · cases Settings.ofTable options.ini with
    | error fault => exact ⟨_, _, _, rfl, rfl, alike⟩
    | ok settings =>
        exact ⟨_, _, _, rfl, rfl, alike.step
          (fun e => { e with settings, argv := options.argv, started := true })
          (fun _ => rfl) (fun _ => rfl) (fun _ => rfl)⟩

theorem Alike.requestStartup (alike : Alike host directory engine other) :
    InStep (Alike host directory) engine.requestStartup other.requestStartup := by
  obtain ⟨exitStatus, cache, hits, misses, rfl⟩ := exists_of_core alike.core
  simp only [Engine.requestStartup]
  split
  · exact ⟨_, _, _, rfl, rfl, alike.step
      (fun e => { e with
        symbols := requestSymbols e.request, active := true, exitStatus := 0 })
      (fun _ => rfl) (fun _ => rfl) (fun _ => rfl)⟩
  · exact ⟨_, _, _, rfl, rfl, alike⟩

theorem Alike.routeStdio (alike : Alike host directory engine other) :
    InStep (Alike host directory) engine.routeStdio other.routeStdio := by
  obtain ⟨exitStatus, cache, hits, misses, rfl⟩ := exists_of_core alike.core
  simp only [Engine.routeStdio]
  split
  · exact ⟨_, _, _, rfl, rfl, alike.step
      (fun e => { e with outlet := { e.outlet with routed := true } })
      (fun _ => rfl) (fun _ => rfl) (fun _ => rfl)⟩
  · exact ⟨_, _, _, rfl, rfl, alike⟩

theorem conclude_eq (same : engine.settings = other.settings) (emissions : List Emission)
    (outcome : Except ScriptFault Unit) :
    (engine.conclude emissions outcome).1 = (other.conclude emissions outcome).1 := by
  cases outcome with
  | ok => rfl
  | error fault => simp only [conclude, report, same]

theorem runProgram_eq (same : engine.core = other.core) (host : Surroundings) (program : Program) :
    (engine.runProgram host program).1 = (other.runProgram host program).1 := by
  obtain ⟨exitStatus, cache, hits, misses, rfl⟩ := exists_of_core same
  simp only [runProgram]
  refine conclude_eq ?_ _ _
  rfl

theorem execute_eq (same : engine.core = other.core) {host : Surroundings} {script : String}
    (loads : (engine.load host script).1 = (other.load host script).1) :
    (engine.execute host script).1 = (other.execute host script).1 := by
  have core := core_load host script engine
  have core' := core_load host script other
  have started : engine.started = other.started := congrArg (fun core => core.started) same
  have active : engine.active = other.active := congrArg (fun core => core.active) same
  rcases called : engine.load host script with ⟨result, next⟩
  rcases called' : other.load host script with ⟨result', next'⟩
  rw [called] at loads core
  rw [called'] at loads core'
  obtain rfl : result = result' := loads
  have still : next.core = next'.core := core.trans (same.trans core'.symm)
  simp only [Engine.execute, called, called', started, active]
  split
  · rfl
  · split
    · rfl
    · cases result with
      | error fault =>
          obtain ⟨exitStatus, cache, hits, misses, rfl⟩ := exists_of_core still
          exact conclude_eq rfl _ _
      | ok program => exact runProgram_eq still _ program

theorem Alike.execute (alike : Alike host directory engine other) (script : String) :
    (engine.execute (host.under directory) script).1 =
      (other.execute (host.under directory) script).1 := by
  refine execute_eq alike.core ?_
  rw [alike.left.load_eq, alike.right.load_eq]
  obtain ⟨exitStatus, cache, hits, misses, rfl⟩ := exists_of_core alike.core
  rfl

end

theorem alike_congruence (host : Surroundings) : Congruence host (Alike host) where
  startup options alike := alike.startup options
  requestStartup alike := alike.requestStartup
  setSymbol _ _ alike := alike.step _ (fun _ => rfl) (fun _ => rfl) (fun _ => rfl)
  readForm _ _ alike := alike.step _ (fun _ => rfl) (fun _ => rfl) (fun _ => rfl)
  attachBody _ alike := alike.step _ (fun _ => rfl) (fun _ => rfl) (fun _ => rfl)
  exposeStdout alike := alike.step _ (fun _ => rfl) (fun _ => rfl) (fun _ => rfl)
  routeStdio alike := alike.routeStdio
  finishRequestStartup alike := alike
  execute script alike := alike.execute script

/-- Engines that differ in their requests alone are alike once they are told of the same one. -/
theorem core_declare_eq {engine other : Engine} (info : RequestInfo)
    (same : { engine.base with request := none } = { other.base with request := none })
    (modules : engine.modules = other.modules) :
    { engine with request := some info }.core = { other with request := some info }.core := by
  cases engine
  cases other
  simp only [base, core, mk.injEq] at same modules ⊢
  simp_all

/-- The script engine forgets all but modules, as long as changed files tell. -/
theorem forgetful (limits : Limits) (ini : Table String) (host : Surroundings) :
    Forgetful ini (Surroundings.Agree · host) host (Follows limits ini host) (Alike host)
      Engine.modules where
  rules := follows_phaseInvariant limits ini host
  cut := follows_cutOff limits ini host
  congruence := alike_congruence host
  unstarted left right := ⟨left.shape.1.trans right.shape.1.symm, left.sound, right.sound⟩
  declared info left right same := by
    obtain ⟨settings, isSettings, base⟩ := left.shape
    obtain ⟨settings', isSettings', base'⟩ := right.shape
    obtain rfl := Except.ok.inj (isSettings.symm.trans isSettings')
    exact ⟨core_declare_eq info (base.trans base'.symm) same, left.sound, right.sound⟩
  kept_startup options engine := by
    simp only [Interpreter.startup, startup]
    split
    · rfl
    · split <;> rfl
  kept_requestShutdown _ := rfl
  restarts idle unstarted := by
    obtain ⟨settings, isSettings, -⟩ := idle.shape
    have down : Engine.started _ = false := congrArg Prod.fst unstarted.flags
    simp only [Interpreter.startup, startup, down, isSettings]
    rfl

theorem follows_new (limits : Limits) (ini : Table String) (host : Surroundings)
    (directory : Directory) : Follows limits ini host directory .unstarted (Engine.new limits) :=
  ⟨rfl, sound_of_empty rfl, rfl, rfl⟩

end Engine

end ScriptBridge.Script

namespace ScriptBridge.Bridge

/-- Whatever is done with a bridge over the script engine, its engine is in the shape of its phase. -/
theorem rests_shaped (config : Config) (limits : Script.Limits) (env : Environment)
    (history : List (Surroundings × Operation)) :
    ((Bridge.new config (Script.Engine.new limits) env).performAll history).Rests config
      (Script.Engine.Shaped limits config.interpreter.ini) :=
  (rests_new ⟨rfl, rfl, rfl⟩).performAll (Script.Engine.shaped_phaseInvariant limits _)
    (Script.Engine.shaped_cutOff limits _) fun _ _ => trivial

end ScriptBridge.Bridge
