import ScriptBridge.Proofs.Bridge.Settings
import ScriptBridge.Proofs.Relocation
import ScriptBridge.Proofs.Script.Forgetting

/-! # Which script a command runs

A command moves to its directory before its script is looked for. The path of the script was made
for the directory that the command comes from; if it is not absolute, then it is read from the new
directory all the same. Where both readings lead to the same place, the public directory can be
given by a relative path as well as by an absolute one.
-/

namespace ScriptBridge

namespace Script.Engine

/-- An engine in a phase; it has no compiled scripts while it is not started. -/
structure Cold (directory : Directory) (phase : Phase) (engine : Engine) : Prop where
  flags : HasFlags directory phase engine
  empty : phase = .unstarted → engine.cache = []

variable {engine other : Engine}

theorem leads_cold {directory : Directory} {good bad : Phase}
    {step : Except ScriptFault Unit × Engine}
    (flags : Leads step (HasFlags directory good) (HasFlags directory bad))
    (running : good ≠ .unstarted) (empty : bad = .unstarted → step.2.cache = []) :
    Leads step (Cold directory good) (Cold directory bad) := by
  obtain ⟨result, next⟩ := step
  cases result with
  | ok => exact ⟨flags, fun unstarted => absurd unstarted running⟩
  | error fault => exact ⟨flags, empty⟩

theorem cold_phaseInvariant (ini : Table String) :
    PhaseInvariant ini (fun _ => True) Cold where
  flags cold := cold.flags
  relocate cold := ⟨cold.flags, cold.empty⟩
  startup _ cold := leads_cold (LawfulInterpreter.startup _ _ cold.flags) nofun
    fun _ => (cache_startup _ _).trans (cold.empty rfl)
  declare cold := ⟨cold.flags, nofun⟩
  requestStartup cold := leads_cold (LawfulInterpreter.requestStartup _ cold.flags) nofun nofun
  setSymbol cold := ⟨cold.flags, nofun⟩
  readForm cold := ⟨cold.flags, nofun⟩
  attachBody cold := ⟨cold.flags, nofun⟩
  exposeStdout cold := ⟨cold.flags, nofun⟩
  routeStdio cold := ⟨(LawfulInterpreter.routeStdio _).trans cold.flags, nofun⟩
  finishRequestStartup cold := cold
  execute _ cold := ⟨(flags_execute _ _ _).trans cold.flags, nofun⟩
  requestShutdown cold := ⟨LawfulInterpreter.requestShutdown _ cold.flags, nofun⟩
  shutdown cold := ⟨LawfulInterpreter.shutdown _ (congrArg Prod.fst cold.flags), fun _ => rfl⟩

theorem cold_cutOff : CutOff Cold Cold :=
  fun _ _ _ cold => ⟨LawfulInterpreter.shutdown _ (congrArg Prod.fst cold.flags), fun _ => rfl⟩

theorem eq_of_clearCache (same : engine.clearCache = other.clearCache) :
    other = { engine with cache := other.cache } := by
  cases engine
  cases other
  simp only [clearCache, mk.injEq] at same ⊢
  simp [same]

theorem runProgram_clearCache (engine : Engine) (host : Surroundings) (program : Program)
    (cache : List (List String × Compiled)) :
    (engine.runProgram host program).1 =
        (Engine.runProgram host program { engine with cache }).1 ∧
      (engine.runProgram host program).2.clearCache =
        (Engine.runProgram host program { engine with cache }).2.clearCache := by
  simp only [runProgram, scope, constants, frame, occasion]
  rcases program.run _ _ _ _ with ⟨outcome, machine⟩
  cases outcome <;> exact ⟨rfl, rfl⟩

section

variable {host : Surroundings} {path path' : String}

theorem load_congr (cold : engine.cache = [])
    (same : host.files.find host.workingDir path = host.files.find host.workingDir path') :
    (engine.load host path).1 = (engine.load host path').1 ∧
      (engine.load host path).2.clearCache = (engine.load host path').2.clearCache := by
  simp only [load, FileTree.modified_congr same, cold, List.lookup_nil, Option.filter_none, compile,
    FileTree.readText_congr same]
  split
  · exact ⟨rfl, rfl⟩
  · split <;> exact ⟨rfl, rfl⟩

theorem execute_congr (cold : engine.cache = [])
    (same : host.files.find host.workingDir path = host.files.find host.workingDir path') :
    (engine.execute host path).1 = (engine.execute host path').1 ∧
      (engine.execute host path).2.clearCache = (engine.execute host path').2.clearCache := by
  have loaded := load_congr cold same
  simp only [execute]
  rcases called : engine.load host path with ⟨result, next⟩
  rcases called' : engine.load host path' with ⟨result', next'⟩
  rw [called, called'] at loaded
  obtain ⟨rfl, kept⟩ : result = result' ∧ next.clearCache = next'.clearCache := loaded
  rw [eq_of_clearCache kept]
  split
  · exact ⟨rfl, rfl⟩
  · split
    · exact ⟨rfl, rfl⟩
    · cases result with
      | error fault => exact ⟨rfl, rfl⟩
      | ok program => exact runProgram_clearCache next host program _

end

theorem shutdown_of_clearCache (same : engine.clearCache = other.clearCache) :
    engine.requestShutdown.shutdown = other.requestShutdown.shutdown := by
  rw [eq_of_clearCache same]
  rfl

end Script.Engine

theorem Environment.changeDir_congr {env : Environment} {home : Location}
    (live : env.directory = .live home) {files : FileTree} {path path' : String}
    (same : files.resolve home path = files.resolve home path') :
    env.changeDir files path = env.changeDir files path' := by
  simp only [changeDir, live, same]

namespace Command

/-- An absolute path that stands for a public directory: the directory and the script of commands
    are where they are seen from the other path. -/
structure StandsFor (config : CommandConfig) (files : FileTree) (home : Location)
    (publicDir other : String) : Prop where
  absolute : Path.isAbsolute publicDir = true
  workingDir : files.resolve home (paths publicDir config).workingDir =
    files.resolve home (paths other config).workingDir
  entryScript : files.resolve home (paths publicDir config).entryScript =
    files.resolve home (paths other config).entryScript

theorem isAbsolute_join {left : String} (absolute : Path.isAbsolute left = true) (right : String) :
    Path.isAbsolute (Path.join left right) = true := by
  have filled : left.toList ≠ [] := by
    intro empty
    simp [Path.isAbsolute, Text.startsWith, empty] at absolute
  rw [Path.isAbsolute_join filled, absolute, Bool.or_true]

/-- An absolute path to the same directory stands for it, unless a path becomes too long. -/
theorem standsFor_of_resolve {config : CommandConfig} {files : FileTree} {home place : Location}
    {publicDir other : String} (absolute : Path.isAbsolute publicDir = true)
    (leads : files.resolve home publicDir = .ok place)
    (leads' : files.resolve home other = .ok place)
    (short : ∀ dir ∈ [publicDir, other], ∀ path ∈ [config.workingDir, config.entryScript],
      (Path.join dir path).utf8ByteSize ≤ FileTree.maxPathSize) :
    StandsFor config files home publicDir other where
  absolute := absolute
  workingDir := FileTree.resolve_join_congr leads leads' (short _ (by simp) _ (by simp))
    (short _ (by simp) _ (by simp))
  entryScript := FileTree.resolve_join_congr leads leads' (short _ (by simp) _ (by simp))
    (short _ (by simp) _ (by simp))

end Command

namespace Bridge

/-- Where a command looks for its script. -/
def commandDir (host : Surroundings) (publicDir : String) (bridge : Bridge Script.Engine) :
    Location :=
  (bridge.env.changeDir host.files
    (Command.paths publicDir bridge.command).workingDir).workingDir host.workingDir

variable {bridge : Bridge Script.Engine} {host : Surroundings} {publicDir other : String}

theorem executeCommand_eq (bridge : Bridge Script.Engine) (host : Surroundings)
    (publicDir : String) :
    let script := (Command.paths publicDir bridge.command).entryScript
    let run := bridge.interpreter.execute (bridge.surroundings host) script
    let capture := (bridge.capture.emitAll run.1.emissions).mergeStdout
    bridge.executeCommand host publicDir = (capture.body.data,
      { bridge with
        capture
        interpreter := run.2.requestShutdown.shutdown
        state := .uninitialized }) := rfl

theorem executeCommand_congr (cold : bridge.interpreter.cache = [])
    (same : host.files.find (bridge.surroundings host).workingDir
        (Command.paths publicDir bridge.command).entryScript =
      host.files.find (bridge.surroundings host).workingDir
        (Command.paths other bridge.command).entryScript) :
    bridge.executeCommand host publicDir = bridge.executeCommand host other := by
  obtain ⟨execution, kept⟩ :=
    @Script.Engine.execute_congr bridge.interpreter (bridge.surroundings host) _ _ cold same
  simp only [executeCommand_eq, execution, Script.Engine.shutdown_of_clearCache kept]

theorem cache_startCommand {engine next : Script.Engine} {result : Except ScriptFault Unit}
    (started : startCommand engine = (result, next)) : next.cache = engine.cache := by
  have first := Script.Engine.cache_requestStartup engine
  simp only [startCommand] at started
  rcases called : Interpreter.requestStartup engine with ⟨outcome, active⟩
  rw [show engine.requestStartup = (outcome, active) from called] at first
  rw [called] at started
  cases outcome with
  | error fault =>
      obtain ⟨-, rfl⟩ := Prod.mk.inj started
      exact first
  | ok =>
      have second := Script.Engine.cache_routeStdio active
      rw [show active.routeStdio = (result, next) from started] at second
      exact second.trans first

theorem prepareCommand_congr
    (moved : bridge.env.changeDir host.files (Command.paths publicDir bridge.command).workingDir =
      bridge.env.changeDir host.files (Command.paths other bridge.command).workingDir) :
    bridge.takeDown.prepareCommand host publicDir = bridge.takeDown.prepareCommand host other := by
  have command : bridge.takeDown.command = bridge.command :=
    congrArg (·.2.1) bridge.settings_takeDown
  rw [prepareCommand, prepareCommand, env_takeDown, command, moved]

/-- A command in an engine without compiled scripts is the same for two public directories that are
    prepared alike and lead to the same script. -/
theorem runCommand_congr (cold : bridge.takeDown.interpreter.cache = [])
    (prepared : bridge.takeDown.prepareCommand host publicDir =
      bridge.takeDown.prepareCommand host other)
    (same : host.files.find (bridge.commandDir host publicDir)
        (Command.paths publicDir bridge.command).entryScript =
      host.files.find (bridge.commandDir host publicDir)
        (Command.paths other bridge.command).entryScript)
    (line : String) :
    bridge.runCommand host line publicDir = bridge.runCommand host line other := by
  have command : bridge.takeDown.command = bridge.command :=
    congrArg (·.2.1) bridge.settings_takeDown
  have place : ∀ interpreter : Script.Engine,
      (surroundings host { bridge.takeDown.prepareCommand host publicDir with
        interpreter }).workingDir = bridge.commandDir host publicDir := by
    intro interpreter
    simp only [surroundings, prepareCommand, env_takeDown, command, commandDir,
      Environment.workingDir, Environment.directory_setAll]
  simp only [runCommand, ← prepared]
  generalize ready : bridge.takeDown.prepareCommand host publicDir = x at place ⊢
  have cold : x.interpreter.cache = [] := by
    rw [← ready]
    exact cold
  have settings : x.command = bridge.command := by
    rw [← ready]
    exact command
  rcases called : Interpreter.startup (x.commandOptions line) x.interpreter with ⟨result, i⟩
  have idle : i.cache = [] := by
    have kept := Script.Engine.cache_startup (x.commandOptions line) x.interpreter
    rw [show x.interpreter.startup (x.commandOptions line) = (result, i) from called] at kept
    exact kept.trans cold
  cases result with
  | error fault => rfl
  | ok =>
      rcases started : startCommand i with ⟨result, j⟩
      cases result with
      | error fault => simp only [started]
      | ok =>
          simp only [started]
          have active : j.cache = [] := (cache_startCommand started).trans idle
          refine executeCommand_congr active ?_
          rw [place]
          simp only [settings]
          exact same

/-- A command finds no compiled scripts, whichever operations a bridge has been through. -/
theorem cache_takeDown (config : Config) (limits : Script.Limits) (env : Environment)
    (history : List (Surroundings × Operation)) :
    ((Bridge.new config (Script.Engine.new limits) env).performAll
      history).takeDown.interpreter.cache = [] := by
  have rules := Script.Engine.cold_phaseInvariant config.interpreter.ini
  have rests : ((Bridge.new config (Script.Engine.new limits) env).performAll history).Rests config
      Script.Engine.Cold :=
    (rests_new ⟨rfl, fun _ => rfl⟩).performAll rules Script.Engine.cold_cutOff fun _ _ => trivial
  cases active : ((Bridge.new config (Script.Engine.new limits) env).performAll history).active with
  | true =>
      exact (rests.takeDown_of_active rules active Script.Engine.cold_cutOff).interpreter.empty rfl
  | false => exact (rests.takeDown_of_inactive rules active).interpreter.empty rfl

/-- In an environment that moves to the directories that it is asked for, whichever operations a
    bridge has been through. A script that the public directory leads to from where the command
    comes from is the one that runs exactly if its path is absolute, or leads anywhere from the new
    directory and takes both directories back to the same one. Where it runs, a command does the
    same with an absolute path to the public directory; and with such a path it always runs. -/
theorem runCommand_of_live (config : Config) (limits : Script.Limits) (env : Environment)
    (history : List (Surroundings × Operation)) (host : Surroundings) (line publicDir : String)
    {home : Location} :
    let bridge := (Bridge.new config (Script.Engine.new limits) env).performAll history
    bridge.env.directory = .live home →
    let script := (Command.paths publicDir config.command).entryScript
    let next := bridge.commandDir host publicDir
    (∀ place, host.files.resolve home script = .ok place →
      (host.files.resolve next script = .ok place ↔ Path.isAbsolute script = true ∨
        (∃ other, host.files.resolve next script = .ok other) ∧
          above home (Path.route script).1 = above next (Path.route script).1)) ∧
    (∀ other, Command.StandsFor config.command host.files home other publicDir →
      host.files.resolve (bridge.commandDir host other)
          (Command.paths other config.command).entryScript = host.files.resolve home script ∧
        (host.files.resolve next script = host.files.resolve home script →
          bridge.runCommand host line publicDir = bridge.runCommand host line other)) := by
  intro bridge live script next
  have command : bridge.command = config.command :=
    congrArg (·.2.1) (settings_performAll (Bridge.new config (Script.Engine.new limits) env) history)
  refine ⟨fun place leads => FileTree.resolve_elsewhere_iff leads, fun other stands => ?_⟩
  have moved : bridge.env.changeDir host.files (Command.paths publicDir config.command).workingDir =
      bridge.env.changeDir host.files (Command.paths other config.command).workingDir :=
    Environment.changeDir_congr live stands.workingDir.symm
  have together : bridge.commandDir host other = next := by
    simp only [next, commandDir, command, moved]
  have absolute := Command.isAbsolute_join stands.absolute config.command.entryScript
  have intended : host.files.resolve (bridge.commandDir host other)
      (Command.paths other config.command).entryScript = host.files.resolve home script :=
    (FileTree.resolve_of_absolute absolute _ _ home).trans stands.entryScript
  refine ⟨intended, fun runs => ?_⟩
  refine runCommand_congr (cache_takeDown config limits env history) ?_ ?_ line
  · exact prepareCommand_congr (by rw [command, moved])
  · rw [command]
    refine FileTree.find_congr (runs.trans ?_)
    rw [← intended, together]

/-- A public directory right below the place that the command comes from, with a request that was
    never run before. -/
theorem runCommand_of_live_of_neighbour :
    let files := (FileTree.empty.addDirectory ["srv", "public"]).write ["srv", "runner"]
      ⟨utf8 "echo(argv[1]);", 0⟩
    let host : Surroundings := ⟨files, [], 0⟩
    let env : Environment := ⟨.empty, .live ["srv"]⟩
    let history := [(host, .setRequestInfo ⟨"GET", "/", none, none⟩)]
    let bridge := (Bridge.new .standard (Script.Engine.new .standard) env).performAll history
    bridge.env.directory = .live ["srv"] ∧
      (bridge.runCommand host "list" "/srv/public").1 = utf8 "list" ∧
      bridge.runCommand host "list" "public" = bridge.runCommand host "list" "/srv/public" := by
  intro files host env history bridge
  have live : bridge.env.directory = .live ["srv"] := by decide +kernel
  have commands := (runCommand_of_live .standard .standard env history host "list" "public" live).2
  have written : (bridge.runCommand host "list" "/srv/public").1 = utf8 "list" := by decide +kernel
  have short : ∀ dir ∈ ["/srv/public", "public"],
      ∀ path ∈ [CommandConfig.standard.workingDir, CommandConfig.standard.entryScript],
        (Path.join dir path).utf8ByteSize ≤ FileTree.maxPathSize := by decide +kernel
  have absolute : files.resolve ["srv"] "/srv/public" = .ok ["srv", "public"] :=
    eq_ok_of_toOption (by decide +kernel)
  have relative : files.resolve ["srv"] "public" = .ok ["srv", "public"] :=
    eq_ok_of_toOption (by decide +kernel)
  obtain ⟨-, same⟩ := commands "/srv/public"
    (Command.standsFor_of_resolve (by decide) absolute relative short)
  have back : bridge.commandDir host "public" = ["srv"] := by decide +kernel
  exact ⟨live, written, same (congrArg (files.resolve · _) back)⟩

/-- A command whose public directory lies deeper: it is started one directory further down, where its
    script is not, although the path leads to the script from where the command comes from. -/
theorem runCommand_ne_of_deeper_directory :
    let files := (FileTree.empty.addDirectory ["app", "public"]).write ["app", "runner"]
      ⟨utf8 "echo(\"hi\");", 0⟩
    let host : Surroundings := ⟨files, [], 0⟩
    let env : Environment := ⟨.empty, .live []⟩
    let bridge := Bridge.new .standard (Script.Engine.new .standard) env
    Command.StandsFor .standard files [] "/app/public" "app/public" ∧
      files.resolve [] (Command.paths "app/public" .standard).entryScript =
        .ok ["app", "runner"] ∧
      (bridge.runCommand host "list" "/app/public").1 = utf8 "hi" ∧
      (bridge.runCommand host "list" "app/public").1 ≠ utf8 "hi" := by
  intro files host env bridge
  have short : ∀ dir ∈ ["/app/public", "app/public"],
      ∀ path ∈ [CommandConfig.standard.workingDir, CommandConfig.standard.entryScript],
        (Path.join dir path).utf8ByteSize ≤ FileTree.maxPathSize := by decide +kernel
  have absolute : files.resolve [] "/app/public" = .ok ["app", "public"] :=
    eq_ok_of_toOption (by decide +kernel)
  have relative : files.resolve [] "app/public" = .ok ["app", "public"] :=
    eq_ok_of_toOption (by decide +kernel)
  exact ⟨Command.standsFor_of_resolve (by decide) absolute relative short,
    eq_ok_of_toOption (by decide +kernel), by decide +kernel, by decide +kernel⟩

end Bridge

end ScriptBridge
