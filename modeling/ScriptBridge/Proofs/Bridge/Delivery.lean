import ScriptBridge.Proofs.Bridge.Commands
import ScriptBridge.Proofs.Bridge.Seeding
import ScriptBridge.Proofs.Bridge.Splitting
import ScriptBridge.Proofs.Script.Drafts

/-! # What is delivered of a draft

A bridge whose engine shows no faults makes of the draft of a script a response or the output of a
command. What it returns and what it becomes is said here as a function of the writes of the draft; how
the draft ends is found in the exit status and nowhere else.
-/

namespace ScriptBridge

namespace Script.Engine

variable {limits : Limits} {settings : Settings} {engine : Engine}

/-- An engine without compiled scripts that was started for a command and runs it. -/
def commanded (limits : Limits) (settings : Settings) (argv : List String) : Engine :=
  { Engine.new limits with
    started := true
    settings
    argv
    outlet := { Outlet.new limits.maxOutputSize with routed := true }
    symbols := requestSymbols none
    active := true }

theorem Shaped.limits_eq {ini : Table String} {directory : Directory} {phase : Phase}
    (shaped : Shaped limits ini directory phase engine) : engine.limits = limits := by
  have shape := shaped.shape
  match phase with
  | .unstarted => exact congrArg Engine.limits shape.1
  | .idle .requests =>
      obtain ⟨settings, -, eq⟩ := shape
      exact congrArg Engine.limits eq
  | .active .requests =>
      obtain ⟨settings, -, eq⟩ := shape
      exact congrArg Engine.limits eq
  | .idle .command | .active .command =>
      have limits : engine.shutdown.limits = engine.limits := by
        simp only [Engine.shutdown]
        split <;> rfl
      exact limits.symm.trans (congrArg Engine.limits shape)

end Script.Engine

namespace Bridge

open Script (Engine Outlet Settings)

/-- A bridge without what its engine keeps from one request to the next. -/
def core (bridge : Bridge Engine) : Bridge Engine :=
  { bridge with interpreter := bridge.interpreter.base }

theorem state_core (bridge : Bridge Engine) : bridge.core.state = bridge.state := rfl

theorem capture_core (bridge : Bridge Engine) : bridge.core.capture = bridge.capture := rfl

variable {config : Config} {limits : Script.Limits} {settings : Settings} {bridge : Bridge Engine}

theorem Rests.exists_begun
    (rests : bridge.Rests config (Engine.Shaped limits config.interpreter.ini))
    (readable : Settings.ofTable config.interpreter.ini = .ok settings) (host : Surroundings)
    (request : Request) (script : Option String) :
    ∃ begun hits misses, bridge.beginRequest host request script = (.ok (), begun) ∧
      let env := bridge.seeder.exportEnvironment request script bridge.env
      let engine := bridge.seeder.serving request env limits settings host.now
      begun = { bridge with
        interpreter := { engine with
          cache := bridge.interpreter.cache
          modules := bridge.interpreter.modules
          hits
          misses }
        env
        capture := bridge.capture.reset.openStdout
        state := .seeding } := by
  have begins := rests.begins (Engine.shaped_phaseInvariant limits config.interpreter.ini) readable
    host request script
  rcases called : bridge.beginRequest host request script with ⟨result, begun⟩
  rw [called] at begins
  obtain rfl : result = .ok () := begins
  obtain ⟨settings', hits, misses, isSettings, isBegun⟩ := rests.eq_of_begins called
  obtain rfl := Except.ok.inj (isSettings.symm.trans readable)
  exact ⟨begun, hits, misses, rfl, isBegun⟩

theorem runOnce_eq_of_begins {host : Surroundings} {request : Request} {script : String}
    {begun : Bridge Engine} (valid : request.validate = .ok ())
    (begins : bridge.beginRequest host request (some script) = (.ok (), begun)) :
    bridge.runOnce host request script =
      ((begun.executeSeeded host script).response, begun.executeSeeded host script) := by
  simp only [runOnce, tryRunOnce, valid, begins]

/-- The bridge in which the script of a command runs, if the engine can be started for it. -/
def commandBegun (host : Surroundings) (line publicDir : String) (bridge : Bridge Engine) :
    Bridge Engine :=
  let ready := bridge.takeDown.prepareCommand host publicDir
  let started := (Interpreter.startup (ready.commandOptions line) ready.interpreter).2
  { ready with interpreter := (startCommand started).2 }

/-- A command finds an engine that is as good as new. -/
theorem Rests.exists_takeDown
    (rests : bridge.Rests config (Engine.Shaped limits config.interpreter.ini)) :
    ∃ down : Engine, bridge.takeDown = { bridge with interpreter := down } ∧
      down.core = Engine.new limits ∧ down.cache = [] := by
  have rules := Engine.shaped_phaseInvariant limits config.interpreter.ini
  have down : bridge.takeDown.In config (Engine.Shaped limits config.interpreter.ini) .unstarted := by
    cases active : bridge.active with
    | true => exact rests.takeDown_of_active rules active (Engine.shaped_cutOff limits _)
    | false => exact rests.takeDown_of_inactive rules active
  refine ⟨bridge.takeDown.interpreter, ?_, down.interpreter.shape⟩
  simp only [Bridge.takeDown]
  split <;> rfl

theorem exists_startCommand {engine : Engine} (new : engine.core = Engine.new limits)
    (cold : engine.cache = []) {options : StartupOptions}
    (readable : Settings.ofTable options.ini = .ok settings) :
    ∃ idle hits misses, Interpreter.startup options engine = (.ok (), idle) ∧
      startCommand idle =
        (.ok (), { Engine.commanded limits settings options.argv with hits, misses }) := by
  obtain ⟨exitStatus, cache, hits, misses, rfl⟩ :=
    @Engine.exists_of_core (Engine.new limits) engine new.symm
  obtain rfl : cache = [] := cold
  refine ⟨{ Engine.new limits with
    exitStatus, hits, misses, settings, argv := options.argv, started := true }, hits, misses, ?_, rfl⟩
  simp only [Interpreter.startup, Engine.startup, readable]
  rfl

theorem Rests.exists_commandBegun
    (rests : bridge.Rests config (Engine.Shaped limits config.interpreter.ini))
    (readable : Settings.ofTable bridge.command.ini = .ok settings) (host : Surroundings)
    (line publicDir : String) :
    let begun := bridge.commandBegun host line publicDir
    let paths := Command.paths publicDir bridge.command
    bridge.runCommand host line publicDir = begun.executeCommand host publicDir ∧
      ∃ hits misses, begun = { bridge with
        interpreter :=
          { Engine.commanded limits settings (bridge.commandOptions line).argv with hits, misses }
        env := (bridge.env.changeDir host.files paths.workingDir).setAll bridge.command.env
        capture := bridge.capture.reset } := by
  intro begun paths
  obtain ⟨down, taken, new, cold⟩ := rests.exists_takeDown
  have ready : bridge.takeDown.prepareCommand host publicDir = { bridge with
      interpreter := down
      env := (bridge.env.changeDir host.files paths.workingDir).setAll bridge.command.env
      capture := bridge.capture.reset } := by
    rw [taken]
    rfl
  have interpreter : (bridge.takeDown.prepareCommand host publicDir).interpreter = down := by
    rw [ready]
  have options : (bridge.takeDown.prepareCommand host publicDir).commandOptions line =
      bridge.commandOptions line := by
    rw [ready]
    rfl
  obtain ⟨idle, hits, misses, starts, commands⟩ :=
    @exists_startCommand limits settings down new cold (bridge.commandOptions line) readable
  have isBegun : begun = { bridge.takeDown.prepareCommand host publicDir with
      interpreter :=
        { Engine.commanded limits settings (bridge.commandOptions line).argv with hits, misses } } := by
    simp only [begun, commandBegun, interpreter, options, starts, commands]
  refine ⟨?_, hits, misses, by rw [isBegun, ready]⟩
  rw [isBegun]
  simp only [Bridge.runCommand, interpreter, options, starts, commands]

theorem Rests.runCommand_of_unreadable
    (rests : bridge.Rests config (Engine.Shaped limits config.interpreter.ini)) {fault : ScriptFault}
    (unreadable : Settings.ofTable bridge.command.ini = .error fault) (host : Surroundings)
    (line publicDir : String) : (bridge.runCommand host line publicDir).1 = initFailed := by
  obtain ⟨down, taken, new, -⟩ := rests.exists_takeDown
  have unstarted : down.started = false := congrArg Engine.started new
  have refused : Interpreter.startup (bridge.commandOptions line) down = (.error fault, down) := by
    simp only [Interpreter.startup, Engine.startup, unstarted, Bool.false_eq_true, if_false,
      commandOptions, unreadable]
  have options : (bridge.takeDown.prepareCommand host publicDir).commandOptions line =
      bridge.commandOptions line := by
    rw [taken]
    rfl
  have interpreter : (bridge.takeDown.prepareCommand host publicDir).interpreter = down := by
    rw [taken]
    rfl
  simp only [Bridge.runCommand, options, interpreter, refused]

end Bridge

end ScriptBridge
