import ScriptBridge.Proofs.Bridge.Deferral
import ScriptBridge.Proofs.Bridge.Delivery
import ScriptBridge.Proofs.Bridge.Leakage
import ScriptBridge.Proofs.Bridge.Stages

/-! # Scripts that fail

A script that fails is compared with one that writes the same and ends. Both are run for the same
request, or for the same command, in bridges that are the same before. With faults hidden they leave
the same behind but for an exit status, the name of the script, its compiled program, and the modules
that it imported. Of these only the modules show in what the bridges answer next, and not in commands.
-/

namespace ScriptBridge

open Script (Engine Settings)

namespace Seeder

variable {env env' : Environment}

end Seeder

namespace Bridge

variable {config : Config} {limits : Script.Limits} {settings : Settings} {host : Surroundings}
  {a b : Bridge Engine}

/-- Bridges without an active request that a script in `host` does not tell apart: it finds the same
    place, and the same variables once its request has set its own, and the engines load the same. -/
structure Indistinct (config : Config) (limits : Script.Limits) (host : Surroundings)
    (a b : Bridge Engine) : Prop where
  left : a.Rests config (Engine.Shaped limits config.interpreter.ini)
  right : b.Rests config (Engine.Shaped limits config.interpreter.ini)
  state : a.state = b.state
  inactive : a.state ≠ .requestActive
  capture : a.capture = b.capture
  directory : a.env.directory = b.env.directory
  exports (request : Request) (script : Option String) :
    a.seeder.exportEnvironment request script a.env =
      a.seeder.exportEnvironment request script b.env
  loads (path : String) :
    (a.interpreter.load (host.under a.env.directory) path).1 =
      (b.interpreter.load (host.under a.env.directory) path).1

theorem Rests.limits_eq (rests : a.Rests config (Engine.Shaped limits config.interpreter.ini)) :
    a.interpreter.limits = limits := by
  obtain ⟨⟨phase, -, holds⟩, -⟩ := rests
  exact holds.interpreter.limits_eq

theorem Rests.settings_eq (rests : a.Rests config (Engine.Shaped limits config.interpreter.ini)) :
    a.settings = (⟨config.serverInfo, config.request⟩, config.command, config.interpreter.ini) := by
  obtain ⟨⟨phase, -, holds⟩, -⟩ := rests
  simp only [settings, holds.seeder, holds.command, holds.ini]

theorem capture_executeSeeded_congr {script : String} (capture : a.capture = b.capture)
    (core : a.interpreter.core = b.interpreter.core)
    (place : a.surroundings host = b.surroundings host)
    (loads : (a.interpreter.load (a.surroundings host) script).1 =
      (b.interpreter.load (b.surroundings host) script).1) :
    (a.executeSeeded host script).capture = (b.executeSeeded host script).capture := by
  have execution : (a.interpreter.execute (a.surroundings host) script).1 =
      (b.interpreter.execute (b.surroundings host) script).1 := by
    rw [← place] at loads ⊢
    exact Engine.execute_eq core loads
  have captured : ∀ bridge : Bridge Engine, (bridge.executeSeeded host script).capture =
      (bridge.capture.emitAll
        (bridge.interpreter.execute (bridge.surroundings host) script).1.emissions).mergeStdout :=
    fun _ => rfl
  rw [captured, captured, capture, execution]

theorem load_of_ready {ready : Bridge Engine} (cache : ready.interpreter.cache = a.interpreter.cache)
    (limits : ready.interpreter.limits = a.interpreter.limits)
    (directory : ready.env.directory = a.env.directory) (host : Surroundings) (script : String) :
    (ready.interpreter.load (ready.surroundings host) script).1 =
      (a.interpreter.load (host.under a.env.directory) script).1 := by
  rw [Engine.load_eq_of_cache cache limits, ← directory]
  rfl

/-- A request begins in both, and then every script has the same captured, if the engines keep the
    same modules. -/
theorem Indistinct.exists_begun (indistinct : Indistinct config limits host a b)
    (modules : a.interpreter.modules = b.interpreter.modules)
    (readable : Settings.ofTable config.interpreter.ini = .ok settings) (request : Request)
    (script : Option String) :
    ∃ begun begun', a.beginRequest host request script = (.ok (), begun) ∧
      b.beginRequest host request script = (.ok (), begun') ∧
        ∀ path, (begun.executeSeeded host path).capture =
          (begun'.executeSeeded host path).capture := by
  obtain ⟨left, right, -, -, capture, directory, exports, loads⟩ := indistinct
  have seeder : a.seeder = b.seeder :=
    congrArg Prod.fst (left.settings_eq.trans right.settings_eq.symm)
  obtain ⟨begun, hits, misses, begins, isBegun⟩ := left.exists_begun readable host request script
  obtain ⟨begun', hits', misses', begins', isBegun'⟩ :=
    right.exists_begun readable host request script
  rw [← seeder, ← exports, ← capture] at isBegun'
  refine ⟨begun, begun', begins, begins', fun path => ?_⟩
  have loaded := @load_of_ready a begun (by rw [isBegun]) (by rw [isBegun, left.limits_eq]; rfl)
    (by rw [isBegun, Seeder.directory_exportEnvironment]) host path
  have loaded' := @load_of_ready b begun' (by rw [isBegun'])
    (by rw [isBegun', right.limits_eq]; rfl)
    (by rw [isBegun', Seeder.directory_exportEnvironment, directory]) host path
  rw [← directory, ← loads, ← loaded] at loaded'
  exact capture_executeSeeded_congr (by rw [isBegun, isBegun'])
    (by rw [isBegun, isBegun', modules]; rfl) (by rw [isBegun, isBegun']; rfl) loaded'.symm

theorem Indistinct.runOnce (indistinct : Indistinct config limits host a b)
    (modules : a.interpreter.modules = b.interpreter.modules)
    (readable : Settings.ofTable config.interpreter.ini = .ok settings) (request : Request)
    (script : String) :
    (a.runOnce host request script).1 = (b.runOnce host request script).1 := by
  cases valid : request.validate with
  | error fault => simp only [Bridge.runOnce, tryRunOnce, valid]
  | ok =>
      obtain ⟨begun, begun', begins, begins', captured⟩ :=
        indistinct.exists_begun modules readable request (some script)
      rw [runOnce_eq_of_begins valid begins, runOnce_eq_of_begins valid begins']
      simp only [response, captured]

theorem Indistinct.runCommand (indistinct : Indistinct config limits host a b)
    (line publicDir : String) :
    (a.runCommand host line publicDir).1 = (b.runCommand host line publicDir).1 := by
  obtain ⟨left, right, -, -, capture, directory, -, -⟩ := indistinct
  have command : a.command = b.command :=
    congrArg (·.2.1) (left.settings_eq.trans right.settings_eq.symm)
  cases readable : Settings.ofTable a.command.ini with
  | error fault =>
      rw [left.runCommand_of_unreadable readable,
        right.runCommand_of_unreadable (command ▸ readable)]
  | ok settings =>
      obtain ⟨runs, hits, misses, isBegun⟩ := left.exists_commandBegun readable host line publicDir
      obtain ⟨runs', hits', misses', isBegun'⟩ :=
        right.exists_commandBegun (command ▸ readable) host line publicDir
      have options : a.commandOptions line = b.commandOptions line := by
        simp only [commandOptions, command]
      have moved := Environment.directory_changeDir_congr directory host.files
        (Command.paths publicDir a.command).workingDir
      rw [← options, ← command, ← capture] at isBegun'
      rw [runs, runs']
      generalize a.commandBegun host line publicDir = begun at isBegun ⊢
      generalize b.commandBegun host line publicDir = begun' at isBegun' ⊢
      have place : begun.surroundings host = begun'.surroundings host := by
        rw [isBegun, isBegun']
        simp only [surroundings, Environment.workingDir, Environment.directory_setAll, moved]
      have entry : begun.command = begun'.command := by rw [isBegun, isBegun']
      have loads : ∀ path, (begun.interpreter.load (begun.surroundings host) path).1 =
          (begun'.interpreter.load (begun'.surroundings host) path).1 := by
        intro path
        rw [place]
        exact Engine.load_eq_of_cache (by rw [isBegun, isBegun']) (by rw [isBegun, isBegun']) _ path
      have captured := @capture_executeSeeded_congr host begun begun'
        (Command.paths publicDir begun.command).entryScript (by rw [isBegun, isBegun'])
        (by rw [isBegun, isBegun']; rfl) place (loads _)
      exact congrArg (fun capture : Capture => capture.body.data) (entry ▸ captured)

/-- Two runs with the same answer, behind which bridges hold the same but for the environment and for
    what their engines keep. -/
structure SameBehind (failed ended : Bytes × Bridge Engine) : Prop where
  answer : failed.1 = ended.1
  rest : { failed.2.core with env := ended.2.env } = ended.2.core

theorem SameBehind.capture {failed ended : Bytes × Bridge Engine} (same : SameBehind failed ended) :
    failed.2.capture = ended.2.capture := by
  rw [← capture_core ended.2, ← same.rest]
  rfl

theorem SameBehind.state {failed ended : Bytes × Bridge Engine} (same : SameBehind failed ended) :
    failed.2.state = ended.2.state := by
  rw [← state_core ended.2, ← same.rest]
  rfl

variable {bridge : Bridge Engine}

end Bridge

end ScriptBridge
