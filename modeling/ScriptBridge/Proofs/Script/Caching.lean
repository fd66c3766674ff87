import ScriptBridge.Proofs.Script.Forgetting

/-! # Compiled scripts that do not show

An engine that keeps what it has compiled does the same as one that reads and compiles a script each
time that it executes it. The two are led through the same calls, between which files may come, go,
change and change back, as long as what is found at the end of a path is told by the time of its last
change. What is kept may then be old, but it is only used at a time at which it is not.
-/

namespace ScriptBridge.Script

namespace Engine

/-- What an engine is asked to do. -/
inductive Call where
  | startup (options : StartupOptions)
  | declare (info : RequestInfo)
  | requestStartup
  | setSymbol (name : String) (value : Value)
  | readForm (target : FormTarget) (data : Bytes)
  | attachBody (body : Bytes)
  | exposeStdout
  | routeStdio
  | finishRequestStartup
  | execute (path : String)
  | requestShutdown
  | clearCache
  | shutdown

/-- A way to get the program of a file. -/
abbrev Loader := Surroundings → String → Engine → Except ScriptFault Program × Engine

/-- Reads the file and compiles it, whatever was compiled before. -/
def loadAnew : Loader := fun host path engine => (engine.compile host path, engine)

/-- Executes a script that is loaded in some way. -/
def executeBy (loader : Loader) (host : Surroundings) (path : String) (engine : Engine) :
    Execution × Engine :=
  if !engine.started then (⟨[], .error .notStarted⟩, engine)
  else if !engine.active then (⟨[], .error .noActiveRequest⟩, engine)
  else
    match loader host path engine with
    | (.error fault, engine) => engine.conclude [] (.error fault)
    | (.ok program, engine) => engine.runProgram host program

theorem executeBy_load : executeBy load = execute := rfl

/-- A call that emits nothing. -/
def silently (step : Except ScriptFault Unit × Engine) : Execution × Engine :=
  (⟨[], step.1⟩, step.2)

/-- Makes a call to an engine that loads its scripts in some way. -/
def call (loader : Loader) (host : Surroundings) (call : Call) (engine : Engine) :
    Execution × Engine :=
  match call with
  | .startup options => silently (Interpreter.startup options engine)
  | .declare info => silently (.ok (), Interpreter.declare info engine)
  | .requestStartup => silently (Interpreter.requestStartup engine)
  | .setSymbol name value => silently (.ok (), Interpreter.setSymbol name value engine)
  | .readForm target data => silently (.ok (), Interpreter.readForm target data engine)
  | .attachBody body => silently (.ok (), Interpreter.attachBody body engine)
  | .exposeStdout => silently (.ok (), Interpreter.exposeStdout engine)
  | .routeStdio => silently (Interpreter.routeStdio engine)
  | .finishRequestStartup => silently (.ok (), Interpreter.finishRequestStartup engine)
  | .execute path => executeBy loader host path engine
  | .requestShutdown => silently (.ok (), Interpreter.requestShutdown engine)
  | .clearCache => silently (.ok (), engine.clearCache)
  | .shutdown => silently (.ok (), Interpreter.shutdown engine)

/-- What a host sees of a call: the result and the emissions, and the exit status behind it. -/
structure Observation where
  execution : Execution
  exitStatus : Int

/-- What a host sees of calls, each in the surroundings of its time. -/
def observe (loader : Loader) : List (Surroundings × Call) → Engine → List Observation
  | [], _ => []
  | (host, next) :: calls, engine =>
    let (execution, engine) := engine.call loader host next
    ⟨execution, engine.exitStatus⟩ :: observe loader calls engine

/-- An engine without its compiled scripts and their counts. -/
def bare (engine : Engine) : Engine :=
  { engine with cache := [], hits := 0, misses := 0 }

variable {engine other : Engine}

theorem exists_of_bare (same : engine.bare = other.bare) :
    ∃ cache hits misses, other = { engine with cache, hits, misses } := by
  refine ⟨other.cache, other.hits, other.misses, ?_⟩
  cases engine
  cases other
  simp only [bare, mk.injEq] at same ⊢
  simp [same]

/-- Every compiled script is what was compiled at an earlier time, when its file had the time of a last
    change that is kept with it. -/
def Remembers (seen : List Surroundings) (engine : Engine) : Prop :=
  ∀ entry ∈ engine.cache, ∃ host ∈ seen, ∃ path, Path.components path = entry.1 ∧
    host.files.modified host.workingDir path = .ok entry.2.modified ∧
      engine.compile host path = .ok entry.2.program

variable {seen : List Surroundings} {host : Surroundings}

theorem remembers_of_empty (empty : engine.cache = []) : Remembers seen engine := by
  simp [Remembers, empty]

theorem Remembers.congr (remembers : Remembers seen engine) (cache : other.cache = engine.cache)
    (limits : other.limits = engine.limits) : Remembers seen other := by
  intro entry member
  rw [cache] at member
  obtain ⟨host, earlier, path, key, time, compiles⟩ := remembers entry member
  refine ⟨host, earlier, path, key, time, ?_⟩
  simp only [compile, limits] at compiles ⊢
  exact compiles

theorem Remembers.mono {further : List Surroundings} (remembers : Remembers seen engine)
    (more : ∀ host ∈ seen, host ∈ further) : Remembers further engine := by
  intro entry member
  obtain ⟨host, earlier, rest⟩ := remembers entry member
  exact ⟨host, more host earlier, rest⟩

theorem exists_text_of_compile {path : String} {program : Program}
    (compiles : engine.compile host path = .ok program) :
    ∃ text, host.files.readText host.workingDir path = .ok text := by
  simp only [compile] at compiles
  split at compiles
  · contradiction
  · next text reads => exact ⟨text, reads⟩

section

variable {path path' : String}

/-- What is kept of a script whose file has a time of a last change. -/
def kept (modified : Option Int) (path : String) (engine : Engine) : Option Compiled :=
  (engine.cache.lookup (Path.components path)).filter (·.modified == modified)

theorem load_of_modified {modified : Option Int}
    (time : host.files.modified host.workingDir path = .ok modified) :
    (engine.load host path).1 = match engine.kept modified path with
      | some compiled => .ok compiled.program
      | none => engine.compile host path := by
  simp only [load, time, ← kept.eq_def]
  cases engine.kept modified path with
  | some compiled => rfl
  | none =>
      have same : compile host path { engine with misses := engine.misses + 1 } =
          engine.compile host path := rfl
      simp only [same]
      cases engine.compile host path <;> rfl

theorem load_eq_of_cache (cache : other.cache = engine.cache) (limits : other.limits = engine.limits)
    (host : Surroundings) (path : String) :
    (other.load host path).1 = (engine.load host path).1 := by
  cases time : host.files.modified host.workingDir path with
  | error fault => simp only [load, time]
  | ok modified => simp only [load_of_modified time, kept, compile, cache, limits]

end

/-- What was compiled earlier is good now, if what paths lead to is told by its time. -/
theorem Remembers.sound (remembers : Remembers seen engine)
    (dated : ∀ earlier ∈ seen, earlier.Dates host) : Sound host (.recorded none) engine := by
  intro path compiled kept time
  have member : (Path.components path, compiled) ∈ engine.cache := by
    obtain ⟨front, behind, eq, -⟩ := List.lookup_eq_some_iff.mp kept
    simp [eq]
  obtain ⟨earlier, isEarlier, path', key, time', compiles⟩ := remembers _ member
  obtain ⟨text, reads⟩ := exists_text_of_compile compiles
  have reads' := (dated earlier isEarlier).readText key time' time reads
  simp only [compile, reads] at compiles
  simp only [compile, Surroundings.under, Directory.place, reads']
  exact compiles

theorem reload_eq_compile (path : String) : engine.reload host path = engine.compile host path := by
  simp only [reload]
  split
  · next fault fails => simp only [compile, FileTree.readText_of_modified_error fails]
  · rfl

theorem Remembers.load_eq (remembers : Remembers seen engine)
    (dated : ∀ earlier ∈ seen, earlier.Dates host) (path : String) :
    (engine.load host path).1 = engine.compile host path :=
  ((remembers.sound dated).load_eq path).trans (reload_eq_compile path)

theorem bare_load (host : Surroundings) (path : String) (engine : Engine) :
    (engine.load host path).2.bare = engine.bare := by
  simp only [load]
  split
  · rfl
  · split
    · rfl
    · split <;> rfl

theorem Remembers.load (remembers : Remembers seen engine) (path : String) :
    Remembers (host :: seen) (engine.load host path).2 := by
  have before : Remembers (host :: seen) engine :=
    remembers.mono fun _ earlier => List.mem_cons_of_mem _ earlier
  simp only [Engine.load]
  cases time : host.files.modified host.workingDir path with
  | error fault => exact before
  | ok modified =>
      simp only
      split
      · exact before
      · split
        · exact before
        · next program compiles =>
            intro entry member
            rcases List.mem_cons.mp member with rfl | kept
            · exact ⟨host, List.mem_cons_self, path, rfl, time, compiles⟩
            · exact before entry (List.mem_filter.mp kept).1

theorem bare_conclude (same : engine.bare = other.bare) (emissions : List Emission)
    (outcome : Except ScriptFault Unit) :
    (engine.conclude emissions outcome).1 = (other.conclude emissions outcome).1 ∧
      (engine.conclude emissions outcome).2.bare = (other.conclude emissions outcome).2.bare := by
  obtain ⟨cache, hits, misses, rfl⟩ := exists_of_bare same
  cases outcome <;> exact ⟨rfl, rfl⟩

theorem bare_runProgram (same : engine.bare = other.bare) (host : Surroundings)
    (program : Program) :
    (engine.runProgram host program).1 = (other.runProgram host program).1 ∧
      (engine.runProgram host program).2.bare = (other.runProgram host program).2.bare := by
  obtain ⟨cache, hits, misses, rfl⟩ := exists_of_bare same
  refine bare_conclude ?_ _ _
  rfl

theorem bare_executeBy {loader loader' : Loader} {path : String} (same : engine.bare = other.bare)
    (loads : (loader host path engine).1 = (loader' host path other).1)
    (left : (loader host path engine).2.bare = engine.bare)
    (right : (loader' host path other).2.bare = other.bare) :
    (executeBy loader host path engine).1 = (executeBy loader' host path other).1 ∧
      (executeBy loader host path engine).2.bare = (executeBy loader' host path other).2.bare := by
  have started : engine.started = other.started := congrArg (fun bare => bare.started) same
  have active : engine.active = other.active := congrArg (fun bare => bare.active) same
  simp only [executeBy, ← started, ← active]
  rcases called : loader host path engine with ⟨result, next⟩
  rcases called' : loader' host path other with ⟨result', next'⟩
  rw [called, called'] at loads
  rw [called] at left
  rw [called'] at right
  obtain rfl : result = result' := loads
  have alike : next.bare = next'.bare := left.trans (same.trans right.symm)
  split
  · exact ⟨rfl, same⟩
  · split
    · exact ⟨rfl, same⟩
    · cases result with
      | error fault => exact bare_conclude alike _ _
      | ok program => exact bare_runProgram alike host program

theorem call_bare (loader loader' : Loader) (host : Surroundings) {next : Call}
    (loadless : ∀ path, next ≠ .execute path) (engine : Engine) :
    (engine.call loader host next).1 = (engine.bare.call loader' host next).1 ∧
      (engine.call loader host next).2.bare = (engine.bare.call loader' host next).2.bare := by
  cases next with
  | execute path => exact absurd rfl (loadless path)
  | startup options =>
      cases up : engine.started <;> cases read : Settings.ofTable options.ini <;>
        simp [call, silently, Interpreter.startup, startup, bare, up, read]
  | requestStartup =>
      cases up : engine.started <;>
        simp [call, silently, Interpreter.requestStartup, requestStartup, bare, up]
  | routeStdio =>
      cases up : engine.started <;>
        simp [call, silently, Interpreter.routeStdio, routeStdio, bare, up]
  | shutdown =>
      cases running : engine.active <;>
        simp [call, silently, Interpreter.shutdown, shutdown, requestShutdown, bare, running]
  | declare | setSymbol | readForm | attachBody | exposeStdout | finishRequestStartup
  | requestShutdown | clearCache => exact ⟨rfl, rfl⟩

theorem Remembers.call_eq (remembers : Remembers seen engine)
    (dated : ∀ earlier ∈ seen, earlier.Dates host) (same : engine.bare = other.bare)
    (next : Call) :
    (engine.call Engine.load host next).1 = (other.call loadAnew host next).1 ∧
      (engine.call Engine.load host next).2.bare = (other.call loadAnew host next).2.bare := by
  by_cases loadless : ∀ path, next ≠ .execute path
  · obtain ⟨left, left'⟩ := call_bare Engine.load loadAnew host loadless engine
    obtain ⟨right, right'⟩ := call_bare loadAnew loadAnew host loadless other
    exact ⟨left.trans (same ▸ right.symm), left'.trans (same ▸ right'.symm)⟩
  · obtain ⟨path, rfl⟩ : ∃ path, next = .execute path := by simpa using loadless
    refine bare_executeBy same ?_ (bare_load host path engine) rfl
    obtain ⟨cache, hits, misses, rfl⟩ := exists_of_bare same
    exact remembers.load_eq dated path

theorem Remembers.execute (remembers : Remembers seen engine) (path : String) :
    Remembers (host :: seen) (engine.execute host path).2 := by
  have before : Remembers (host :: seen) engine :=
    remembers.mono fun _ earlier => List.mem_cons_of_mem _ earlier
  have loaded : Remembers (host :: seen) (engine.load host path).2 := remembers.load path
  simp only [Engine.execute]
  rcases called : engine.load host path with ⟨result, next⟩
  rw [called] at loaded
  split
  · exact before
  · split
    · exact before
    · cases result with
      | error fault => exact loaded.congr rfl rfl
      | ok program =>
          have limits : (next.runProgram host program).2.limits = next.limits :=
            congrArg (fun core => core.limits) (core_conclude _ _ _)
          exact loaded.congr (cache_conclude _ _ _) limits

theorem Remembers.call (remembers : Remembers seen engine) (next : Call) :
    Remembers (host :: seen) (engine.call Engine.load host next).2 := by
  have before : Remembers (host :: seen) engine :=
    remembers.mono fun _ earlier => List.mem_cons_of_mem _ earlier
  cases next with
  | execute path => exact remembers.execute path
  | startup options => exact before.congr (cache_startup _ _) (limits_startup _ _)
  | requestStartup => exact before.congr (cache_requestStartup _) (limits_requestStartup _)
  | routeStdio => exact before.congr (cache_routeStdio _) (limits_routeStdio _)
  | shutdown | clearCache => exact remembers_of_empty rfl
  | declare | setSymbol | readForm | attachBody | exposeStdout | finishRequestStartup
  | requestShutdown => exact before.congr rfl rfl

/-- What a host sees of an engine does not depend on what the engine keeps. -/
theorem Remembers.observe_eq (remembers : Remembers seen engine) (same : engine.bare = other.bare)
    {calls : List (Surroundings × Call)}
    (dated : ∀ earlier ∈ seen, ∀ later ∈ calls, earlier.Dates later.1)
    (told : calls.Pairwise fun earlier later => earlier.1.Dates later.1) :
    observe Engine.load calls engine = observe loadAnew calls other := by
  induction calls generalizing engine other seen with
  | nil => rfl
  | cons first calls ih =>
      obtain ⟨host, next⟩ := first
      obtain ⟨onwards, told⟩ := List.pairwise_cons.mp told
      have now : ∀ earlier ∈ seen, earlier.Dates host := fun earlier isEarlier =>
        dated earlier isEarlier (host, next) List.mem_cons_self
      obtain ⟨execution, still⟩ := remembers.call_eq now same next
      have further : ∀ earlier ∈ host :: seen, ∀ later ∈ calls, earlier.Dates later.1 := by
        intro earlier isEarlier later isLater
        rcases List.mem_cons.mp isEarlier with rfl | before
        · exact onwards later isLater
        · exact dated earlier before later (List.mem_cons_of_mem _ isLater)
      have exitStatus : (engine.call Engine.load host next).2.exitStatus =
          (other.call loadAnew host next).2.exitStatus :=
        congrArg (fun bare => bare.exitStatus) still
      simp only [observe, execution, exitStatus, ih (remembers.call next) still further told]

/-- The compiled scripts that an engine keeps are invisible: whatever it is asked for, and whatever
    happens to the files in the meantime, every call has the result, the emissions and the exit status
    that it has in an engine that reads and compiles each script anew, as long as what a path leads to
    is told by the time of its last change. -/
theorem observe_load_eq_loadAnew (limits : Limits) (history : List (Surroundings × Call))
    (told : history.Pairwise fun earlier later => earlier.1.Dates later.1) :
    observe Engine.load history (new limits) = observe loadAnew history (new limits) :=
  (remembers_of_empty rfl : Remembers [] (new limits)).observe_eq rfl nofun told

/-- A file in the working directory, as it was at some time. -/
def surroundingsAt (time : Int) (script : String) : Surroundings :=
  ⟨FileTree.empty.write ["s.rhai"] ⟨utf8 script, time⟩, [], 0⟩

theorem dates_surroundingsAt {time time' : Int} {script script' : String}
    (told : time = time' → script = script') :
    (surroundingsAt time script).Dates (surroundingsAt time' script') := by
  have only : ∀ {time : Int} {script : String} {place : Location} {file : File},
      (surroundingsAt time script).files.at? place = some (.file file) →
        file = ⟨utf8 script, time⟩ := by
    intro time script place file found
    have entries : (surroundingsAt time script).files.entries =
        [(["s.rhai"], .file ⟨utf8 script, time⟩)] := rfl
    simp only [FileTree.at?, entries] at found
    split at found
    · simp at found
    · simp only [List.lookup_cons, List.lookup_nil] at found
      split at found <;> simp_all
  refine Surroundings.Agree.dates ⟨rfl, fun left right same => ?_⟩
  obtain rfl := only left
  obtain rfl := only right
  rw [told same]

/-- A script that is broken for a while, and restored with the time that it had before. -/
theorem observe_load_eq_loadAnew_of_restored_script :
    let good := surroundingsAt 1 "echo(1);"
    let broken := surroundingsAt 2 "echo(1"
    let history : List (Surroundings × Call) :=
      [(good, .startup ⟨[], []⟩), (good, .requestStartup), (good, .execute "s.rhai"),
        (broken, .execute "s.rhai"), (good, .execute "./s.rhai"), (good, .execute "s.rhai")]
    (history.Pairwise fun earlier later => earlier.1.Dates later.1) ∧
      observe Engine.load history (new .standard) = observe loadAnew history (new .standard) ∧
      (observe loadAnew history (new .standard)).map (·.exitStatus) = [0, 0, 0, 255, 0, 0] := by
  intro good broken history
  have same : good.Dates good := dates_surroundingsAt fun _ => rfl
  have changed : good.Dates broken := dates_surroundingsAt (by decide)
  have restored : broken.Dates good := dates_surroundingsAt (by decide)
  have told : history.Pairwise fun earlier later => earlier.1.Dates later.1 := by
    simp [history, same, changed, restored]
  exact ⟨told, observe_load_eq_loadAnew .standard history told, by decide +kernel⟩

end Engine

end ScriptBridge.Script
