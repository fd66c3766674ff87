import ScriptBridge.Proofs.Bridge.Readiness
import ScriptBridge.Recorder

/-! # Headers are seen by one request

The variables that the script of a request finds are those of its own headers and those of the
request, in front of what the host had before. Of the headers of earlier requests nothing is left
but the absence of what they overwrote: also where their variables collide, where a request was
refused behind the export of its headers, and where a variable is configured.
-/

namespace ScriptBridge

open Environment (lastValue?)

namespace Errand

variable {σ : Type} {config : Config}

/-- What a request says of itself in a variable, for the variables that speak of requests: without
    a query there is none. -/
def spoken? (config : Config) (errand : Errand) (name : String) : Option (Option String) :=
  if name = "REQUEST_URI" then some errand.request.uri
  else if name = "REQUEST_METHOD" then some errand.request.method
  else if name = "SCRIPT_FILENAME" then some errand.script
  else if name = "PHP_SELF" then some config.serverInfo.selfPath
  else if name = "QUERY_STRING" then
    some (if errand.request.query.isEmpty then none else some errand.request.query)
  else none

/-- What a script finds in a variable, behind earlier errands and over what the host had before. -/
def expected? (config : Config) (before : Environment) (earlier : List Errand) (errand : Errand)
    (name : String) : Option String :=
  match lastValue? name config.request.exports, errand.spoken? config name with
  | some value, _ => some value
  | none, some own => own
  | none, none =>
    match lastValue? name errand.exported with
    | some value => some value
    | none =>
      if name ∈ earlier.flatMap fun errand => errand.exported.map (·.1) then none
      else before.get? name

/-- Configured variables come first, then those that speak of the request, and all others stay. -/
theorem get?_exportEnvironment_eq (errand : Errand) (env : Environment) (name : String) :
    (Seeder.exportEnvironment ⟨config.serverInfo, config.request⟩ errand.request
        (some errand.script) env).get? name =
      match lastValue? name config.request.exports, errand.spoken? config name with
      | some value, _ => some value
      | none, some own => own
      | none, none => env.get? name := by
  rw [Seeder.get?_exportEnvironment, Seeder.requestVariables, Environment.lastValue?_append]
  cases configured : lastValue? name config.request.exports with
  | some value => simp
  | none =>
      cases empty : errand.request.query.isEmpty with
      | true =>
          simp only [empty, spoken?]
          grind [Environment.lastValue?_append, Environment.lastValue?_cons,
            Environment.lastValue?_nil]
      | false =>
          simp only [empty, spoken?]
          grind [Environment.lastValue?_append, Environment.lastValue?_cons,
            Environment.lastValue?_nil]

/-- A variable that nobody but headers and the host before speaks of. -/
def IsFree (config : Config) (name : String) : Prop :=
  lastValue? name config.request.exports = none ∧
    ∀ errand : Errand, errand.spoken? config name = none

theorem isFree_of_spoken? {errand : Errand} {name : String}
    (plain : lastValue? name config.request.exports = none)
    (silent : errand.spoken? config name = none) : IsFree config name := by
  refine ⟨plain, fun other => ?_⟩
  simp only [spoken?] at silent ⊢
  grind

/-- How errands leave a bridge, where `seen` are the variables that they exported headers as. A free
    variable that holds no header now is absent if it ever held one, and else as it was before. -/
structure Kept (config : Config) (before : Environment) (seen : List String) (bridge : Bridge σ) :
    Prop where
  seeder : bridge.seeder = ⟨config.serverInfo, config.request⟩
  ini : bridge.ini = config.interpreter.ini
  exports : bridge.headerExports ⊆ seen
  env : ∀ name, IsFree config name → name ∉ bridge.headerExports →
    bridge.env.get? name = if name ∈ seen then none else before.get? name

theorem kept_new (config : Config) (interpreter : σ) (before : Environment) :
    Kept config before [] (Bridge.new config interpreter before) where
  seeder := rfl
  ini := rfl
  exports := List.nil_subset _
  env name _ _ := by simp [Bridge.new]

namespace Kept

variable {before : Environment} {seen : List String} {bridge : Bridge σ}

/-- What the export of headers leaves in a free variable: the last of them that has its name, and no
    header of before. -/
theorem get?_exportRequestHeaders (kept : Kept config before seen bridge) (errand : Errand)
    {name : String} (free : IsFree config name) :
    (bridge.exportRequestHeaders errand.headers).env.get? name =
      (lastValue? name errand.exported).or
        (if name ∈ seen then none else before.get? name) := by
  rw [bridge.get?_exportRequestHeaders errand.headers name]
  congr 1
  by_cases exported : name ∈ bridge.headerExports
  · rw [if_pos exported, if_pos (kept.exports exported)]
  · rw [if_neg exported]
    exact kept.env name free exported

variable [Interpreter σ]

theorem run (kept : Kept config before seen bridge) (errand : Errand) :
    Kept config before (seen ++ errand.exported.map (·.1)) (errand.job.run errand.host bridge).2 := by
  obtain ⟨keepsake, env⟩ := errand.run_frame bridge
  simp only [Bridge.keepsake, Prod.mk.injEq] at keepsake
  obtain ⟨seeder, ini, exports⟩ := keepsake
  constructor
  · rw [seeder, kept.seeder]
  · rw [ini, kept.ini]
  · rw [exports]
    exact List.subset_append_right _ _
  · intro name free absent
    rw [exports] at absent
    have exporting : (bridge.exportRequestHeaders errand.headers).env.get? name =
        if name ∈ seen ++ errand.exported.map (·.1) then none else before.get? name := by
      rw [kept.get?_exportRequestHeaders errand free, Environment.lastValue?_eq_none_iff.mpr absent]
      simp [absent]
    rcases env with env | env
    · rw [env, exporting]
    · rw [env, kept.seeder, get?_exportEnvironment_eq, free.1, free.2 errand]
      exact exporting

theorem runAll (kept : Kept config before seen bridge) (errands : List Errand) :
    Kept config before (seen ++ errands.flatMap fun errand => errand.exported.map (·.1))
      (Errand.runAll errands bridge) := by
  induction errands generalizing seen bridge with
  | nil => simpa [Errand.runAll] using kept
  | cons errand errands ih =>
      rw [List.flatMap_cons, ← List.append_assoc]
      exact ih (kept.run errand)

theorem get?_ready (kept : Kept config before seen bridge) {errand : Errand} {ready : Bridge σ}
    (runs : errand.ready? bridge = some ready) {name : String} (free : IsFree config name) :
    ready.env.get? name =
      (lastValue? name errand.exported).or (if name ∈ seen then none else before.get? name) := by
  rw [env_ready runs, kept.seeder, get?_exportEnvironment_eq, free.1, free.2 errand]
  exact kept.get?_exportRequestHeaders errand free

end Kept

/-- An errand without its headers. -/
def bare (errand : Errand) : Errand :=
  { errand with headers := [] }

/-- Where headers cannot speak, it makes no difference whether there are any. -/
theorem expected?_bare (before : Environment) (earlier : List Errand) (errand : Errand)
    {name : String} (closed : Text.startsWith "HTTP_" name = false ∨
      lastValue? name config.request.exports ≠ none) :
    errand.expected? config before earlier name =
      errand.bare.expected? config before (earlier.map bare) name := by
  have spoken : errand.bare.spoken? config name = errand.spoken? config name := rfl
  simp only [expected?, spoken]
  cases configured : lastValue? name config.request.exports with
  | some value => rfl
  | none =>
      have foreign : Text.startsWith "HTTP_" name = false :=
        closed.resolve_right fun speaks => speaks configured
      have absent : ∀ errand : Errand, name ∉ errand.exported.map (·.1) := by
        intro errand member
        rw [Bridge.startsWith_of_mem_exported member] at foreign
        contradiction
      have unseen : ∀ errands : List Errand,
          name ∉ errands.flatMap fun errand => errand.exported.map (·.1) := by
        intro errands member
        obtain ⟨errand, -, exported⟩ := List.mem_flatMap.mp member
        exact absent errand exported
      rw [Environment.lastValue?_eq_none_iff.mpr (absent errand),
        Environment.lastValue?_eq_none_iff.mpr (absent errand.bare),
        if_neg (unseen earlier), if_neg (unseen (earlier.map bare))]

/-- The script of an errand runs over the variables that its own headers, its request and the
    configuration say, whatever errands were done or refused before. -/
theorem sees_expected [Interpreter σ] (config : Config) (interpreter : σ) (before : Environment)
    (earlier : List Errand) (errand : Errand) {ready : Bridge σ}
    (runs : errand.ready? (runAll earlier (Bridge.new config interpreter before)) = some ready)
    (name : String) :
    (errand.job.run errand.host (runAll earlier (Bridge.new config interpreter before)) =
        (.output (ready.executeSeeded errand.host errand.script).response,
          ready.executeSeeded errand.host errand.script)) ∧
      ready.env.get? name = errand.expected? config before earlier name ∧
      (Text.startsWith "HTTP_" name = false ∨ lastValue? name config.request.exports ≠ none →
        ready.env.get? name = errand.bare.expected? config before (earlier.map bare) name) := by
  have kept := (kept_new config interpreter before).runAll earlier
  have seen : ready.env.get? name = errand.expected? config before earlier name := by
    cases configured : lastValue? name config.request.exports with
    | some value =>
        rw [env_ready runs, kept.seeder, get?_exportEnvironment_eq, expected?, configured]
    | none =>
        cases spoken : errand.spoken? config name with
        | some own =>
            rw [env_ready runs, kept.seeder, get?_exportEnvironment_eq, expected?, configured,
              spoken]
        | none =>
            rw [kept.get?_ready runs (isFree_of_spoken? configured spoken), expected?, configured,
              spoken]
            cases lastValue? name errand.exported <;> simp
  exact ⟨run_of_ready runs, seen, fun closed =>
    seen.trans (expected?_bare before earlier errand closed)⟩

/-- A request whose header takes the name of one before, and of a configured variable, sees neither
    what the one before said nor anything but the configured value. -/
theorem sees_expected_of_colliding_headers :
    let config : Config := { Config.standard with
      request := { Config.standard.request with exports := [("HTTP_HOST", "configured")] } }
    let host : Surroundings := ⟨.empty, [], 0⟩
    let request : Request := ⟨"GET", "/", none, none⟩
    let first : Errand := ⟨host, [("x-a", "old"), ("X_A", "older"), ("x-b", "gone")], request, "s"⟩
    let refused : Errand := ⟨host, [("x-c", "lost")], { request with method := "" }, "s"⟩
    let errand : Errand :=
      ⟨host, [("X-A", "new"), ("host", "spoofed"), ("x-a", "\x00")], request, "s"⟩
    let recorder := Recorder.new [] ⟨false, false, false⟩
    let before := Environment.recording [("HTTP_X_B", "host")]
    let bridge := runAll [first, refused] (Bridge.new config recorder before)
    ∃ ready, errand.ready? bridge = some ready ∧ ready.env.get? "HTTP_X_A" = some "new" ∧
      ready.env.get? "HTTP_X_B" = none ∧ ready.env.get? "HTTP_X_C" = none ∧
      ready.env.get? "HTTP_HOST" = some "configured" := by
  intro config host request first refused errand recorder before bridge
  have begins : (errand.ready? bridge).isSome = true := by decide +kernel
  obtain ⟨ready, runs⟩ := Option.isSome_iff_exists.mp begins
  have sees := fun name =>
    (sees_expected config recorder before [first, refused] errand runs name).2.1
  refine ⟨ready, runs, ?_, ?_, ?_, ?_⟩
  · exact (sees "HTTP_X_A").trans (by decide +kernel)
  · exact (sees "HTTP_X_B").trans (by decide +kernel)
  · exact (sees "HTTP_X_C").trans (by decide +kernel)
  · exact (sees "HTTP_HOST").trans (by decide +kernel)

end Errand

end ScriptBridge
