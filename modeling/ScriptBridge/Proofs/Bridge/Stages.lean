import ScriptBridge.Proofs.Bridge.Settings
import ScriptBridge.Proofs.Bridge.Readiness
import ScriptBridge.Script.Engine

/-! # Requests in one step and in two

A request can be answered in one step, or be seeded first and have its script executed later. Both
ways do the same to a bridge in any state, but that the name of the script is not known yet when a
request is only seeded: one variable of the environment is set to something else. If scripts do not
see the environment as a whole and the request is not described by that variable, then nothing
else differs.
-/

namespace ScriptBridge

namespace Environment

/-- Environments that differ at most in what one variable holds. -/
structure AgreeBut (name : String) (env env' : Environment) : Prop where
  vars (other : String) : other ≠ name → env.get? other = env'.get? other
  directory : env.directory = env'.directory

section

variable {name : String} {env env' : Environment}

theorem AgreeBut.refl (name : String) (env : Environment) : env.AgreeBut name env :=
  ⟨fun _ _ => rfl, rfl⟩

theorem AgreeBut.set (agree : env.AgreeBut name env') (key value : String) :
    (env.set key value).AgreeBut name (env'.set key value) := by
  refine ⟨fun other differs => ?_, agree.directory⟩
  rw [get?_set, get?_set, agree.vars other differs]

theorem AgreeBut.setAll (agree : env.AgreeBut name env') (pairs : List (String × String)) :
    (env.setAll pairs).AgreeBut name (env'.setAll pairs) := by
  induction pairs generalizing env env' with
  | nil => exact agree
  | cons pair pairs ih => exact ih (agree.set pair.1 pair.2)

theorem agreeBut_set (env : Environment) (name value value' : String) :
    (env.set name value).AgreeBut name (env.set name value') := by
  refine ⟨fun other differs => ?_, rfl⟩
  simp only [get?_set, if_neg (Ne.symm differs)]

end

end Environment

/-- The variable that names the script of a request. -/
def scriptVariable : String := "SCRIPT_FILENAME"

namespace Seeder

/-- Whether seeding looks at the variable of the script: among all variables, or in one that
    describes a request. -/
def LooksAtScript (seeder : Seeder) : Prop :=
  seeder.config.exposeEnv = true ∨ seeder.config.cookieEnv = scriptVariable ∨
    seeder.config.contentTypeEnv = scriptVariable

variable {seeder : Seeder} {env env' : Environment}

theorem agreeBut_exportEnvironment (seeder : Seeder) (request : Request)
    (script script' : Option String) (env : Environment) :
    (seeder.exportEnvironment request script env).AgreeBut scriptVariable
      (seeder.exportEnvironment request script' env) := by
  simp only [exportEnvironment, requestVariables, List.cons_append, Environment.setAll,
    List.foldl_cons]
  exact ((Environment.agreeBut_set _ scriptVariable _ _).set _ _).setAll _

variable {σ : Type} [Interpreter σ]

theorem seed_eq_of_agreeBut (blind : ¬ seeder.LooksAtScript)
    (agree : env.AgreeBut scriptVariable env') (now : Int64) (request : Request)
    (interpreter : σ) :
    seeder.seed now request env interpreter = seeder.seed now request env' interpreter := by
  simp only [LooksAtScript, not_or, Bool.not_eq_true] at blind
  obtain ⟨hidden, cookie, contentType⟩ := blind
  have cookies := agree.vars _ cookie
  have type : seeder.contentType request env = seeder.contentType request env' := by
    simp only [Seeder.contentType, agree.vars _ contentType]
  have told : seeder.info request env = seeder.info request env' := by
    simp only [info, type, cookies]
  have given : ∀ interpreter : σ,
      seeder.give now request env interpreter = seeder.give now request env' interpreter := by
    intro interpreter
    simp only [give, giveCookies, giveBody, giveEnvironment, cookies, type, hidden,
      Bool.false_eq_true, if_false]
  simp only [seed, told, given]

end Seeder

namespace Bridge

variable {σ : Type}

/-- Bridges that differ at most in what one variable of the environment holds. -/
structure AgreeBut (name : String) (a b : Bridge σ) : Prop where
  env : a.env.AgreeBut name b.env
  rest : { a with env := b.env } = b

section

variable {name : String} {a b : Bridge σ}

theorem AgreeBut.refl (name : String) (bridge : Bridge σ) : bridge.AgreeBut name bridge :=
  ⟨.refl _ _, rfl⟩

theorem AgreeBut.capture (agree : a.AgreeBut name b) : a.capture = b.capture := by
  rw [← agree.rest]

theorem agreeBut_withEnv {env : Environment} (agree : a.env.AgreeBut name env) :
    a.AgreeBut name { a with env } :=
  ⟨agree, rfl⟩

theorem agreeBut_withEnvs {env env' : Environment} (bridge : Bridge σ)
    (agree : env.AgreeBut name env') :
    Bridge.AgreeBut name { bridge with env } { bridge with env := env' } :=
  ⟨agree, rfl⟩

theorem AgreeBut.exists_eq (agree : a.AgreeBut name b) :
    ∃ env, a.env.AgreeBut name env ∧ b = { a with env } :=
  ⟨b.env, agree.env, agree.rest.symm⟩

end

variable [Interpreter σ]

theorem endRequest_withEnv (bridge : Bridge σ) (env : Environment) :
    { bridge with env }.endRequest = { bridge.endRequest with env } := by
  cases running : Interpreter.active bridge.interpreter <;>
    simp [endRequest, active, running]

theorem takeDown_withEnv (bridge : Bridge σ) (env : Environment) :
    { bridge with env }.takeDown = { bridge.takeDown with env } := by
  cases running : Interpreter.started bridge.interpreter <;>
    simp [takeDown, started, running]

theorem shutdown_withEnv (bridge : Bridge σ) (env : Environment) :
    { bridge with env }.shutdown = { bridge.shutdown with env } := by
  by_cases down : bridge.state = .shutdown ∧ !bridge.started
  · have stays : bridge.shutdown = bridge := if_pos down
    have stays' : { bridge with env }.shutdown = { bridge with env } := if_pos down
    rw [stays, stays']
  · have falls : bridge.shutdown = _ := if_neg down
    have falls' : { bridge with env }.shutdown = _ := if_neg down
    rw [falls, falls', endRequest_withEnv, takeDown_withEnv]

theorem AgreeBut.seed {a b : Bridge σ} (agree : a.AgreeBut scriptVariable b)
    (blind : ¬ a.seeder.LooksAtScript) (now : Int64) (request : Request) :
    (a.seed now request).1 = (b.seed now request).1 ∧
      (a.seed now request).2.AgreeBut scriptVariable (b.seed now request).2 := by
  obtain ⟨env, same, rfl⟩ := agree.exists_eq
  simp only [Bridge.seed, ← Seeder.seed_eq_of_agreeBut blind same now request]
  split
  · next fault interpreter called =>
      refine ⟨rfl, ?_⟩
      have down := shutdown_withEnv { a with state := .seeding, interpreter } env
      simp only at down
      rw [down]
      refine agreeBut_withEnv ?_
      rw [env_shutdown]
      exact same
  · exact ⟨rfl, agreeBut_withEnv same⟩

/-- A request begins alike whether its script is known or not. -/
theorem beginRequest_agreeBut {bridge : Bridge σ} (blind : ¬ bridge.seeder.LooksAtScript)
    {host host' : Surroundings} (clock : host.now = host'.now) (request : Request)
    (script script' : Option String) :
    (bridge.beginRequest host request script).1 = (bridge.beginRequest host' request script').1 ∧
      (bridge.beginRequest host request script).2.AgreeBut scriptVariable
        (bridge.beginRequest host' request script').2 := by
  have settings : bridge.endRequest.warmUp.2.settings = bridge.settings := by simp
  simp only [beginRequest, ← clock]
  rcases called : bridge.endRequest.warmUp with ⟨result, warm⟩
  rw [called] at settings
  cases result with
  | error fault => exact ⟨rfl, .refl _ _⟩
  | ok =>
      have seeder : warm.seeder = bridge.seeder := congrArg Prod.fst settings
      have exported :=
        Seeder.agreeBut_exportEnvironment warm.seeder request script script' warm.env
      have agree := agreeBut_withEnvs { warm with capture := warm.capture.reset } exported
      exact agree.seed (seeder ▸ blind) host.now request

/-- A script runs alike where only that variable differs, and whichever state the bridge was in. -/
theorem AgreeBut.executeSeeded {name : String} {a b : Bridge σ} (agree : a.AgreeBut name b)
    (host : Surroundings) (script : String) (state : LifecycleState) :
    (a.executeSeeded host script).AgreeBut name ({ b with state }.executeSeeded host script) := by
  obtain ⟨env, same, rfl⟩ := agree.exists_eq
  have place : env.workingDir host.workingDir = a.env.workingDir host.workingDir := by
    simp only [Environment.workingDir, same.directory]
  simp only [Bridge.executeSeeded, surroundings, place]
  exact agreeBut_withEnv same

theorem runOnce_setRequestInfo {bridge : Bridge σ} (blind : ¬ bridge.seeder.LooksAtScript)
    {host earlier : Surroundings} (clock : earlier.now = host.now) (request : Request)
    (script : String) :
    let atOnce := bridge.runOnce host request script
    let seeded := bridge.setRequestInfo earlier request
    let executed := seeded.2.executeScript host script
    (∀ done, seeded.1 = .ok done → ∃ body, executed.1 = .ok body ∧
      atOnce.1 = compose executed.2.capture.headers.statusLine
        executed.2.capture.headers.fields.data body ∧
      atOnce.2.AgreeBut scriptVariable executed.2) ∧
    (∀ fault, seeded.1 = .error fault →
      atOnce.1 = failureResponse fault ∧ atOnce.2.AgreeBut scriptVariable seeded.2) := by
  intro atOnce seeded executed
  simp only [atOnce, executed, seeded, runOnce, tryRunOnce, setRequestInfo]
  cases request.validate with
  | error fault =>
      refine ⟨fun _ done => absurd done (by simp), fun fault' failed => ?_⟩
      obtain rfl := Except.error.inj failed
      exact ⟨rfl, .refl _ _⟩
  | ok =>
      obtain ⟨result, agree⟩ :=
        beginRequest_agreeBut blind clock.symm request (some script) none
      rcases begun : bridge.beginRequest host request (some script) with ⟨outcome, known⟩
      rcases begun' : bridge.beginRequest earlier request none with ⟨outcome', unknown⟩
      simp only [begun, begun'] at result agree
      subst result
      cases outcome with
      | error fault =>
          refine ⟨fun _ done => absurd done (by simp), fun fault' failed => ?_⟩
          obtain rfl := Except.error.inj failed
          exact ⟨rfl, agree⟩
      | ok =>
          refine ⟨fun _ _ => ?_, fun _ failed => absurd failed (by simp)⟩
          have ran := agree.executeSeeded host script .requestActive
          simp only [executeScript, if_true]
          refine ⟨_, rfl, ?_, ran⟩
          rw [response, ran.capture]

/-- Whichever operations a bridge has been through, a request is answered in one step as it is in
    two, if its script cannot see the variable that tells them apart. -/
theorem runOnce_agrees_with_stages {config : Config} (hidden : config.request.exposeEnv = false)
    (cookie : config.request.cookieEnv ≠ scriptVariable)
    (contentType : config.request.contentTypeEnv ≠ scriptVariable) (interpreter : σ)
    (env : Environment) (history : List (Surroundings × Operation)) {host earlier : Surroundings}
    (clock : earlier.now = host.now) (request : Request) (script : String) :
    let bridge := (Bridge.new config interpreter env).performAll history
    let atOnce := bridge.runOnce host request script
    let seeded := bridge.setRequestInfo earlier request
    let executed := seeded.2.executeScript host script
    (∀ done, seeded.1 = .ok done → ∃ body, executed.1 = .ok body ∧
      atOnce.1 = compose executed.2.capture.headers.statusLine
        executed.2.capture.headers.fields.data body ∧
      atOnce.2.AgreeBut scriptVariable executed.2) ∧
    (∀ fault, seeded.1 = .error fault →
      atOnce.1 = failureResponse fault ∧ atOnce.2.AgreeBut scriptVariable seeded.2) := by
  have blind :
      ¬ ((Bridge.new config interpreter env).performAll history).seeder.LooksAtScript := by
    rw [seeder_performAll_new]
    simp only [Seeder.LooksAtScript, hidden, Bool.false_eq_true, false_or]
    exact not_or.mpr ⟨cookie, contentType⟩
  exact runOnce_setRequestInfo blind clock request script

/-- A request on top of one that was never run, with a script that looks at the request. -/
theorem runOnce_agrees_with_stages_of_abandoned_request :
    let config : Config := { Config.standard with
      request := { Config.standard.request with exposeEnv := false } }
    let script : File := ⟨utf8 "header(\"X-A: 1\"); echo(_GET[\"c\"]);", 0⟩
    let host : Surroundings := ⟨FileTree.empty.write ["s.rhai"] script, [], 0⟩
    let request : Request := ⟨"GET", "/?c=hi", none, none⟩
    let bridge := (Bridge.new config (Script.Engine.new .standard) (.recording [])).performAll
      [(host, .setRequestInfo ⟨"GET", "/old", none, none⟩)]
    let atOnce := bridge.runOnce host request "s.rhai"
    let seeded := bridge.setRequestInfo host request
    let executed := seeded.2.executeScript host "s.rhai"
    seeded.1 = .ok () ∧ executed.1 = .ok (utf8 "hi") ∧
      atOnce.1 = compose "HTTP/1.1 200 OK" (utf8 "X-A: 1\r\n") (utf8 "hi") ∧
      atOnce.2.AgreeBut scriptVariable executed.2 ∧
      atOnce.2.env.get? scriptVariable ≠ executed.2.env.get? scriptVariable := by
  intro config script host request bridge atOnce seeded executed
  have accepted : seeded.1.toOption = some () := by decide +kernel
  have written : executed.1.toOption = some (utf8 "hi") := by decide +kernel
  have headers : executed.2.capture.headers.statusLine = "HTTP/1.1 200 OK" ∧
      executed.2.capture.headers.fields.data = utf8 "X-A: 1\r\n" := by decide +kernel
  have succeeds : seeded.1 = .ok () := by
    cases result : seeded.1 with
    | ok => rfl
    | error fault => simp [result, Except.toOption] at accepted
  have agrees := @runOnce_agrees_with_stages _ _ config rfl (by decide) (by decide)
    (Script.Engine.new .standard) (.recording [])
    [(host, .setRequestInfo ⟨"GET", "/old", none, none⟩)] host host rfl request "s.rhai"
  obtain ⟨body, ran, answer, same⟩ := agrees.1 () succeeds
  have ran : executed.1 = .ok body := ran
  obtain rfl : body = utf8 "hi" := by
    simpa [ran, Except.toOption] using written
  refine ⟨succeeds, ran, ?_, same, by decide +kernel⟩
  rw [← headers.1, ← headers.2]
  exact answer

end Bridge

end ScriptBridge
