import ScriptBridge.Proofs.Bridge.Forgetting
import ScriptBridge.Proofs.Environment
import ScriptBridge.Worker.Job

/-! # What a script finds

When the script of a request begins to run, the headers of the request are exported and the request
is seeded. The variables of that moment come from three writers, and what each of them leaves is
said here through `get?`: the headers of the request before are taken away and those of the present
one set (`get?_exportRequestHeaders`), and what the request says of itself is set behind them
(`Seeder.get?_exportEnvironment`).
-/

namespace ScriptBridge

open Environment (lastValue?)

/-- A request with its headers and its script, and what surrounds the bridge when its turn comes. -/
structure Errand where
  host : Surroundings
  headers : List (String × String)
  request : Request
  script : String

namespace Errand

def job (errand : Errand) : Job :=
  .answer errand.headers errand.request errand.script

/-- The variables that the headers are exported as, in the order in which they are set. -/
def exported (errand : Errand) : List (String × String) :=
  errand.headers.filterMap Bridge.exportable?

variable {σ : Type} [Interpreter σ]

/-- The bridge at the moment when the script begins to run, if it comes to that. -/
def ready? (errand : Errand) (bridge : Bridge σ) : Option (Bridge σ) :=
  match errand.request.validate with
  | .error _ => none
  | .ok _ =>
    match (bridge.exportRequestHeaders errand.headers).beginRequest errand.host errand.request
        (some errand.script) with
    | (.error _, _) => none
    | (.ok _, ready) => some ready

/-- The bridge after errands that were done one after the other. -/
def runAll (errands : List Errand) (bridge : Bridge σ) : Bridge σ :=
  errands.foldl (fun bridge errand => (errand.job.run errand.host bridge).2) bridge

end Errand

namespace Bridge

theorem startsWith_headerVariable (name : String) :
    Text.startsWith "HTTP_" (headerVariable name) = true := by
  simp [Text.startsWith, headerVariable, String.toList_append]

/-- Headers are only exported as variables of their own kind. -/
theorem startsWith_of_mem_exported {errand : Errand} {name : String}
    (exported : name ∈ errand.exported.map (·.1)) : Text.startsWith "HTTP_" name = true := by
  obtain ⟨entry, member, rfl⟩ := List.mem_map.mp exported
  obtain ⟨header, -, eq⟩ := List.mem_filterMap.mp member
  simp only [exportable?] at eq
  split at eq
  · obtain rfl := Option.some.inj eq
    exact startsWith_headerVariable header.1
  · simp at eq

variable {σ : Type} (bridge : Bridge σ)

theorem get?_exportRequestHeaders (headers : List (String × String)) (name : String) :
    (bridge.exportRequestHeaders headers).env.get? name =
      (lastValue? name (headers.filterMap exportable?)).or
        (if name ∈ bridge.headerExports then none else bridge.env.get? name) := by
  rw [← Environment.get?_foldl_unset, ← Environment.get?_setAll]
  rfl

/-- What only the host changes in a bridge, and no call of its interpreter. -/
def keepsake (bridge : Bridge σ) : Seeder × Table String × List String :=
  (bridge.seeder, bridge.ini, bridge.headerExports)

variable [Interpreter σ]

@[simp]
theorem keepsake_endRequest : bridge.endRequest.keepsake = bridge.keepsake := by
  simp only [endRequest]
  split <;> rfl

@[simp]
theorem keepsake_takeDown : bridge.takeDown.keepsake = bridge.keepsake := by
  simp only [takeDown]
  split <;> rfl

@[simp]
theorem keepsake_warmUp : bridge.warmUp.2.keepsake = bridge.keepsake := by
  simp only [warmUp]
  split
  · rfl
  · split <;> rfl

@[simp]
theorem keepsake_shutdown : bridge.shutdown.keepsake = bridge.keepsake := by
  simp only [shutdown]
  split
  · rfl
  · exact (keepsake_takeDown _).trans (keepsake_endRequest _)

@[simp]
theorem env_shutdown : bridge.shutdown.env = bridge.env := by
  simp only [shutdown]
  split
  · rfl
  · exact (env_takeDown _).trans (env_endRequest _)

theorem seed_frame (now : Int64) (request : Request) :
    (bridge.seed now request).2.keepsake = bridge.keepsake ∧
      (bridge.seed now request).2.env = bridge.env := by
  simp only [seed]
  split
  · exact ⟨keepsake_shutdown _, env_shutdown _⟩
  · exact ⟨rfl, rfl⟩

/-- A request that begins sets its variables; one that does not may leave the environment alone. -/
theorem beginRequest_frame (host : Surroundings) (request : Request) (script : Option String) :
    let begun := bridge.beginRequest host request script
    let exporting := bridge.seeder.exportEnvironment request script bridge.env
    begun.2.keepsake = bridge.keepsake ∧ (begun.2.env = bridge.env ∨ begun.2.env = exporting) ∧
      (begun.1 = .ok () → begun.2.env = exporting) := by
  intro begun exporting
  have keepsake : bridge.endRequest.warmUp.2.keepsake = bridge.keepsake := by simp
  have env : bridge.endRequest.warmUp.2.env = bridge.env := by simp
  simp only [begun, exporting, Bridge.beginRequest]
  rcases called : bridge.endRequest.warmUp with ⟨result, warm⟩
  rw [called] at keepsake env
  simp only at keepsake env
  cases result with
  | error fault => exact ⟨keepsake, Or.inl env, fun ok => absurd ok (by simp)⟩
  | ok =>
      have seeder : warm.seeder = bridge.seeder := congrArg Prod.fst keepsake
      obtain ⟨still, exported⟩ := seed_frame { warm with
        capture := warm.capture.reset
        env := warm.seeder.exportEnvironment request script warm.env } host.now request
      simp only [seeder, env] at still exported ⊢
      rw [exported, still]
      refine ⟨?_, Or.inr rfl, fun _ => rfl⟩
      rw [← keepsake, ← seeder]
      rfl

end Bridge

namespace Errand

variable {σ : Type} [Interpreter σ] {errand : Errand} {bridge ready : Bridge σ}

theorem ready?_eq_some (runs : errand.ready? bridge = some ready) :
    errand.request.validate = .ok () ∧
      (bridge.exportRequestHeaders errand.headers).beginRequest errand.host errand.request
        (some errand.script) = (.ok (), ready) := by
  simp only [ready?] at runs
  split at runs
  · simp at runs
  · next valid =>
      split at runs
      · simp at runs
      · next begins =>
          obtain rfl := Option.some.inj runs
          exact ⟨valid, begins⟩

theorem run_of_ready (runs : errand.ready? bridge = some ready) :
    errand.job.run errand.host bridge =
      (.output (ready.executeSeeded errand.host errand.script).response,
        ready.executeSeeded errand.host errand.script) := by
  obtain ⟨valid, begins⟩ := ready?_eq_some runs
  simp only [job, Job.run, Bridge.runOnce, Bridge.tryRunOnce, valid, begins]

/-- An errand leaves the variables as the export of its headers left them, or with its own variables
    set behind that; with its own set if its script runs. -/
theorem run_frame (errand : Errand) (bridge : Bridge σ) :
    let exporting := bridge.exportRequestHeaders errand.headers
    let seeded := bridge.seeder.exportEnvironment errand.request (some errand.script) exporting.env
    let after := (errand.job.run errand.host bridge).2
    after.keepsake = (bridge.seeder, bridge.ini, errand.exported.map (·.1)) ∧
      (after.env = exporting.env ∨ after.env = seeded) := by
  intro exporting seeded after
  obtain ⟨keepsake, env, -⟩ :=
    exporting.beginRequest_frame errand.host errand.request (some errand.script)
  simp only [after, job, Job.run, Bridge.runOnce, Bridge.tryRunOnce]
  cases errand.request.validate with
  | error fault => exact ⟨rfl, Or.inl rfl⟩
  | ok =>
      rcases begins : exporting.beginRequest errand.host errand.request (some errand.script) with
        ⟨result, begun⟩
      rw [begins] at keepsake env
      cases result with
      | error fault => exact ⟨keepsake, env⟩
      | ok => exact ⟨keepsake, env⟩

theorem env_ready (runs : errand.ready? bridge = some ready) :
    ready.env = bridge.seeder.exportEnvironment errand.request (some errand.script)
      (bridge.exportRequestHeaders errand.headers).env := by
  obtain ⟨-, begins⟩ := ready?_eq_some runs
  obtain ⟨-, -, seeded⟩ := (bridge.exportRequestHeaders errand.headers).beginRequest_frame
    errand.host errand.request (some errand.script)
  rw [begins] at seeded
  exact seeded rfl

end Errand

namespace Seeder

theorem get?_exportEnvironment (seeder : Seeder) (request : Request) (script : Option String)
    (env : Environment) (name : String) :
    (seeder.exportEnvironment request script env).get? name =
      (lastValue? name (seeder.requestVariables request script)).or
        (if request.query.isEmpty ∧ name = "QUERY_STRING" then none else env.get? name) := by
  rw [exportEnvironment, Environment.get?_setAll]
  congr 1
  by_cases empty : request.query.isEmpty
  · by_cases same : name = "QUERY_STRING"
    · simp [empty, same, Environment.get?_unset]
    · simp [empty, same, Environment.get?_unset, Ne.symm same]
  · simp [empty]

end Seeder

end ScriptBridge
