import ScriptBridge.Proofs.Bridge.Forgetting

/-! # What a bridge is set up with

A bridge keeps what its configuration says of requests and commands, whatever its interpreter does
and whichever operations it went through.
-/

namespace ScriptBridge

namespace Bridge

variable {σ : Type}

/-- What a bridge is set up with. -/
def settings (bridge : Bridge σ) : Seeder × CommandConfig × Table String :=
  (bridge.seeder, bridge.command, bridge.ini)

variable [Interpreter σ] (bridge : Bridge σ)

@[simp]
theorem settings_endRequest : bridge.endRequest.settings = bridge.settings := by
  simp only [endRequest]
  split <;> rfl

@[simp]
theorem settings_takeDown : bridge.takeDown.settings = bridge.settings := by
  simp only [takeDown]
  split <;> rfl

@[simp]
theorem settings_warmUp : bridge.warmUp.2.settings = bridge.settings := by
  simp only [warmUp]
  split
  · rfl
  · split <;> rfl

@[simp]
theorem settings_shutdown : bridge.shutdown.settings = bridge.settings := by
  simp only [shutdown]
  split
  · rfl
  · exact (settings_takeDown _).trans (settings_endRequest _)

@[simp]
theorem settings_seed (now : Int64) (request : Request) :
    (bridge.seed now request).2.settings = bridge.settings := by
  simp only [seed]
  split
  · exact settings_shutdown _
  · rfl

@[simp]
theorem settings_beginRequest (host : Surroundings) (request : Request) (script : Option String) :
    (bridge.beginRequest host request script).2.settings = bridge.settings := by
  have ready : bridge.endRequest.warmUp.2.settings = bridge.settings := by simp
  simp only [beginRequest]
  split
  · next called =>
      rw [called] at ready
      exact ready
  · next called =>
      rw [called] at ready
      exact (settings_seed _ _ _).trans ready

theorem settings_setRequestInfo (host : Surroundings) (request : Request) :
    (bridge.setRequestInfo host request).2.settings = bridge.settings := by
  have begun := bridge.settings_beginRequest host request none
  simp only [setRequestInfo]
  split
  · rfl
  · split
    all_goals
      next called =>
        rw [called] at begun
        exact begun

theorem settings_executeScript (host : Surroundings) (script : String) :
    (bridge.executeScript host script).2.settings = bridge.settings := by
  simp only [executeScript]
  split <;> rfl

theorem settings_runOnce (host : Surroundings) (request : Request) (script : String) :
    (bridge.runOnce host request script).2.settings = bridge.settings := by
  have begun := bridge.settings_beginRequest host request (some script)
  simp only [runOnce, tryRunOnce]
  cases request.validate with
  | error fault => rfl
  | ok =>
      rcases called : bridge.beginRequest host request (some script) with ⟨result, next⟩
      rw [called] at begun
      cases result with
      | error fault => exact begun
      | ok => exact begun

theorem settings_runCommand (host : Surroundings) (line publicDir : String) :
    (bridge.runCommand host line publicDir).2.settings = bridge.settings := by
  have down := bridge.settings_takeDown
  simp only [runCommand]
  split
  · exact down
  · split <;> exact down

omit [Interpreter σ] in
theorem settings_setEnvironmentVariable (name value : String) (overwrite : Bool) :
    (bridge.setEnvironmentVariable name value overwrite).2.settings = bridge.settings := by
  simp only [setEnvironmentVariable]
  split
  · split <;> rfl
  · rfl

theorem settings_perform (host : Surroundings) (operation : Operation) :
    (bridge.perform host operation).2.settings = bridge.settings := by
  cases operation with
  | warmUp => exact bridge.settings_warmUp
  | runOnce request script => exact bridge.settings_runOnce host request script
  | setRequestInfo request => exact bridge.settings_setRequestInfo host request
  | executeScript script => exact bridge.settings_executeScript host script
  | runCommand line publicDir => exact bridge.settings_runCommand host line publicDir
  | setVariable name value overwrite =>
      exact bridge.settings_setEnvironmentVariable name value overwrite
  | exportHeaders headers => rfl
  | shutdown => exact bridge.settings_shutdown

theorem settings_performAll (history : List (Surroundings × Operation)) :
    (bridge.performAll history).settings = bridge.settings := by
  induction history generalizing bridge with
  | nil => rfl
  | cons entry history ih => exact (ih _).trans (bridge.settings_perform entry.1 entry.2)

theorem seeder_performAll_new (config : Config) (interpreter : σ) (env : Environment)
    (history : List (Surroundings × Operation)) :
    ((Bridge.new config interpreter env).performAll history).seeder =
      ⟨config.serverInfo, config.request⟩ :=
  congrArg Prod.fst (settings_performAll _ history)

end Bridge

end ScriptBridge
