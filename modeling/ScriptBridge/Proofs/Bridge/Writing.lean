import ScriptBridge.Proofs.Bridge.Readiness
import ScriptBridge.Proofs.Bridge.Settings
import ScriptBridge.Config.Validation
import ScriptBridge.Recorder

/-! # What is written into the environment

An operation clears its ground first, and then passes pairs to the environment one after the other
(`Bridge.writes`, which `env_perform` ties to what the operation does). The name of every pair is one
that a variable can have, since the configuration was looked at before, or the host is. Values are
only looked at where a host sets variables by itself; what a request, a script or the configuration
gives is passed on as it is.
-/

namespace ScriptBridge

namespace Environment

theorem isStorable_iff {entry : String × String} :
    isStorable entry = true ↔ isName entry.1 = true ∧ isValue entry.2 = true := by
  simp [isStorable]

theorem isValue_iff {text : String} : isValue text = true ↔ '\x00' ∉ text.toList := by
  simp [isValue]

end Environment

theorem Request.isValue_query {request : Request}
    (whole : Environment.isValue request.uri = true) :
    Environment.isValue request.query = true := by
  rw [Environment.isValue_iff] at whole ⊢
  simp only [Request.query, Text.cutFirst?]
  cases cut : cutFirst? '?' request.uri.toList with
  | none => simp
  | some parts =>
      obtain ⟨before, behind⟩ := parts
      rw [cutFirst?_eq_some cut] at whole
      simpa using fun held => whole (by simp [held])

namespace Config

/-- The variables of a configuration have names that variables can have. -/
structure NamesVariables (config : Config) : Prop where
  exports : ∀ entry ∈ config.request.exports, Environment.isName entry.1 = true
  command : ∀ entry ∈ config.command.env, Environment.isName entry.1 = true

theorem isName_of_validateVariables {place : VariableSection} {vars : Table String}
    (valid : validateVariables place vars = .ok ()) {entry : String × String}
    (member : entry ∈ vars) : Environment.isName entry.1 = true := by
  simp only [validateVariables] at valid
  split at valid
  · simp at valid
  · next none =>
      have named := List.find?_eq_none.mp none entry.1 (List.mem_map_of_mem member)
      simpa using named

theorem passes_iff {ε : Type} {check : Except ε Unit} {further : Unit → Except ε Unit} :
    check >>= further = .ok () ↔ check = .ok () ∧ further () = .ok () := by
  cases check <;> simp [bind, Except.bind]

theorem passes_of_isOk {ε : Type} {check : Except ε Unit} (passed : check.isOk = true) :
    check = .ok () := by
  cases check with
  | ok => rfl
  | error fault => contradiction

theorem passes_unless_iff {ε : Type} {flawed : Prop} [Decidable flawed] {fault : ε}
    {further : Except ε Unit} :
    (if flawed then .error fault else further) = .ok () ↔ ¬ flawed ∧ further = .ok () := by
  split <;> simp [*]

theorem namesVariables_of_validate {config : Config} (valid : config.validate = .ok ()) :
    config.NamesVariables := by
  simp only [validate, passes_iff] at valid
  obtain ⟨-, -, request, command, -⟩ := valid
  obtain ⟨-, exports⟩ := passes_unless_iff.mp request
  simp only [validateCommand, passes_unless_iff] at command
  obtain ⟨-, -, -, named⟩ := command
  exact ⟨fun _ member => isName_of_validateVariables exports member,
    fun _ member => isName_of_validateVariables named member⟩

end Config

namespace Seeder

/-- The texts that a request sets variables to, apart from the query, which is a part of the URI. -/
def told (seeder : Seeder) (request : Request) (script : Option String) : List String :=
  [request.uri, request.method, script.getD seeder.constants.scriptName,
    seeder.constants.selfPath] ++ seeder.config.exports.map (·.2)

variable {seeder : Seeder} {request : Request} {script : Option String}

theorem isName_of_request :
    ∀ name ∈ ["REQUEST_URI", "REQUEST_METHOD", "SCRIPT_FILENAME", "PHP_SELF", "QUERY_STRING"],
      Environment.isName name = true := by
  decide

theorem isName_of_mem_requestVariables
    (named : ∀ entry ∈ seeder.config.exports, Environment.isName entry.1 = true)
    {entry : String × String} (member : entry ∈ seeder.requestVariables request script) :
    Environment.isName entry.1 = true := by
  simp only [requestVariables, List.mem_append, List.mem_cons, List.not_mem_nil, or_false] at member
  rcases member with ((rfl | rfl | rfl | rfl) | query) | exported
  · exact isName_of_request _ (by simp)
  · exact isName_of_request _ (by simp)
  · exact isName_of_request _ (by simp)
  · exact isName_of_request _ (by simp)
  · split at query
    · simp at query
    · obtain rfl := List.mem_singleton.mp query
      exact isName_of_request _ (by simp)
  · exact named entry exported

theorem isValue_requestVariables_iff :
    (∀ entry ∈ seeder.requestVariables request script, Environment.isValue entry.2 = true) ↔
      ∀ text ∈ seeder.told request script, Environment.isValue text = true := by
  constructor
  · intro stored text member
    simp only [told, List.mem_append, List.mem_cons, List.not_mem_nil, or_false,
      List.mem_map] at member
    rcases member with (rfl | rfl | rfl | rfl) | ⟨entry, exported, rfl⟩
    · exact stored ("REQUEST_URI", _) (by simp [requestVariables])
    · exact stored ("REQUEST_METHOD", _) (by simp [requestVariables])
    · exact stored ("SCRIPT_FILENAME", script.getD _) (by simp [requestVariables])
    · exact stored ("PHP_SELF", _) (by simp [requestVariables])
    · exact stored entry (List.mem_append_right _ exported)
  · intro sound entry member
    simp only [requestVariables, List.mem_append, List.mem_cons, List.not_mem_nil,
      or_false] at member
    rcases member with ((rfl | rfl | rfl | rfl) | query) | exported
    · exact sound _ (by simp [told])
    · exact sound _ (by simp [told])
    · exact sound _ (by simp [told])
    · exact sound _ (by simp [told])
    · split at query
      · simp at query
      · obtain rfl := List.mem_singleton.mp query
        exact Request.isValue_query (sound _ (by simp [told]))
    · exact sound _ (List.mem_append_right _ (List.mem_map_of_mem exported))

end Seeder

namespace Bridge

variable {σ : Type} [Interpreter σ]

/-- Whether a request gets as far as its variables. -/
def getsToVariables (request : Request) (bridge : Bridge σ) : Bool :=
  request.validate.isOk && bridge.endRequest.warmUp.1.isOk

/-- The pairs that an operation passes to the environment, in their order. -/
def writes (operation : Operation) (bridge : Bridge σ) : List (String × String) :=
  match operation with
  | .runOnce request script =>
    if bridge.getsToVariables request then bridge.seeder.requestVariables request (some script)
    else []
  | .setRequestInfo request =>
    if bridge.getsToVariables request then bridge.seeder.requestVariables request none else []
  | .runCommand _ _ => bridge.command.env
  | .setVariable name value overwrite =>
    if Environment.isStorable (name, value) && (overwrite || (bridge.env.get? name).isNone) then
      [(name, value)]
    else []
  | .exportHeaders headers => headers.filterMap exportable?
  | .warmUp | .executeScript _ | .shutdown => []

/-- The environment that an operation passes its pairs to: a query and headers of an earlier request
    are taken away, and a command moves to its directory. -/
def cleared (host : Surroundings) (operation : Operation) (bridge : Bridge σ) : Environment :=
  match operation with
  | .runOnce request _ | .setRequestInfo request =>
    if bridge.getsToVariables request && request.query.isEmpty then
      bridge.env.unset "QUERY_STRING"
    else bridge.env
  | .runCommand _ publicDir =>
    bridge.env.changeDir host.files (Command.paths publicDir bridge.command).workingDir
  | .exportHeaders _ => bridge.headerExports.foldl Environment.unset bridge.env
  | .warmUp | .setVariable .. | .executeScript _ | .shutdown => bridge.env

theorem env_beginRequest (bridge : Bridge σ) (host : Surroundings) (request : Request)
    (script : Option String) :
    (bridge.beginRequest host request script).2.env =
      if bridge.endRequest.warmUp.1.isOk then
        bridge.seeder.exportEnvironment request script bridge.env
      else bridge.env := by
  have seeder : bridge.endRequest.warmUp.2.seeder = bridge.seeder :=
    congrArg Prod.fst (show bridge.endRequest.warmUp.2.settings = bridge.settings by simp)
  have env : bridge.endRequest.warmUp.2.env = bridge.env := by simp
  simp only [beginRequest]
  rcases called : bridge.endRequest.warmUp with ⟨result, warm⟩
  rw [called] at seeder env
  simp only at seeder env
  cases result with
  | error fault => exact env
  | ok =>
      have still := (seed_frame { warm with
        capture := warm.capture.reset
        env := warm.seeder.exportEnvironment request script warm.env } host.now request).2
      simp only [Except.isOk, Except.toBool, if_true]
      rw [still, seeder, env]

theorem env_request (bridge : Bridge σ) (host : Surroundings) (request : Request)
    (script : Option String) :
    (if request.validate.isOk then (bridge.beginRequest host request script).2.env
      else bridge.env) =
      (if bridge.getsToVariables request && request.query.isEmpty then
        bridge.env.unset "QUERY_STRING"
      else bridge.env).setAll
        (if bridge.getsToVariables request then bridge.seeder.requestVariables request script
        else []) := by
  rw [env_beginRequest]
  cases accepted : request.validate.isOk
  · simp [getsToVariables, accepted, Environment.setAll]
  · cases warm : bridge.endRequest.warmUp.1.isOk
    · simp [getsToVariables, accepted, warm, Environment.setAll]
    · simp [getsToVariables, accepted, warm, Seeder.exportEnvironment]

theorem env_runOnce (bridge : Bridge σ) (host : Surroundings) (request : Request)
    (script : String) :
    (bridge.runOnce host request script).2.env =
      if request.validate.isOk then (bridge.beginRequest host request (some script)).2.env
      else bridge.env := by
  simp only [runOnce, tryRunOnce]
  cases request.validate with
  | error fault => rfl
  | ok =>
      rcases bridge.beginRequest host request (some script) with ⟨result, begun⟩
      cases result <;> rfl

theorem env_setRequestInfo (bridge : Bridge σ) (host : Surroundings) (request : Request) :
    (bridge.setRequestInfo host request).2.env =
      if request.validate.isOk then (bridge.beginRequest host request none).2.env
      else bridge.env := by
  simp only [setRequestInfo]
  cases request.validate with
  | error fault => rfl
  | ok =>
      rcases bridge.beginRequest host request none with ⟨result, begun⟩
      cases result <;> rfl

theorem env_runCommand (bridge : Bridge σ) (host : Surroundings) (line publicDir : String) :
    (bridge.runCommand host line publicDir).2.env =
      (bridge.env.changeDir host.files (Command.paths publicDir bridge.command).workingDir).setAll
        bridge.command.env := by
  have command : bridge.takeDown.command = bridge.command :=
    congrArg (·.2.1) bridge.settings_takeDown
  have prepared : (bridge.takeDown.prepareCommand host publicDir).env =
      (bridge.env.changeDir host.files (Command.paths publicDir bridge.command).workingDir).setAll
        bridge.command.env := by
    rw [prepareCommand, command, env_takeDown]
  rw [← prepared]
  simp only [runCommand]
  split
  · rfl
  · split <;> rfl

theorem env_perform (bridge : Bridge σ) (host : Surroundings) (operation : Operation) :
    (bridge.perform host operation).2.env =
      (bridge.cleared host operation).setAll (bridge.writes operation) := by
  cases operation with
  | warmUp => exact env_warmUp bridge
  | runOnce request script =>
      exact (bridge.env_runOnce host request script).trans
        (bridge.env_request host request (some script))
  | setRequestInfo request =>
      exact (bridge.env_setRequestInfo host request).trans (bridge.env_request host request none)
  | executeScript script =>
      simp only [perform, executeScript]
      split <;> rfl
  | runCommand line publicDir => exact bridge.env_runCommand host line publicDir
  | setVariable name value overwrite =>
      simp only [perform, setEnvironmentVariable, cleared, writes]
      cases storable : Environment.isStorable (name, value)
      · rfl
      · cases held : bridge.env.get? name <;> cases overwrite <;> rfl
  | exportHeaders headers => rfl
  | shutdown => exact env_shutdown bridge

/-- The texts that an operation passes on as values without a look at them. -/
def Operation.passes (config : Config) : Operation → List String
  | .runOnce request script =>
    Seeder.told ⟨config.serverInfo, config.request⟩ request (some script)
  | .setRequestInfo request => Seeder.told ⟨config.serverInfo, config.request⟩ request none
  | .runCommand _ _ => config.command.env.map (·.2)
  | .warmUp | .executeScript _ | .setVariable .. | .exportHeaders _ | .shutdown => []

omit [Interpreter σ] in
theorem isStorable_of_mem_exportable {headers : List (String × String)} {entry : String × String}
    (member : entry ∈ headers.filterMap exportable?) : Environment.isStorable entry = true := by
  obtain ⟨header, -, eq⟩ := List.mem_filterMap.mp member
  simp only [exportable?] at eq
  split at eq
  · next storable =>
      obtain rfl := Option.some.inj eq
      exact storable
  · contradiction

/-- Whether the bridge is set up with what the configuration says. -/
structure IsSetUpWith (config : Config) (bridge : Bridge σ) : Prop where
  seeder : bridge.seeder = ⟨config.serverInfo, config.request⟩
  command : bridge.command = config.command

section

variable {config : Config} {bridge : Bridge σ}

theorem isName_of_mem_writes (named : config.NamesVariables) (setUp : bridge.IsSetUpWith config)
    {operation : Operation} {entry : String × String} (member : entry ∈ bridge.writes operation) :
    Environment.isName entry.1 = true := by
  have exports : ∀ entry ∈ bridge.seeder.config.exports, Environment.isName entry.1 = true := by
    rw [setUp.seeder]
    exact named.exports
  cases operation with
  | runOnce request script =>
      simp only [writes] at member
      split at member
      · exact Seeder.isName_of_mem_requestVariables exports member
      · contradiction
  | setRequestInfo request =>
      simp only [writes] at member
      split at member
      · exact Seeder.isName_of_mem_requestVariables exports member
      · contradiction
  | runCommand line publicDir =>
      rw [writes, setUp.command] at member
      exact named.command entry member
  | setVariable name value overwrite =>
      simp only [writes] at member
      split at member
      · next accepted =>
          obtain rfl := List.mem_singleton.mp member
          exact (Environment.isStorable_iff.mp (Bool.and_eq_true_iff.mp accepted).1).1
      · contradiction
  | exportHeaders headers =>
      exact (Environment.isStorable_iff.mp (isStorable_of_mem_exportable member)).1
  | warmUp => contradiction
  | executeScript script => contradiction
  | shutdown => contradiction

/-- The values of an operation can be stored exactly if the texts can that it passes on, or if it
    writes nothing at all. -/
theorem isValue_writes_iff (setUp : bridge.IsSetUpWith config) (operation : Operation) :
    (∀ entry ∈ bridge.writes operation, Environment.isValue entry.2 = true) ↔
      (bridge.writes operation ≠ [] →
        ∀ text ∈ operation.passes config, Environment.isValue text = true) := by
  cases operation with
  | runOnce request script =>
      simp only [writes, Operation.passes]
      split
      · rw [Seeder.isValue_requestVariables_iff, setUp.seeder]
        simp [Seeder.requestVariables]
      · simp
  | setRequestInfo request =>
      simp only [writes, Operation.passes]
      split
      · rw [Seeder.isValue_requestVariables_iff, setUp.seeder]
        simp [Seeder.requestVariables]
      · simp
  | runCommand line publicDir =>
      rw [writes, setUp.command, Operation.passes, List.forall_mem_map]
      refine ⟨fun stored _ => stored, fun sound entry member => ?_⟩
      exact sound (List.ne_nil_of_mem member) entry member
  | setVariable name value overwrite =>
      refine iff_of_true (fun entry member => ?_) (fun _ text passed => by contradiction)
      simp only [writes] at member
      split at member
      · next accepted =>
          obtain rfl := List.mem_singleton.mp member
          exact (Environment.isStorable_iff.mp (Bool.and_eq_true_iff.mp accepted).1).2
      · contradiction
  | exportHeaders headers =>
      refine iff_of_true (fun entry member => ?_) (fun _ text passed => by contradiction)
      exact (Environment.isStorable_iff.mp (isStorable_of_mem_exportable member)).2
  | warmUp => simp [writes]
  | executeScript script => simp [writes]
  | shutdown => simp [writes]

end

/-- An operation of a history, with the bridge that it finds. -/
structure Moment (σ : Type) where
  bridge : Bridge σ
  host : Surroundings
  operation : Operation

/-- The operations of a history one after the other. -/
def moments (bridge : Bridge σ) : List (Surroundings × Operation) → List (Moment σ)
  | [] => []
  | (host, operation) :: history =>
    ⟨bridge, host, operation⟩ :: (bridge.perform host operation).2.moments history

namespace Moment

/-- The pairs that the operation passes to the environment. -/
def writes (moment : Moment σ) : List (String × String) :=
  moment.bridge.writes moment.operation

def after (moment : Moment σ) : Bridge σ :=
  (moment.bridge.perform moment.host moment.operation).2

end Moment

theorem settings_of_mem_moments {bridge : Bridge σ} {history : List (Surroundings × Operation)}
    {moment : Moment σ} (member : moment ∈ bridge.moments history) :
    moment.bridge.settings = bridge.settings := by
  induction history generalizing bridge with
  | nil => contradiction
  | cons entry history ih =>
      rcases List.mem_cons.mp member with rfl | later
      · rfl
      · exact (ih later).trans (bridge.settings_perform entry.1 entry.2)

theorem isSetUpWith_of_mem_moments {config : Config} {interpreter : σ} {env : Environment}
    {history : List (Surroundings × Operation)} {moment : Moment σ}
    (member : moment ∈ (Bridge.new config interpreter env).moments history) :
    moment.bridge.IsSetUpWith config := by
  have settings := settings_of_mem_moments member
  exact ⟨congrArg Prod.fst settings, congrArg (·.2.1) settings⟩

/-- With a configuration that was accepted, whatever is done with a bridge: what an operation leaves
    in the environment is what it passes there, under names that variables can have. All values can
    be stored exactly if no request, script, or configured value that comes to be set holds a
    character that no variable can. -/
theorem isStorable_writes_iff {config : Config} (valid : config.validate = .ok ()) (interpreter : σ)
    (env : Environment) (history : List (Surroundings × Operation)) :
    let moments := (Bridge.new config interpreter env).moments history
    (∀ moment ∈ moments, moment.after.env =
      (moment.bridge.cleared moment.host moment.operation).setAll moment.writes) ∧
    (∀ moment ∈ moments, ∀ entry ∈ moment.writes, Environment.isName entry.1 = true) ∧
    ((∀ moment ∈ moments, ∀ entry ∈ moment.writes, Environment.isStorable entry = true) ↔
      ∀ moment ∈ moments, moment.writes ≠ [] →
        ∀ text ∈ moment.operation.passes config, Environment.isValue text = true) := by
  intro moments
  have named : ∀ moment ∈ moments, ∀ entry ∈ moment.writes,
      Environment.isName entry.1 = true := fun moment member entry written =>
    isName_of_mem_writes (Config.namesVariables_of_validate valid)
      (isSetUpWith_of_mem_moments member) written
  refine ⟨fun moment _ => moment.bridge.env_perform moment.host moment.operation, named, ?_⟩
  refine forall₂_congr fun moment member => ?_
  refine Iff.trans ?_
    (isValue_writes_iff (isSetUpWith_of_mem_moments member) moment.operation)
  refine forall₂_congr fun entry written => ?_
  rw [Environment.isStorable_iff, and_iff_right (named moment member entry written)]

/-- Requests, a command, a variable and headers, with configured variables of either kind. -/
theorem isStorable_writes_of_plain_texts :
    let config : Config := { Config.standard with
      request := { Config.standard.request with exports := [("APP_MODE", "a=b")] }
      command := { Config.standard.command with env := [("LINES", "")] } }
    let host : Surroundings := ⟨.empty, [], 0⟩
    let history := [(host, .setRequestInfo ⟨"GET", "/?q", none, none⟩),
      (host, .exportHeaders [("x-a", "1"), ("x=b", "2"), ("x-c", "\x00")]),
      (host, .runOnce ⟨"POST", "/", none, none⟩ "s"), (host, .runCommand "list" "/app/public"),
      (host, .setVariable "A" "\x00" true)]
    let bridge := Bridge.new config (Recorder.new [] ⟨false, false, false⟩) (.recording [])
    config.validate = .ok () ∧
      ∀ moment ∈ bridge.moments history, ∀ entry ∈ moment.writes,
        Environment.isStorable entry = true := by
  intro config host history bridge
  have valid : config.validate = .ok () := Config.passes_of_isOk (by decide +kernel)
  have storable := isStorable_writes_iff valid (Recorder.new [] ⟨false, false, false⟩)
    (.recording []) history
  exact ⟨valid, storable.2.2.mpr (by decide +kernel)⟩

/-- A request that is accepted, and whose URI cannot be the value of a variable. -/
theorem not_isStorable_of_nul_in_uri :
    let request : Request := ⟨"GET", "/\x00", none, none⟩
    let bridge := Bridge.new .standard (Recorder.new [] ⟨false, false, false⟩) (.recording [])
    Config.standard.validate = .ok () ∧ request.validate = .ok () ∧
      ∃ moment ∈ bridge.moments [(⟨.empty, [], 0⟩, .runOnce request "s")],
        ∃ entry ∈ moment.writes, Environment.isStorable entry = false := by
  intro request bridge
  exact ⟨Config.passes_of_isOk (by decide +kernel), Config.passes_of_isOk (by decide +kernel),
    by decide +kernel⟩

end Bridge

end ScriptBridge
