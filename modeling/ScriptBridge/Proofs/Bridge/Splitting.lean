import ScriptBridge.Proofs.Capture.Collecting
import ScriptBridge.Proofs.Script.Emissions

/-! # Scripts and the framing of their responses

What a client reads from a response are the status line, the header lines and the body that the
script made, as long as the header lines fit and none of them is empty. An empty header line is not
refused, and ends the headers of the response before the lines that follow it.
-/

namespace ScriptBridge

namespace Script.Engine

/-- An engine in a phase holds nothing back between two calls. -/
structure HoldsNothing (directory : Directory) (phase : Phase) (engine : Engine) : Prop where
  flags : HasFlags directory phase engine
  empty : engine.outlet.pending.held = []

theorem held_conclude (emissions : List Emission) (outcome : Except ScriptFault Unit)
    (engine : Engine) :
    (engine.conclude emissions outcome).2.outlet = engine.outlet := by
  cases outcome with
  | ok => rfl
  | error => rfl

theorem outlet_execute (host : Surroundings) (path : String) (engine : Engine) :
    (engine.execute host path).2.outlet = engine.outlet ∨
      (engine.execute host path).2.outlet = engine.outlet.cleared := by
  simp only [execute]
  split
  · exact Or.inl rfl
  · split
    · exact Or.inl rfl
    · split
      · next called =>
          rw [held_conclude, outlet_of_load called]
          exact Or.inl rfl
      · next called =>
          rw [runProgram, held_conclude, outlet_of_load called]
          exact Or.inr rfl

/-- A script leaves nothing behind in the outlet. -/
theorem held_execute (host : Surroundings) (path : String) {engine : Engine}
    (empty : engine.outlet.pending.held = []) :
    (engine.execute host path).2.outlet.pending.held = [] := by
  rcases outlet_execute host path engine with same | cleared
  · rw [same, empty]
  · rw [cleared]
    rfl

theorem outlet_startup (options : StartupOptions) (engine : Engine) :
    (engine.startup options).2.outlet = engine.outlet := by
  simp only [Engine.startup]
  split
  · rfl
  · cases Settings.ofTable options.ini <;> rfl

theorem outlet_requestStartup (engine : Engine) :
    engine.requestStartup.2.outlet = engine.outlet := by
  simp only [Engine.requestStartup]
  split <;> rfl

theorem held_routeStdio (engine : Engine) :
    engine.routeStdio.2.outlet.pending = engine.outlet.pending := by
  simp only [Engine.routeStdio]
  split <;> rfl

theorem HoldsNothing.leads {directory : Directory} {good bad : Phase} {engine : Engine}
    (empty : engine.outlet.pending.held = []) {step : Except ScriptFault Unit × Engine}
    (flags : Leads step (HasFlags directory good) (HasFlags directory bad))
    (outlet : step.2.outlet = engine.outlet) :
    Leads step (HoldsNothing directory good) (HoldsNothing directory bad) := by
  obtain ⟨result, next⟩ := step
  have still : next.outlet.pending.held = [] := by
    rw [show next.outlet = engine.outlet from outlet]
    exact empty
  cases result with
  | ok => exact ⟨flags, still⟩
  | error fault => exact ⟨flags, still⟩

theorem holdsNothing_phaseInvariant (ini : Table String) :
    PhaseInvariant ini (fun _ => True) HoldsNothing where
  flags holds := holds.flags
  relocate holds := ⟨holds.flags, holds.empty⟩
  startup _ holds := HoldsNothing.leads holds.empty
    (LawfulInterpreter.startup _ _ holds.flags) (outlet_startup _ _)
  declare holds := ⟨holds.flags, holds.empty⟩
  requestStartup holds := HoldsNothing.leads holds.empty
    (LawfulInterpreter.requestStartup _ holds.flags) (outlet_requestStartup _)
  setSymbol holds := ⟨holds.flags, holds.empty⟩
  readForm holds := ⟨holds.flags, holds.empty⟩
  attachBody holds := ⟨holds.flags, holds.empty⟩
  exposeStdout holds := ⟨holds.flags, holds.empty⟩
  routeStdio holds := ⟨(LawfulInterpreter.routeStdio _).trans holds.flags,
    (congrArg Pending.held (held_routeStdio _)).trans holds.empty⟩
  finishRequestStartup holds := holds
  execute _ holds := ⟨(flags_execute _ _ _).trans holds.flags, held_execute _ _ holds.empty⟩
  requestShutdown holds := ⟨LawfulInterpreter.requestShutdown _ holds.flags, rfl⟩
  shutdown holds := ⟨LawfulInterpreter.shutdown _ (congrArg Prod.fst holds.flags), rfl⟩

theorem holdsNothing_cutOff : CutOff HoldsNothing HoldsNothing :=
  fun _ _ _ holds => ⟨LawfulInterpreter.shutdown _ (congrArg Prod.fst holds.flags), rfl⟩

end Script.Engine

theorem isLine_of_mem_fieldLines {emissions : List Emission}
    (single : ∀ emission ∈ emissions, emission.IsSingle) :
    ∀ line ∈ fieldLines emissions, IsLine line := by
  intro line member
  obtain ⟨emission, emitted, field⟩ := List.mem_filterMap.mp member
  obtain ⟨rfl, -⟩ := Emission.field?_eq_some_iff.mp field
  exact single _ emitted

theorem lastStatus_spec {emissions : List Emission}
    (single : ∀ emission ∈ emissions, emission.IsSingle) :
    IsLine (lastStatus emissions) ∧ Text.startsWith "HTTP/" (lastStatus emissions) = true := by
  simp only [lastStatus]
  cases last : (emissions.filterMap Emission.status?).getLast? with
  | none => decide
  | some line =>
      obtain ⟨emission, emitted, status⟩ :=
        List.mem_filterMap.mp (List.mem_of_getLast? last)
      cases emission with
      | body bytes => simp [Emission.status?] at status
      | stdout bytes => simp [Emission.status?] at status
      | header text =>
          simp only [Emission.status?] at status
          split at status
          · next kind =>
              obtain rfl := Option.some.inj status
              exact ⟨single _ emitted, HeaderKind.ofLine_eq_status_iff.mp kind⟩
          · simp at status

/-- What a capture that was reset holds of the header lines of a script. -/
theorem Capture.Regular.headers_emitAll {policy : CapacityPolicy} {capture : Capture}
    (regular : Regular policy capture) {emissions : List Emission}
    (fits : policy.Holds .addressable (fieldBlock (fieldLines emissions)).length) :
    let after := (capture.reset.openStdout.emitAll emissions).mergeStdout
    after.headers.statusLine = lastStatus emissions ∧
      after.headers.fields.data = fieldBlock (fieldLines emissions) := by
  have room : policy.Holds .addressable (capture.reset.openStdout.headers.fields.size +
      (fieldBlock (fieldLines emissions)).length) := by
    rw [show capture.reset.openStdout.headers.fields.size = 0 from rfl, Nat.zero_add]
    exact fits
  have fields := fields_emitAll regular.reset.openStdout room
  refine ⟨statusLine_emitAll capture emissions, ?_⟩
  simp only [mergeStdout, headers_mergeStdout, emitAll, fields]
  rfl

namespace Bridge

section

variable {σ : Type} [Interpreter σ]

/-- What a script emits if it is run for a request. -/
def emitted (host : Surroundings) (request : Request) (script : String) (bridge : Bridge σ) :
    List Emission :=
  let begun := (bridge.beginRequest host request (some script)).2
  (Interpreter.execute (begun.surroundings host) script begun.interpreter).1.emissions

theorem capture_endRequest (bridge : Bridge σ) : bridge.endRequest.capture = bridge.capture := by
  simp only [endRequest]
  split <;> rfl

theorem capture_warmUp (bridge : Bridge σ) : bridge.warmUp.2.capture = bridge.capture := by
  simp only [warmUp]
  split
  · rfl
  · split <;> rfl

theorem capture_beginRequest {host : Surroundings} {request : Request} {script : Option String}
    {bridge begun : Bridge σ} (begins : bridge.beginRequest host request script = (.ok (), begun)) :
    begun.capture = bridge.capture.reset.openStdout := by
  have warm : bridge.endRequest.warmUp.2.capture = bridge.capture :=
    (capture_warmUp _).trans (capture_endRequest _)
  simp only [beginRequest] at begins
  split at begins
  · simp at begins
  · next ready called =>
      rw [called] at warm
      simp only [seed] at begins
      split at begins
      · simp at begins
      · obtain rfl := (Prod.mk.inj begins).2
        exact congrArg (fun capture : Capture => capture.reset.openStdout) warm

/-- A response is made of what the script of the request emitted. -/
theorem runOnce_of_begins {host : Surroundings} {request : Request} {script : String}
    {bridge begun : Bridge σ} (valid : request.validate = .ok ())
    (begins : bridge.beginRequest host request (some script) = (.ok (), begun)) :
    (bridge.runOnce host request script).1 = (bridge.runOnce host request script).2.response ∧
      (bridge.runOnce host request script).2.capture =
        (bridge.capture.reset.openStdout.emitAll
          (bridge.emitted host request script)).mergeStdout := by
  simp only [runOnce, tryRunOnce, emitted, valid, begins]
  refine ⟨trivial, ?_⟩
  rw [← capture_beginRequest begins]
  rfl

end

section

variable {config : Config} {bridge : Bridge Script.Engine} {hosts : Surroundings → Prop}
  {Inv : Directory → Phase → Script.Engine → Prop}

theorem seed_ok (up : bridge.interpreter.started = true) (now : Int64) (request : Request) :
    (bridge.seed now request).1 = .ok () := by
  simp only [seed, Seeder.seed, Interpreter.requestStartup, Interpreter.declare,
    Script.Engine.requestStartup, up, if_true]

theorem Rests.begins (rules : PhaseInvariant config.interpreter.ini hosts Inv)
    (rests : bridge.Rests config Inv) {settings : Script.Settings}
    (readable : Script.Settings.ofTable config.interpreter.ini = .ok settings)
    (host : Surroundings) (request : Request) (script : Option String) :
    (bridge.beginRequest host request script).1 = .ok () := by
  have warm := rests.endRequest_warmUp rules
  have started : bridge.endRequest.warmUp.1 = .ok () := by
    rcases rests.cases with holds | holds | ⟨-, holds⟩
    · have down : bridge.interpreter.started = false := congrArg Prod.fst (holds.flags rules)
      rw [endRequest_of_inactive (congrArg Prod.snd (holds.flags rules)),
        warmUp_of_unstarted (congrArg Prod.fst (holds.flags rules)), holds.ini]
      simp only [Interpreter.startup, Script.Engine.startup, down, readable]
      rfl
    · rw [endRequest_of_inactive (congrArg Prod.snd (holds.flags rules)),
        warmUp_of_started (congrArg Prod.fst (holds.flags rules))]
    · have idle := holds.endRequest rules
      rw [warmUp_of_started (congrArg Prod.fst (idle.flags rules))]
  rcases called : bridge.endRequest.warmUp with ⟨result, ready⟩
  rw [called] at started warm
  obtain rfl : result = .ok () := started
  simp only [Bridge.beginRequest, called]
  refine seed_ok ?_ host.now request
  exact congrArg Prod.fst (warm.flags rules)

theorem Rests.beginRequest_ok (rests : bridge.Rests config Script.Engine.HoldsNothing)
    {settings : Script.Settings}
    (readable : Script.Settings.ofTable config.interpreter.ini = .ok settings)
    (host : Surroundings) (request : Request) (script : Option String) :
    (bridge.beginRequest host request script).1 = .ok () :=
  rests.begins (Script.Engine.holdsNothing_phaseInvariant config.interpreter.ini) readable host
    request script

end

/-- How the response of a script is read: as the script made it, just if none of its header lines is
    empty, and else with the headers cut off at the first empty line. -/
theorem parse_runOnce_iff (config : Config) (limits : Script.Limits) (env : Environment)
    (history : List (Surroundings × Operation)) (host : Surroundings) (request : Request)
    (script : String) {settings : Script.Settings}
    (readable : Script.Settings.ofTable config.interpreter.ini = .ok settings)
    (valid : request.validate = .ok ()) :
    let bridge := (Bridge.new config (Script.Engine.new limits) env).performAll history
    let emissions := bridge.emitted host request script
    let after := bridge.runOnce host request script
    config.buffer.Holds .addressable (fieldBlock (fieldLines emissions)).length →
      Message.parse after.1 = .ok ⟨lastStatus emissions,
        (framed after.2.capture.body.data (fieldLines emissions)).1,
        (framed after.2.capture.body.data (fieldLines emissions)).2⟩ ∧
      (Message.parse after.1 =
          .ok ⟨lastStatus emissions, fieldLines emissions, after.2.capture.body.data⟩ ↔
        "" ∉ fieldLines emissions) := by
  intro bridge emissions after fits
  have rules := Script.Engine.holdsNothing_phaseInvariant config.interpreter.ini
  have rests : bridge.Rests config Script.Engine.HoldsNothing :=
    (rests_new ⟨rfl, rfl⟩).performAll rules Script.Engine.holdsNothing_cutOff fun _ _ => trivial
  have active := rests.beginRequest rules host request (some script)
  have ok := rests.beginRequest_ok readable host request (some script)
  rcases begins : bridge.beginRequest host request (some script) with ⟨result, begun⟩
  rw [begins] at active ok
  obtain rfl : result = .ok () := ok
  obtain ⟨answer, capture⟩ := runOnce_of_begins valid begins
  have single : ∀ emission ∈ emissions, emission.IsSingle := by
    simp only [emissions, emitted, begins]
    exact Script.Engine.execute_isSingle _ script _ active.interpreter.empty
  obtain ⟨statusLine, http⟩ := lastStatus_spec single
  have lines := isLine_of_mem_fieldLines single
  obtain ⟨⟨_, _, holds⟩, -⟩ := rests
  obtain ⟨status, fields⟩ := holds.capture.headers_emitAll fits
  have composed : after.1 = compose (lastStatus emissions) (fieldBlock (fieldLines emissions))
      after.2.capture.body.data := by
    rw [answer, response, capture, status, fields]
  rw [composed]
  exact ⟨Message.parse_compose statusLine http lines _,
    Message.parse_compose_iff statusLine http lines _⟩

/-- A file in the working directory, and nothing else. -/
def hostOf (name script : String) : Surroundings :=
  ⟨FileTree.empty.write [name] ⟨utf8 script, 0⟩, [], 0⟩

/-- A script with one header line and a body. -/
theorem parse_runOnce_of_one_line :
    let host := hostOf "s.rhai" "header(\"X-A: 1\"); echo(\"hi\");"
    let request : Request := ⟨"GET", "/", none, none⟩
    let bridge := (Bridge.new .standard (Script.Engine.new .standard) (.recording [])).performAll
      [(host, .runOnce request "s.rhai")]
    let emissions := bridge.emitted host request "s.rhai"
    let after := bridge.runOnce host request "s.rhai"
    Script.Settings.ofTable Config.standard.interpreter.ini = .ok .standard ∧
      request.validate = .ok () ∧
      CapacityPolicy.standard.Holds .addressable (fieldBlock (fieldLines emissions)).length ∧
      "" ∉ fieldLines emissions ∧
      Message.parse after.1 =
        .ok ⟨lastStatus emissions, fieldLines emissions, after.2.capture.body.data⟩ := by
  intro host request bridge emissions after
  have readable : Script.Settings.ofTable Config.standard.interpreter.ini = .ok .standard := rfl
  have valid : request.validate = .ok () :=
    Request.validate_eq_ok_iff.mpr (by decide +kernel)
  have lines : fieldLines emissions = ["X-A: 1"] := by decide +kernel
  have fits : CapacityPolicy.standard.Holds .addressable
      (fieldBlock (fieldLines emissions)).length := by
    rw [lines]
    exact ⟨_, CapacityPolicy.reaches_initialCapacity (by decide), by decide⟩
  have filled : "" ∉ fieldLines emissions := by simp [lines]
  have read := parse_runOnce_iff .standard .standard (.recording [])
    [(host, .runOnce request "s.rhai")] host request "s.rhai" readable valid fits
  exact ⟨readable, valid, fits, filled, read.2.mpr filled⟩

/-- An empty header line takes the line behind it out of the headers and into the body. -/
theorem parse_runOnce_ne_of_empty_line :
    let host := hostOf "s.rhai" "header(\"\"); header(\"X-A: 1\"); echo(\"hi\");"
    let request : Request := ⟨"GET", "/", none, none⟩
    let bridge := Bridge.new .standard (Script.Engine.new .standard) (.recording [])
    let emissions := bridge.emitted host request "s.rhai"
    let after := bridge.runOnce host request "s.rhai"
    fieldLines emissions = ["", "X-A: 1"] ∧
      after.2.capture.body.data = utf8 "hi" ∧
      Message.parse after.1 = .ok ⟨"HTTP/1.1 200 OK", [], utf8 "X-A: 1\r\n\r\nhi"⟩ ∧
      Message.parse after.1 ≠
        .ok ⟨lastStatus emissions, fieldLines emissions, after.2.capture.body.data⟩ := by
  intro host request bridge emissions after
  obtain ⟨lines, body, read⟩ : fieldLines emissions = ["", "X-A: 1"] ∧
      after.2.capture.body.data = utf8 "hi" ∧ (Message.parse after.1).toOption =
        some ⟨"HTTP/1.1 200 OK", [], utf8 "X-A: 1\r\n\r\nhi"⟩ := by
    decide +kernel
  cases parsed : Message.parse after.1 with
  | error fault => simp [parsed, Except.toOption] at read
  | ok message =>
      obtain rfl : message = _ := by simpa [parsed, Except.toOption] using read
      refine ⟨lines, body, rfl, ?_⟩
      simp [lines]

end Bridge

end ScriptBridge
