import ScriptBridge.Config.Validation
import ScriptBridge.Proofs.Bridge.Splitting
import ScriptBridge.Proofs.Capture.Throttling
import ScriptBridge.Proofs.Script.Deferral

/-! # Deferred output and direct output

What a script writes passes a cap before the capture sees it. The cap is the ceiling of the buffers,
and still the capture may miss something that a buffer would have kept: the cap counts writes that the
buffer then drops, and status lines, which take no room in a block of headers. Up to that, a response
is what it would be if the script wrote to the capture directly.
-/

namespace ScriptBridge

theorem Config.chunkSize_le_of_validate {config : Config} (valid : config.validate = .ok ()) :
    config.buffer.maxSize ≠ 0 ∧ config.buffer.chunkSize ≤ config.buffer.maxSize := by
  have buffer : Config.validateBuffer config.buffer = .ok () := by
    simp only [validate, bind, Except.bind] at valid
    split at valid
    · simp at valid
    · next checked => exact checked
  simp only [validateBuffer] at buffer
  split at buffer
  · simp at buffer
  · next nonzero =>
      split at buffer
      · simp at buffer
      · next below =>
          refine ⟨?_, UInt64.not_lt.mp below⟩
          intro zero
          rw [zero] at below
          exact nonzero (UInt64.le_zero_iff.mp (UInt64.not_lt.mp below))

theorem Config.validate_of_buffer {buffer : CapacityPolicy}
    (sound : Config.validateBuffer buffer = .ok ()) :
    ({ Config.standard with buffer } : Config).validate = .ok () := by
  simp only [Config.validate, sound]
  rfl

namespace Script.Engine

variable {limits : Limits} {directory : Directory} {phase : Phase} {engine next : Engine}

/-- An engine in a phase, with its limits and with nothing counted against them. -/
structure Unspent (limits : Limits) (directory : Directory) (phase : Phase) (engine : Engine) :
    Prop where
  flags : HasFlags directory phase engine
  fixed : engine.limits = limits
  capped : engine.outlet.limit = limits.maxOutputSize
  empty : engine.outlet.pending = .empty

theorem Unspent.step (unspent : Unspent limits directory phase engine) {directory' : Directory}
    {phase' : Phase} (flags : HasFlags directory' phase' next)
    (fixed : next.limits = engine.limits) (capped : next.outlet.limit = engine.outlet.limit)
    (empty : next.outlet.pending = engine.outlet.pending) :
    Unspent limits directory' phase' next :=
  ⟨flags, fixed.trans unspent.fixed, capped.trans unspent.capped, empty.trans unspent.empty⟩

theorem Unspent.leads (unspent : Unspent limits directory phase engine) {good bad : Phase}
    {step : Except ScriptFault Unit × Engine}
    (flags : Leads step (HasFlags directory good) (HasFlags directory bad))
    (fixed : step.2.limits = engine.limits) (outlet : step.2.outlet = engine.outlet) :
    Leads step (Unspent limits directory good) (Unspent limits directory bad) := by
  obtain ⟨result, next⟩ := step
  have capped : next.outlet.limit = engine.outlet.limit := congrArg Outlet.limit outlet
  have empty : next.outlet.pending = engine.outlet.pending := congrArg Outlet.pending outlet
  cases result with
  | ok => exact unspent.step flags fixed capped empty
  | error fault => exact unspent.step flags fixed capped empty

theorem Unspent.execute {purpose : ScriptBridge.Purpose}
    (unspent : Unspent limits directory (.active purpose) engine) (host : Surroundings)
    (path : String) :
    Unspent limits directory (.active purpose) (engine.execute host path).2 := by
  obtain ⟨⟨pending, modules, core⟩, -⟩ := execute_spec unspent.flags host path
  have fixed := (congrArg Engine.limits core).trans unspent.fixed
  have flags := (flags_execute host path engine).trans unspent.flags
  rcases outlet_execute host path engine with same | cleared
  · exact ⟨flags, fixed, by rw [same, unspent.capped], by rw [same, unspent.empty]⟩
  · exact ⟨flags, fixed, by rw [cleared]; exact unspent.capped, by rw [cleared]; rfl⟩

theorem unspent_shutdown (fixed : engine.limits = limits) (started : engine.started = true) :
    Unspent limits directory .unstarted engine.shutdown := by
  have keeps : engine.shutdown.limits = limits := by
    simp only [Engine.shutdown]
    split <;> exact fixed
  refine ⟨LawfulInterpreter.shutdown _ started, keeps, ?_, rfl⟩
  rw [← keeps]
  rfl

theorem unspent_phaseInvariant (limits : Limits) (ini : Table String) :
    PhaseInvariant ini (fun _ => True) (Unspent limits) where
  flags unspent := unspent.flags
  relocate unspent := unspent.step unspent.flags rfl rfl rfl
  startup _ unspent := unspent.leads (LawfulInterpreter.startup _ _ unspent.flags)
    (limits_startup _ _) (outlet_startup _ _)
  declare unspent := unspent.step unspent.flags rfl rfl rfl
  requestStartup unspent := unspent.leads (LawfulInterpreter.requestStartup _ unspent.flags)
    (limits_requestStartup _) (outlet_requestStartup _)
  setSymbol unspent := unspent.step unspent.flags rfl rfl rfl
  readForm unspent := unspent.step unspent.flags rfl rfl rfl
  attachBody unspent := unspent.step unspent.flags rfl rfl rfl
  exposeStdout unspent := unspent.step unspent.flags rfl rfl rfl
  routeStdio := by
    intro directory engine unspent
    refine unspent.step ((LawfulInterpreter.routeStdio _).trans unspent.flags) ?_ ?_
      (held_routeStdio _)
    all_goals
      simp only [Interpreter.routeStdio, Engine.routeStdio]
      split <;> rfl
  finishRequestStartup unspent := unspent
  execute _ unspent := unspent.execute _ _
  requestShutdown unspent := ⟨LawfulInterpreter.requestShutdown _ unspent.flags, unspent.fixed,
    unspent.capped, rfl⟩
  shutdown unspent := unspent_shutdown unspent.fixed (congrArg Prod.fst unspent.flags)

theorem unspent_cutOff (limits : Limits) : CutOff (Unspent limits) (Unspent limits) :=
  fun _ _ _ unspent => unspent_shutdown unspent.fixed (congrArg Prod.fst unspent.flags)

end Script.Engine

namespace Bridge

theorem Rests.imp {σ : Type} [Interpreter σ] {config : Config} {bridge : Bridge σ}
    {Inv Inv' : Directory → Phase → σ → Prop} (rests : bridge.Rests config Inv)
    (weaken : ∀ directory phase interpreter,
      Inv directory phase interpreter → Inv' directory phase interpreter) :
    bridge.Rests config Inv' := by
  obtain ⟨⟨phase, told, holds⟩, released⟩ := rests
  exact ⟨⟨phase, told, holds.toConfigured, weaken _ _ _ holds.interpreter⟩, released⟩

/-- What a script does if it is run for a request and nothing is dropped that it writes. It writes the
    same with the cap (`Script.Engine.execute_defers`). -/
def freeExecution (host : Surroundings) (request : Request) (script : String)
    (bridge : Bridge Script.Engine) : Execution :=
  let begun := (bridge.beginRequest host request (some script)).2
  (begun.interpreter.unlimited.execute (begun.surroundings host) script).1

variable {config : Config} {limits : Script.Limits} {bridge : Bridge Script.Engine}

theorem rests_unspent (config : Config) (limits : Script.Limits) (env : Environment)
    (history : List (Surroundings × Operation)) :
    ((Bridge.new config (Script.Engine.new limits) env).performAll history).Rests config
      (Script.Engine.Unspent limits) :=
  (rests_new ⟨rfl, rfl, rfl, rfl⟩).performAll
    (Script.Engine.unspent_phaseInvariant limits config.interpreter.ini)
    (Script.Engine.unspent_cutOff limits) fun _ _ => trivial

/-- A response is made of what an outlet with the cap of the limits held of the writes. -/
theorem Rests.runOnce_defers (rests : bridge.Rests config (Script.Engine.Unspent limits))
    {settings : Script.Settings}
    (readable : Script.Settings.ofTable config.interpreter.ini = .ok settings)
    (host : Surroundings) {request : Request} (script : String)
    (valid : request.validate = .ok ()) :
    ∃ outlet execution, outlet.limit = limits.maxOutputSize ∧ outlet.pending = .empty ∧
      Script.Engine.Defers outlet execution (bridge.freeExecution host request script) ∧
      (bridge.runOnce host request script).1 = (bridge.runOnce host request script).2.response ∧
      (bridge.runOnce host request script).2.capture =
        (bridge.capture.reset.openStdout.emitAll execution.emissions).mergeStdout ∧
      bridge.capture.Regular config.buffer := by
  have active := rests.beginRequest
    (Script.Engine.unspent_phaseInvariant limits config.interpreter.ini) host request (some script)
  have holding : bridge.Rests config Script.Engine.HoldsNothing :=
    rests.imp fun _ _ _ unspent => ⟨unspent.flags, by rw [unspent.empty]; rfl⟩
  have ok := holding.beginRequest_ok readable host request (some script)
  rcases begins : bridge.beginRequest host request (some script) with ⟨result, begun⟩
  rw [begins] at active ok
  obtain rfl : result = .ok () := ok
  obtain ⟨answer, capture⟩ := runOnce_of_begins valid begins
  have defers := Script.Engine.execute_defers (begun.surroundings host) script
    active.interpreter.empty
  obtain ⟨⟨_, -, holds⟩, -⟩ := rests
  refine ⟨_, (begun.interpreter.execute (begun.surroundings host) script).1,
    active.interpreter.capped, active.interpreter.empty, ?_, answer, ?_, holds.capture⟩
  · rw [freeExecution, begins]
    exact defers
  · rw [capture, emitted, begins]
    rfl

section

variable {outlet : Script.Outlet} {execution free : Execution}

theorem body_of_defers (defers : Script.Engine.Defers outlet execution free)
    (limited : outlet.limit ≠ 0) (empty : outlet.pending = .empty)
    (silent : stdoutWrites free.emissions = []) (capture : Capture) :
    ∃ pieces more, bodyWrites free.emissions = pieces ++ more ∧
      (free.outcome = .ok () → more = []) ∧
      (capture.reset.openStdout.emitAll execution.emissions).mergeStdout.body =
        (admitted outlet.limit.toNat pieces ++ more).foldl OutputBuffer.append
          capture.body.reset := by
  obtain ⟨-, written, report, held, freely, -, ended⟩ := defers
  have passed := Script.Outlet.acceptAll_sublist empty written
  rw [freely, stdoutWrites_append, List.append_eq_nil_iff] at silent
  have silent_kept : stdoutWrites (outlet.acceptAll written).emissions = [] :=
    List.sublist_nil.mp (silent.1 ▸ passed.flatMap Emission.stdoutWritten)
  refine ⟨bodyWrites written, bodyWrites report, by rw [freely, bodyWrites_append], ?_, ?_⟩
  · intro ok
    rw [ended ok]
    rfl
  · have all_silent : stdoutWrites execution.emissions = [] := by
      rw [held, stdoutWrites_append, silent_kept, silent.2, List.append_nil]
    rw [Capture.body_emitAll_of_silent capture all_silent, held, bodyWrites_append,
      bodyWrites_eq_writes silent_kept, bodyWrites_eq_writes silent.1,
      Script.Outlet.writes_acceptAll limited empty]

theorem entries_of_defers (defers : Script.Engine.Defers outlet execution free)
    (limited : outlet.limit ≠ 0) (empty : outlet.pending = .empty) :
    (headerLines execution.emissions).map HeaderBlock.entry =
      admitted outlet.limit.toNat ((headerLines free.emissions).map HeaderBlock.entry) := by
  obtain ⟨-, written, report, held, freely, silent, -⟩ := defers
  have no_lines : headerLines report = [] := List.flatMap_eq_nil_iff.mpr silent
  rw [held, freely, headerLines_append, headerLines_append, no_lines, List.append_nil,
    List.append_nil, Script.Outlet.entries_acceptAll limited empty]

end

/-- The body of a response is what a buffer holds to which the script writes directly, as long as the
    cap discards nothing that this buffer keeps. It discards nothing of the kind if the ceiling is made
    up of whole chunks and can be allocated, or if everything written is within it; and where it does,
    a script that ends without a fault has another body. The report of a fault counts as the last of
    the writes. -/
theorem body_runOnce_eq_direct (config : Config) (env : Environment)
    (history : List (Surroundings × Operation)) (host : Surroundings) (request : Request)
    (script : String) {settings : Script.Settings} (accepted : config.validate = .ok ())
    (readable : Script.Settings.ofTable config.interpreter.ini = .ok settings)
    (valid : request.validate = .ok ()) :
    let bridge := (Bridge.new config (Script.Engine.new (.ofConfig config)) env).performAll history
    let free := bridge.freeExecution host request script
    let after := bridge.runOnce host request script
    let written := bodyWrites free.emissions
    let direct := written.foldl OutputBuffer.append (.new config.buffer)
    let cap := config.buffer.maxSize.toNat
    let spares := OutputBuffer.CapSpares .addressable config.buffer cap id id written
    stdoutWrites free.emissions = [] →
      after.1 = compose after.2.capture.headers.statusLine after.2.capture.headers.fields.data
          after.2.capture.body.data ∧
        (spares → after.2.capture.body.data = direct.data) ∧
        (free.outcome = .ok () → after.2.capture.body.data = direct.data → spares) ∧
        ((config.buffer.chunkSize.toNat ∣ cap ∧ Allocator.addressable config.buffer.maxSize) ∨
          written.flatten.length ≤ cap → spares) := by
  intro bridge free after written direct cap spares silent
  have rests : bridge.Rests config (Script.Engine.Unspent (.ofConfig config)) :=
    rests_unspent config (.ofConfig config) env history
  obtain ⟨outlet, execution, capped, empty, defers, answer, capture, regular⟩ :=
    rests.runOnce_defers readable host script valid
  obtain ⟨nonzero, small⟩ := Config.chunkSize_le_of_validate accepted
  have smaller := CapacityPolicy.grantsSmaller_addressable
  have limit : outlet.limit.toNat = cap := congrArg UInt64.toNat capped
  obtain ⟨pieces, more, split, ended, body⟩ := body_of_defers defers
    (by rw [capped]; exact nonzero) empty silent bridge.capture
  have ready := regular.body.reset
  have data : after.2.capture.body.data = ((admitted cap pieces ++ more).foldl OutputBuffer.append
      bridge.capture.body.reset).data := by rw [← limit, ← body, ← capture]
  refine ⟨answer, ?_, ?_, ?_⟩
  · intro spared
    rw [data]
    simp only [direct, written, free, split]
    exact OutputBuffer.CapSpares.data_capped_append_eq (split ▸ spared) ready rfl smaller
  · intro ok same
    obtain rfl := ended ok
    rw [List.append_nil] at split data
    rw [data, ← split] at same
    exact (ready.data_admitted_eq_iff rfl smaller cap written).mp same
  · rintro (⟨whole, granted⟩ | within)
    · exact OutputBuffer.capSpares_of_whole_chunks smaller small whole granted fun _ _ => rfl
    · exact OutputBuffer.capSpares_of_within (by rwa [List.map_id])

/-- A write that does not fit into two chunks is dropped by the cap, as it would be by the buffer, and a
    smaller one is kept. -/
theorem body_runOnce_eq_direct_of_whole_chunks :
    let config : Config := { Config.standard with buffer := ⟨4, 8⟩ }
    let host := hostOf "s.rhai" "echo(12345); echo(6789); echo(\"xyz\");"
    let request : Request := ⟨"GET", "/", none, none⟩
    let bridge := (Bridge.new config (Script.Engine.new (.ofConfig config))
      (.recording [])).performAll [(host, .warmUp)]
    let free := bridge.freeExecution host request "s.rhai"
    let after := bridge.runOnce host request "s.rhai"
    config.validate = .ok () ∧
      Script.Settings.ofTable config.interpreter.ini = .ok .standard ∧
      request.validate = .ok () ∧ stdoutWrites free.emissions = [] ∧
      bodyWrites free.emissions = [utf8 "12345", utf8 "6789", utf8 "xyz"] ∧
      after.2.capture.body.data =
        ((bodyWrites free.emissions).foldl OutputBuffer.append (.new config.buffer)).data := by
  intro config host request bridge free after
  have accepted : config.validate = .ok () := Config.validate_of_buffer rfl
  have readable : Script.Settings.ofTable config.interpreter.ini = .ok .standard := rfl
  have valid : request.validate = .ok () :=
    Request.validate_eq_ok_iff.mpr (by decide +kernel)
  have emissions : free.emissions =
      [.body (utf8 "12345"), .body (utf8 "6789"), .body (utf8 "xyz")] := by decide +kernel
  have silent : stdoutWrites free.emissions = [] := by rw [emissions]; rfl
  have written : bodyWrites free.emissions = [utf8 "12345", utf8 "6789", utf8 "xyz"] := by
    rw [emissions]
    rfl
  obtain ⟨-, same, -, enough⟩ := body_runOnce_eq_direct config (.recording []) [(host, .warmUp)]
    host request "s.rhai" accepted readable valid silent
  exact ⟨accepted, readable, valid, silent, written,
    same (enough (Or.inl ⟨⟨2, rfl⟩, by decide⟩))⟩

/-- The first write passes a cap of six bytes and then finds no room in a buffer that has a single
    chunk of four. It has used up the cap, and the second write, which there is room for, is lost. -/
theorem body_runOnce_ne_direct_of_partial_chunk :
    let config : Config := { Config.standard with buffer := ⟨4, 6⟩ }
    let host := hostOf "s.rhai" "echo(12345); echo(678);"
    let request : Request := ⟨"GET", "/", none, none⟩
    let bridge := Bridge.new config (Script.Engine.new (.ofConfig config)) (.recording [])
    let free := bridge.freeExecution host request "s.rhai"
    let after := bridge.runOnce host request "s.rhai"
    config.validate = .ok () ∧ request.validate = .ok () ∧
      free.emissions = [.body (utf8 "12345"), .body (utf8 "678")] ∧
      after.2.capture.body.data = [] ∧
      ((bodyWrites free.emissions).foldl OutputBuffer.append (.new config.buffer)).data =
        utf8 "678" := by
  intro config host request bridge free after
  have valid : request.validate = .ok () :=
    Request.validate_eq_ok_iff.mpr (by decide +kernel)
  have emissions : free.emissions = [.body (utf8 "12345"), .body (utf8 "678")] := by
    decide +kernel
  refine ⟨Config.validate_of_buffer rfl, valid, emissions, by decide +kernel, ?_⟩
  rw [emissions]
  decide +kernel

/-- The headers of a response are those of an assembler that observes the lines of the script
    directly, as long as the cap discards neither the last status line nor a line that the block of
    this assembler keeps; where it discards such a line, the block is another one. The cap discards
    nothing if the lines, each with its line end, are within it together. It may discard lines and still
    none that the block would keep, if there are no status lines, which it also counts, and if the
    ceiling is made up of whole chunks and can be allocated. -/
theorem headers_runOnce_eq_observed (config : Config) (env : Environment)
    (history : List (Surroundings × Operation)) (host : Surroundings) (request : Request)
    (script : String) {settings : Script.Settings} (accepted : config.validate = .ok ())
    (readable : Script.Settings.ofTable config.interpreter.ini = .ok settings)
    (valid : request.validate = .ok ()) :
    let bridge := (Bridge.new config (Script.Engine.new (.ofConfig config)) env).performAll history
    let free := bridge.freeExecution host request script
    let after := bridge.runOnce host request script
    let headers := after.2.capture.headers
    let lines := headerLines free.emissions
    let direct := lines.foldl HeaderBlock.observe (.new config.buffer)
    let cap := config.buffer.maxSize.toNat
    let passesStatus := HeaderBlock.CapPassesStatus cap lines
    let spares := OutputBuffer.CapSpares .addressable config.buffer cap HeaderBlock.entry
      HeaderBlock.taken lines
    after.1 = compose headers.statusLine headers.fields.data after.2.capture.body.data ∧
      (passesStatus → headers.statusLine = lastStatus free.emissions) ∧
      (headers.fields.data = direct.fields.data ↔ spares) ∧
      ((fieldBlock lines).length ≤ cap → passesStatus ∧ spares) ∧
      ((∀ line ∈ lines, HeaderKind.ofLine line = .field) → config.buffer.chunkSize.toNat ∣ cap →
        Allocator.addressable config.buffer.maxSize → spares) := by
  intro bridge free after headers lines direct cap passesStatus spares
  have rests : bridge.Rests config (Script.Engine.Unspent (.ofConfig config)) :=
    rests_unspent config (.ofConfig config) env history
  obtain ⟨outlet, execution, capped, empty, defers, answer, capture, regular⟩ :=
    rests.runOnce_defers readable host script valid
  obtain ⟨nonzero, small⟩ := Config.chunkSize_le_of_validate accepted
  have smaller := CapacityPolicy.grantsSmaller_addressable
  have limit : outlet.limit.toNat = cap := congrArg UInt64.toNat capped
  have passed := entries_of_defers defers (by rw [capped]; exact nonzero) empty
  rw [limit] at passed
  refine ⟨answer, ?_, ?_, ?_, ?_⟩
  · intro passes
    have status : headers.statusLine = lastStatus execution.emissions := by
      simp only [headers, after, capture, Capture.statusLine_emitAll]
    rw [status, lastStatus_eq, lastStatus_eq, statusAmong_eq_of_passed passed passes]
  · have observed : headers.fields = ((headerLines execution.emissions).map
        HeaderBlock.taken).foldl OutputBuffer.append bridge.capture.headers.reset.fields := by
      simp only [headers, after, capture, Capture.mergeStdout, Capture.headers_mergeStdout,
        Capture.headers_emitAll, HeaderBlock.fields_foldl_observe]
      rfl
    have directly : direct.fields =
        (lines.map HeaderBlock.taken).foldl OutputBuffer.append (.new config.buffer) :=
      HeaderBlock.fields_foldl_observe lines _
    have ready : OutputBuffer.Ready config.buffer .addressable
        bridge.capture.headers.reset.fields := regular.fields.reset
    rw [observed, directly]
    exact ready.data_capped_eq_iff rfl smaller HeaderBlock.priced_entry_taken
      HeaderBlock.entry_injective passed
  · intro within
    refine ⟨HeaderBlock.capPassesStatus_of_within within, OutputBuffer.capSpares_of_within ?_⟩
    rwa [HeaderBlock.flatten_map_entry]
  · intro ordinary whole granted
    exact OutputBuffer.capSpares_of_whole_chunks smaller small whole granted fun line member =>
      HeaderBlock.taken_of_field (ordinary line member)

/-- A status line and another line, with 44 bytes in all. -/
theorem headers_runOnce_eq_observed_of_two_lines :
    let config : Config := { Config.standard with buffer := ⟨16, 44⟩ }
    let host := hostOf "s.rhai" "http_response_code(500); header(\"X-A: 1\");"
    let request : Request := ⟨"GET", "/", none, none⟩
    let bridge := (Bridge.new config (Script.Engine.new (.ofConfig config))
      (.recording [])).performAll [(host, .warmUp)]
    let free := bridge.freeExecution host request "s.rhai"
    let headers := (bridge.runOnce host request "s.rhai").2.capture.headers
    config.validate = .ok () ∧
      Script.Settings.ofTable config.interpreter.ini = .ok .standard ∧
      request.validate = .ok () ∧ (fieldBlock (headerLines free.emissions)).length = 44 ∧
      headers.statusLine = "HTTP/1.1 500 Internal Server Error" ∧
      headers.fields.data = utf8 "X-A: 1\r\n" := by
  intro config host request
  dsimp only
  have accepted : config.validate = .ok () := Config.validate_of_buffer rfl
  have readable : Script.Settings.ofTable config.interpreter.ini = .ok .standard := rfl
  have valid : request.validate = .ok () :=
    Request.validate_eq_ok_iff.mpr (by decide +kernel)
  have emitted : (freeExecution host request "s.rhai"
      ((Bridge.new config (Script.Engine.new (.ofConfig config)) (.recording [])).performAll
        [(host, .warmUp)])).emissions =
      [.header "HTTP/1.1 500 Internal Server Error", .header "X-A: 1"] := by decide +kernel
  obtain ⟨-, status, fields, enough, -⟩ := headers_runOnce_eq_observed config (.recording [])
    [(host, .warmUp)] host request "s.rhai" accepted readable valid
  rw [emitted] at status fields enough ⊢
  have size : (fieldBlock (headerLines [.header "HTTP/1.1 500 Internal Server Error",
      .header "X-A: 1"])).length = 44 := by decide +kernel
  obtain ⟨passes, spares⟩ := enough (Nat.le_of_eq size)
  refine ⟨accepted, readable, valid, size, ?_, ?_⟩
  · rw [status passes]
    decide +kernel
  · rw [fields.mpr spares]
    decide +kernel

/-- The first line passes a cap of six bytes and then finds no room in a block that has a single chunk
    of four. There is room for the next line, and none is needed for the status line; both are lost to
    the cap. -/
theorem headers_runOnce_ne_observed_of_partial_chunk :
    let config : Config := { Config.standard with buffer := ⟨4, 6⟩ }
    let host := hostOf "s.rhai" "header(\"A:1\"); header(\"B:\"); http_response_code(500);"
    let request : Request := ⟨"GET", "/", none, none⟩
    let bridge := Bridge.new config (Script.Engine.new (.ofConfig config)) (.recording [])
    let free := bridge.freeExecution host request "s.rhai"
    let headers := (bridge.runOnce host request "s.rhai").2.capture.headers
    config.validate = .ok () ∧ request.validate = .ok () ∧
      headerLines free.emissions = ["A:1", "B:", "HTTP/1.1 500 Internal Server Error"] ∧
      headers.statusLine = "HTTP/1.1 200 OK" ∧ headers.fields.data = [] ∧
      ((headerLines free.emissions).foldl HeaderBlock.observe
        (.new config.buffer)).fields.data = utf8 "B:\r\n" := by
  intro config host request bridge free headers
  have valid : request.validate = .ok () :=
    Request.validate_eq_ok_iff.mpr (by decide +kernel)
  have lines : headerLines free.emissions =
      ["A:1", "B:", "HTTP/1.1 500 Internal Server Error"] := by decide +kernel
  have observed : headers.statusLine = "HTTP/1.1 200 OK" ∧ headers.fields.data = [] := by
    decide +kernel
  refine ⟨Config.validate_of_buffer rfl, valid, lines, observed.1, observed.2, ?_⟩
  rw [lines]
  decide +kernel

end Bridge

end ScriptBridge
