import ScriptBridge.Proofs.Bridge.Phases

/-! # Bridges at rest

Every operation of a bridge leaves it at rest: whichever of its steps fail, the state that it ends
in tells the phase of the interpreter. Only a command can shut the interpreter down in the middle
of a request, and only then an invariant has to survive that.
-/

namespace ScriptBridge

namespace Bridge

variable {σ : Type} [Interpreter σ] {config : Config} {hosts : Surroundings → Prop}
  {Inv Inv' : Directory → Phase → σ → Prop} {bridge : Bridge σ}

omit [Interpreter σ] in
theorem Rests.cases (rests : bridge.Rests config Inv) :
    bridge.In config Inv .unstarted ∨ bridge.In config Inv (.idle .requests) ∨
      bridge.state = .requestActive ∧ bridge.In config Inv (.active .requests) := by
  obtain ⟨⟨phase, told, holds⟩, -⟩ := rests
  cases state : bridge.state <;> simp only [state, LifecycleState.phase?, reduceCtorEq,
    Option.some.injEq] at told <;> subst told
  · exact Or.inl holds
  · exact Or.inr (Or.inl holds)
  · exact Or.inr (Or.inr ⟨rfl, holds⟩)
  · exact Or.inl holds

theorem In.seed (rules : PhaseInvariant config.interpreter.ini hosts Inv) (now : Int64)
    (request : Request) (holds : bridge.In config Inv (.idle .requests)) :
    Leads (bridge.seed now request) (In config Inv (.active .requests)) (Rests config Inv) := by
  have leads := rules.seed bridge.seeder now request bridge.env holds.interpreter
  simp only [Bridge.seed]
  split
  · next fault next called =>
      rw [called] at leads
      have failed : In config Inv (.idle .requests)
          { bridge with interpreter := next, state := .seeding } := holds.change leads
      exact (failed.shutdown rules (by simp [ReleasedIfShutdown])).1
  · next next called =>
      rw [called] at leads
      exact ⟨⟨holds.seeder, holds.command, holds.ini, ⟨holds.capture.body, holds.capture.fields⟩⟩,
        leads⟩

theorem Rests.endRequest_warmUp (rules : PhaseInvariant config.interpreter.ini hosts Inv)
    (rests : bridge.Rests config Inv) :
    Leads bridge.endRequest.warmUp (In config Inv (.idle .requests))
      (fun bridge => bridge.In config Inv .unstarted ∧ bridge.state = .uninitialized) := by
  rcases rests.cases with holds | holds | ⟨-, holds⟩
  · rw [endRequest_of_inactive (congrArg Prod.snd (holds.flags rules))]
    exact (holds.warmUp rules).imp (fun _ h => h.1) (fun _ h => h)
  · rw [endRequest_of_inactive (congrArg Prod.snd (holds.flags rules)),
      warmUp_of_started (congrArg Prod.fst (holds.flags rules))]
    exact holds
  · have idle := holds.endRequest rules
    rw [warmUp_of_started (congrArg Prod.fst (idle.flags rules))]
    exact idle

theorem Rests.beginRequest (rules : PhaseInvariant config.interpreter.ini hosts Inv)
    (host : Surroundings) (request : Request) (script : Option String)
    (rests : bridge.Rests config Inv) :
    Leads (bridge.beginRequest host request script)
      (In config Inv (.active .requests)) (Rests config Inv) := by
  have warm := rests.endRequest_warmUp rules
  simp only [Bridge.beginRequest]
  split
  · next fault failed called =>
      rw [called] at warm
      obtain ⟨holds, state⟩ := warm
      exact ⟨⟨.unstarted, by rw [state]; rfl, holds⟩, by simp [ReleasedIfShutdown, state]⟩
  · next ready called =>
      rw [called] at warm
      refine In.seed rules host.now request ⟨⟨warm.seeder, warm.command, warm.ini, ?_⟩, ?_⟩
      · exact warm.capture.reset.regular
      · rw [Seeder.directory_exportEnvironment]
        exact warm.interpreter

theorem In.executeSeeded (rules : PhaseInvariant config.interpreter.ini hosts Inv)
    {host : Surroundings} (known : hosts host) (script : String) {purpose : Purpose}
    (holds : bridge.In config Inv (.active purpose)) :
    (bridge.executeSeeded host script).In config Inv (.idle purpose) ∧
      (bridge.executeSeeded host script).state = .warm := by
  refine ⟨⟨⟨holds.seeder, holds.command, holds.ini, ?_⟩, ?_⟩, rfl⟩
  · have stable := OutputBuffer.stable_regular config.buffer .addressable
    exact (holds.capture.emitAll stable _).mergeStdout stable
  · exact rules.requestShutdown (rules.execute known holds.interpreter)

omit [Interpreter σ] in
theorem In.rests_of_warm (holds : bridge.In config Inv (.idle .requests))
    (state : bridge.state = .warm) : bridge.Rests config Inv :=
  ⟨⟨_, by rw [state]; rfl, holds⟩, by simp [ReleasedIfShutdown, state]⟩

omit [Interpreter σ] in
theorem In.rests_of_uninitialized (holds : bridge.In config Inv .unstarted)
    (state : bridge.state = .uninitialized) : bridge.Rests config Inv :=
  ⟨⟨_, by rw [state]; rfl, holds⟩, by simp [ReleasedIfShutdown, state]⟩

theorem Rests.warmUp (rules : PhaseInvariant config.interpreter.ini hosts Inv)
    (rests : bridge.Rests config Inv) : bridge.warmUp.2.Rests config Inv := by
  rcases rests.cases with holds | holds | ⟨-, holds⟩
  · rcases (holds.warmUp rules).either with ⟨idle, state⟩ | ⟨down, state⟩
    · exact idle.rests_of_warm state
    · exact down.rests_of_uninitialized state
  · rw [warmUp_of_started (congrArg Prod.fst (holds.flags rules))]
    exact rests
  · rw [warmUp_of_started (congrArg Prod.fst (holds.flags rules))]
    exact rests

theorem Rests.shutdown (rules : PhaseInvariant config.interpreter.ini hosts Inv)
    (rests : bridge.Rests config Inv) :
    bridge.shutdown.Rests config Inv ∧ bridge.shutdown.state = .shutdown := by
  obtain ⟨⟨phase, -, holds⟩, released⟩ := rests
  exact holds.shutdown rules released

theorem Rests.setRequestInfo (rules : PhaseInvariant config.interpreter.ini hosts Inv)
    (host : Surroundings) (request : Request) (rests : bridge.Rests config Inv) :
    (bridge.setRequestInfo host request).2.Rests config Inv := by
  have leads := rests.beginRequest rules host request none
  simp only [Bridge.setRequestInfo]
  split
  · exact rests
  · split
    · next called =>
        rw [called] at leads
        exact leads
    · next called =>
        rw [called] at leads
        exact ⟨⟨_, rfl, leads.change leads.interpreter⟩, by simp [ReleasedIfShutdown]⟩

theorem Rests.executeScript (rules : PhaseInvariant config.interpreter.ini hosts Inv)
    {host : Surroundings} (known : hosts host) (script : String)
    (rests : bridge.Rests config Inv) :
    (bridge.executeScript host script).2.Rests config Inv := by
  simp only [Bridge.executeScript]
  split
  · next state =>
      obtain ⟨⟨phase, told, holds⟩, -⟩ := rests
      rw [state] at told
      obtain rfl := Option.some.inj told
      obtain ⟨idle, warm⟩ := holds.executeSeeded rules known script
      exact idle.rests_of_warm warm
  · exact rests

theorem Rests.tryRunOnce (rules : PhaseInvariant config.interpreter.ini hosts Inv)
    {host : Surroundings} (known : hosts host) (request : Request) (script : String)
    (rests : bridge.Rests config Inv) :
    (bridge.tryRunOnce host request script).2.Rests config Inv := by
  have leads := rests.beginRequest rules host request (some script)
  simp only [Bridge.tryRunOnce]
  split
  · exact rests
  · split
    · next called =>
        rw [called] at leads
        exact leads
    · next called =>
        rw [called] at leads
        obtain ⟨idle, warm⟩ := leads.executeSeeded rules known script
        exact idle.rests_of_warm warm

theorem Rests.runOnce (rules : PhaseInvariant config.interpreter.ini hosts Inv)
    {host : Surroundings} (known : hosts host) (request : Request) (script : String)
    (rests : bridge.Rests config Inv) :
    (bridge.runOnce host request script).2.Rests config Inv := by
  have tried := rests.tryRunOnce rules known request script
  simp only [Bridge.runOnce]
  split
  all_goals
    next called =>
      rw [called] at tried
      exact tried

omit [Interpreter σ] in
theorem Rests.setEnvironmentVariable (name value : String) (overwrite : Bool)
    (rests : bridge.Rests config Inv) :
    (bridge.setEnvironmentVariable name value overwrite).2.Rests config Inv := by
  obtain ⟨⟨phase, told, holds⟩, released⟩ := rests
  simp only [Bridge.setEnvironmentVariable]
  split
  · split
    · exact ⟨⟨phase, told, holds⟩, released⟩
    · exact ⟨⟨phase, told, ⟨holds.seeder, holds.command, holds.ini, holds.capture⟩,
        holds.interpreter⟩, released⟩
  · exact ⟨⟨phase, told, holds⟩, released⟩

omit [Interpreter σ] in
theorem Rests.exportRequestHeaders (headers : List (String × String))
    (rests : bridge.Rests config Inv) :
    (bridge.exportRequestHeaders headers).Rests config Inv := by
  obtain ⟨⟨phase, told, holds⟩, released⟩ := rests
  refine ⟨⟨phase, told, ⟨holds.seeder, holds.command, holds.ini, holds.capture⟩, ?_⟩, released⟩
  simpa [Bridge.exportRequestHeaders] using holds.interpreter

theorem Rests.takeDown_of_inactive (rules : PhaseInvariant config.interpreter.ini hosts Inv)
    (rests : bridge.Rests config Inv) (inactive : bridge.active = false) :
    bridge.takeDown.In config Inv .unstarted := by
  rcases rests.cases with holds | holds | ⟨-, holds⟩
  · rw [takeDown_of_unstarted (congrArg Prod.fst (holds.flags rules))]
    exact holds
  · exact holds.takeDown_of_idle rules
  · have active : bridge.active = true := congrArg Prod.snd (holds.flags rules)
    exact absurd active (by simp [inactive])

/-- A command shuts the interpreter down in the middle of a request that is active. -/
theorem Rests.takeDown_of_active (rules : PhaseInvariant config.interpreter.ini hosts Inv)
    (rests : bridge.Rests config Inv) (active : bridge.active = true) (cut : CutOff Inv Inv') :
    bridge.takeDown.In config Inv' .unstarted := by
  rcases rests.cases with holds | holds | ⟨-, holds⟩
  · exact absurd (congrArg Prod.snd (holds.flags rules)) (by simp [active, Phase.flags])
  · exact absurd (congrArg Prod.snd (holds.flags rules)) (by simp [active, Phase.flags])
  · have started : bridge.started = true := congrArg Prod.fst (holds.flags rules)
    simp only [Bridge.takeDown, started, if_true]
    exact holds.change (cut _ _ _ holds.interpreter)

theorem In.prepareCommand (rules : PhaseInvariant config.interpreter.ini hosts Inv)
    (host : Surroundings) (publicDir : String) (holds : bridge.In config Inv .unstarted) :
    (bridge.prepareCommand host publicDir).In config Inv .unstarted :=
  ⟨⟨holds.seeder, holds.command, holds.ini, holds.capture.reset.regular⟩,
    rules.relocate holds.interpreter⟩

theorem In.endCommand (rules : PhaseInvariant config.interpreter.ini hosts Inv) {purpose : Purpose}
    (holds : bridge.In config Inv (.idle purpose)) : bridge.endCommand.Rests config Inv :=
  In.rests_of_uninitialized (holds.change (rules.shutdown holds.interpreter)) rfl

theorem In.executeCommand (rules : PhaseInvariant config.interpreter.ini hosts Inv)
    {host : Surroundings} (known : hosts host) (publicDir : String)
    (holds : bridge.In config Inv (.active .command)) :
    (bridge.executeCommand host publicDir).2.Rests config Inv := by
  have finished : In config Inv (.active .command)
      { bridge with interpreter := Interpreter.finishRequestStartup bridge.interpreter } :=
    holds.change (rules.finishRequestStartup holds.interpreter)
  exact (finished.executeSeeded rules known _).1.endCommand rules

theorem In.runCommand (rules : PhaseInvariant config.interpreter.ini hosts Inv)
    {host : Surroundings} (known : hosts host) (line publicDir : String)
    (down : bridge.takeDown.In config Inv .unstarted) :
    (¬ bridge.LacksStreams line → (bridge.runCommand host line publicDir).2.Rests config Inv) ∧
      (bridge.LacksStreams line → ∀ Inv', CutOff Inv Inv' →
        (bridge.runCommand host line publicDir).2.Rests config Inv') := by
  have ready := down.prepareCommand rules host publicDir
  have options : (bridge.takeDown.prepareCommand host publicDir).commandOptions line =
      bridge.commandOptions line := by
    simp only [Bridge.prepareCommand, Bridge.commandOptions, Bridge.takeDown]
    split <;> rfl
  have admitted : Purpose.command.Admits config.interpreter.ini (bridge.commandOptions line) :=
    trivial
  have leads := rules.startup admitted ready.interpreter
  simp only [Bridge.runCommand, options]
  rcases called : Interpreter.startup (bridge.commandOptions line)
    (bridge.takeDown.prepareCommand host publicDir).interpreter with ⟨result, idle⟩
  rw [called] at leads
  cases result with
  | error fault =>
      refine ⟨fun _ => In.rests_of_uninitialized (ready.change leads) rfl, ?_⟩
      rintro ⟨_, _, started, -⟩ - -
      exact absurd (called.symm.trans started) (by simp)
  | ok =>
      have begun := rules.requestStartup leads
      rcases asked : Interpreter.requestStartup idle with ⟨result, active⟩
      rw [asked] at begun
      simp only [startCommand, asked]
      cases result with
      | error fault =>
          refine ⟨fun _ => In.endCommand rules (ready.change begun), ?_⟩
          rintro ⟨_, _, started, requested, -⟩ - -
          obtain rfl := (Prod.mk.inj (called.symm.trans started)).2
          exact absurd (asked.symm.trans requested) (by simp)
      | ok =>
          have routed := rules.routeStdio begun
          rcases routing : Interpreter.routeStdio active with ⟨result, next⟩
          rw [routing] at routed
          simp only [routing]
          cases result with
          | error fault =>
              constructor
              · intro granted
                exact absurd ⟨idle, active, called, asked, fault, by rw [routing]⟩ granted
              · intro _ _ cut
                exact In.rests_of_uninitialized (ready.change (cut _ _ _ routed)) rfl
          | ok =>
              refine ⟨fun _ => In.executeCommand rules known publicDir (ready.change routed), ?_⟩
              rintro ⟨_, _, started, requested, fault, refused⟩ - -
              obtain rfl := (Prod.mk.inj (called.symm.trans started)).2
              obtain rfl := (Prod.mk.inj (asked.symm.trans requested)).2
              exact absurd refused (by simp [routing])

theorem Rests.runCommand (rules : PhaseInvariant config.interpreter.ini hosts Inv)
    {host : Surroundings} (known : hosts host) (line publicDir : String)
    (rests : bridge.Rests config Inv) (whole : ¬ bridge.CutsOff line) :
    (bridge.runCommand host line publicDir).2.Rests config Inv := by
  have inactive : bridge.active = false := by
    simpa using fun active => whole (Or.inl active)
  exact ((rests.takeDown_of_inactive rules inactive).runCommand rules known line publicDir).1
    fun lacks => whole (Or.inr lacks)

/-- After a command that cuts a request off, what is left of the invariant holds. -/
theorem Rests.runCommand_of_cutsOff (rules : PhaseInvariant config.interpreter.ini hosts Inv)
    (rules' : PhaseInvariant config.interpreter.ini hosts Inv') (cut : CutOff Inv Inv')
    (cut' : CutOff Inv' Inv') {host : Surroundings} (known : hosts host) (line publicDir : String)
    (rests : bridge.Rests config Inv) (cuts : bridge.CutsOff line) :
    (bridge.runCommand host line publicDir).2.Rests config Inv' := by
  by_cases active : bridge.active = true
  · have down := rests.takeDown_of_active rules active cut
    have after := down.runCommand rules' known line publicDir
    by_cases lacks : bridge.LacksStreams line
    · exact after.2 lacks Inv' cut'
    · exact after.1 lacks
  · have down := rests.takeDown_of_inactive rules (by simpa using active)
    exact (down.runCommand rules known line publicDir).2 (cuts.resolve_left active) Inv' cut

theorem Rests.perform (rules : PhaseInvariant config.interpreter.ini hosts Inv)
    {host : Surroundings} (known : hosts host) (operation : Operation)
    (rests : bridge.Rests config Inv) (whole : ¬ operation.CutsOff bridge) :
    (bridge.perform host operation).2.Rests config Inv := by
  cases operation with
  | warmUp => exact rests.warmUp rules
  | runOnce request script => exact rests.runOnce rules known request script
  | setRequestInfo request => exact rests.setRequestInfo rules host request
  | executeScript script => exact rests.executeScript rules known script
  | runCommand line publicDir => exact rests.runCommand rules known line publicDir whole
  | setVariable name value overwrite => exact rests.setEnvironmentVariable name value overwrite
  | exportHeaders headers => exact rests.exportRequestHeaders headers
  | shutdown => exact (rests.shutdown rules).1

theorem Rests.perform_of_cutsOff (rules : PhaseInvariant config.interpreter.ini hosts Inv)
    (rules' : PhaseInvariant config.interpreter.ini hosts Inv') (cut : CutOff Inv Inv')
    (cut' : CutOff Inv' Inv') {host : Surroundings} (known : hosts host) (operation : Operation)
    (rests : bridge.Rests config Inv) (cuts : operation.CutsOff bridge) :
    (bridge.perform host operation).2.Rests config Inv' := by
  cases operation with
  | runCommand line publicDir =>
      exact rests.runCommand_of_cutsOff rules rules' cut cut' known line publicDir cuts
  | warmUp | runOnce | setRequestInfo | executeScript | setVariable | exportHeaders | shutdown =>
      exact cuts.elim

/-- Whatever happens to a bridge, it is at rest afterwards. -/
theorem Rests.performAll (rules : PhaseInvariant config.interpreter.ini hosts Inv)
    (cut : CutOff Inv Inv) {history : List (Surroundings × Operation)}
    (known : ∀ entry ∈ history, hosts entry.1) (rests : bridge.Rests config Inv) :
    (bridge.performAll history).Rests config Inv := by
  induction history generalizing bridge with
  | nil => exact rests
  | cons entry history ih =>
      have host := known entry List.mem_cons_self
      have first : (bridge.perform entry.1 entry.2).2.Rests config Inv := by
        by_cases cuts : entry.2.CutsOff bridge
        · exact rests.perform_of_cutsOff rules rules cut cut host entry.2 cuts
        · exact rests.perform rules host entry.2 cuts
      exact ih (fun entry member => known entry (List.mem_cons_of_mem _ member)) first

omit [Interpreter σ] in
theorem rests_new {interpreter : σ} {env : Environment}
    (holds : Inv env.directory .unstarted interpreter) :
    (Bridge.new config interpreter env).Rests config Inv :=
  In.rests_of_uninitialized ⟨⟨rfl, rfl, rfl, Capture.regular_new _⟩, holds⟩ rfl

end Bridge

end ScriptBridge
