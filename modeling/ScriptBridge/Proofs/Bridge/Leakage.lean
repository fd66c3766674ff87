import ScriptBridge.Proofs.Script.Forgetting
import ScriptBridge.Recorder

/-! # What leaks between invocations

Nothing that a bridge was asked before shows in its answer to a command, but for the environment that
is left; and nothing shows in its answer to a request, but for the environment and for what its
interpreter keeps. A recorder keeps nothing. The script engine keeps the modules that scripts
imported, and a module can hold what its script was told of an earlier request.
-/

namespace ScriptBridge

namespace Recorder

/-- A recorder without what does not show in an execution. -/
def core (recorder : Recorder) : Recorder :=
  { recorder with exitStatus := 0, calls := [] }

theorem exists_of_core {recorder other : Recorder} (same : recorder.core = other.core) :
    ∃ exitStatus calls, other = { recorder with exitStatus, calls } := by
  refine ⟨other.exitStatus, other.calls, ?_⟩
  cases recorder
  cases other
  simp only [core, mk.injEq] at same ⊢
  simp [same]

/-- A recorder in a phase. It was started only if it does not refuse that. -/
structure Follows (actions : List Action) (refusals : Refusals) (_ : Directory) (phase : Phase)
    (recorder : Recorder) : Prop where
  flags : Interpreter.flags recorder = phase.flags
  acts : recorder.actions = actions
  refuses : recorder.refusals = refusals
  whole : recorder.crashed = false
  quiet : phase.flags.2 = false → recorder.symbols = .empty
  granted : phase.flags.1 = true → refusals.startup = false

theorem not_crashed_of_perform (symbols : Table Value) {actions : List Action}
    (whole : ∀ action ∈ actions, action ≠ .crash) : (perform symbols actions).2 ≠ .crashed := by
  induction actions with
  | nil => simp [perform]
  | cons action actions ih =>
      have rest := ih fun action member => whole action (List.mem_cons_of_mem _ member)
      cases action with
      | emit emission => exact rest
      | «show» symbol key => exact rest
      | fail reason => simp [perform]
      | crash => exact absurd rfl (whole .crash List.mem_cons_self)

section

variable {actions : List Action} {refusals : Refusals} {directory : Directory} {phase : Phase}
  {recorder : Recorder}

theorem run_spec (whole : ∀ action ∈ recorder.actions, action ≠ .crash) :
    ∃ exitStatus, recorder.run.2 = { recorder with exitStatus } := by
  have fine := not_crashed_of_perform recorder.symbols whole
  simp only [run]
  split
  · split
    · exact ⟨recorder.exitStatus, rfl⟩
    · exact ⟨255, rfl⟩
    · next crashed => exact absurd crashed fine
  · exact ⟨recorder.exitStatus, rfl⟩

theorem record_of_whole (whole : recorder.crashed = false) (call : Call)
    (f : Recorder → Recorder) :
    record call f recorder = f { recorder with calls := call :: recorder.calls } := by
  simp [record, whole]

theorem attempt_of_whole (whole : recorder.crashed = false) (call : Call)
    (f : Recorder → Except ScriptFault Unit × Recorder) :
    attempt call f recorder = f { recorder with calls := call :: recorder.calls } := by
  simp [attempt, whole]

theorem Follows.note (follows : Follows actions refusals directory phase recorder)
    (exitStatus : Int) (calls : List Call) :
    Follows actions refusals directory phase { recorder with exitStatus, calls } :=
  ⟨follows.flags, follows.acts, follows.refuses, follows.whole, follows.quiet, follows.granted⟩

theorem Follows.record (follows : Follows actions refusals directory phase recorder) (call : Call) :
    Follows actions refusals directory phase (Recorder.record call id recorder) := by
  rw [record_of_whole follows.whole]
  exact follows.note _ _

theorem Follows.startup {purpose : Purpose}
    (follows : Follows actions refusals directory .unstarted recorder)
    (options : StartupOptions) :
    Leads (Interpreter.startup options recorder)
      (Follows actions refusals directory (.idle purpose))
      (Follows actions refusals directory .unstarted) := by
  simp only [Interpreter.startup, attempt_of_whole follows.whole]
  split
  · exact follows.note _ _
  · next grants =>
      have idle : recorder.active = false := congrArg Prod.snd follows.flags
      have granted : refusals.startup = false := by
        rw [← follows.refuses]
        simpa using grants
      refine ⟨?_, follows.acts, follows.refuses, follows.whole, fun _ => follows.quiet rfl,
        fun _ => granted⟩
      simp [Interpreter.flags, Interpreter.started, Interpreter.active, idle, Phase.flags]

theorem Follows.requestStartup {purpose : Purpose}
    (follows : Follows actions refusals directory (.idle purpose) recorder) :
    Leads (Interpreter.requestStartup recorder)
      (Follows actions refusals directory (.active purpose))
      (Follows actions refusals directory (.idle purpose)) := by
  have up : recorder.started = true := congrArg Prod.fst follows.flags
  have started : (!recorder.started) = false := by simp [up]
  simp only [Interpreter.requestStartup, attempt_of_whole follows.whole, started,
    Bool.false_eq_true, if_false]
  split
  · exact follows.note _ _
  · refine ⟨?_, follows.acts, follows.refuses, follows.whole, by simp [Phase.flags],
      follows.granted⟩
    simp [Interpreter.flags, Interpreter.started, Interpreter.active, up, Phase.flags]

theorem Follows.shutdown {phase : Phase}
    (follows : Follows actions refusals directory phase recorder) :
    Follows actions refusals directory .unstarted (Interpreter.shutdown recorder) := by
  simp only [Interpreter.shutdown, record_of_whole follows.whole]
  exact ⟨rfl, follows.acts, follows.refuses, follows.whole, fun _ => rfl, by simp [Phase.flags]⟩

theorem follows_phaseInvariant (actions : List Action) (refusals : Refusals)
    (whole : ∀ action ∈ actions, action ≠ .crash) (ini : Table String) :
    PhaseInvariant ini (fun _ => True) (Follows actions refusals) where
  flags follows := follows.flags
  relocate follows :=
    ⟨follows.flags, follows.acts, follows.refuses, follows.whole, follows.quiet, follows.granted⟩
  startup _ follows := follows.startup _
  declare follows := follows.record _
  requestStartup follows := follows.requestStartup
  setSymbol follows := by
    simp only [Interpreter.setSymbol, record_of_whole follows.whole]
    exact ⟨follows.flags, follows.acts, follows.refuses, follows.whole, by simp [Phase.flags],
      follows.granted⟩
  readForm follows := follows.record _
  attachBody follows := follows.record _
  exposeStdout follows := follows.record _
  routeStdio follows := by
    simp only [Interpreter.routeStdio, attempt_of_whole follows.whole]
    split
    · exact follows.note _ _
    · exact follows.note _ _
  finishRequestStartup follows := by
    simp only [Interpreter.finishRequestStartup, record_of_whole follows.whole]
    exact follows.note _ _
  execute {_ _ _ script recorder} _ follows := by
    have fine : ∀ action ∈ ({ recorder with calls := .execute script :: recorder.calls } :
        Recorder).actions, action ≠ .crash := follows.acts ▸ whole
    obtain ⟨exitStatus, ran⟩ := run_spec fine
    simp only [Interpreter.execute]
    rw [if_neg (by simp [follows.whole]), ran]
    exact follows.note _ _
  requestShutdown {_ _ recorder} follows := by
    have up : recorder.started = true := congrArg Prod.fst follows.flags
    simp only [Interpreter.requestShutdown, record_of_whole follows.whole]
    refine ⟨?_, follows.acts, follows.refuses, follows.whole, fun _ => rfl, follows.granted⟩
    simp [Interpreter.flags, Interpreter.started, Interpreter.active, up, Phase.flags]
  shutdown follows := follows.shutdown

theorem Follows.core_eq (follows : Follows actions refusals directory phase recorder)
    (outside : phase.flags.2 = false) :
    recorder.core = ⟨actions, refusals, phase.flags.1, false, false, 0, .empty, []⟩ := by
  obtain ⟨flags, acts, refuses, whole, quiet, -⟩ := follows
  have started : recorder.started = phase.flags.1 := congrArg Prod.fst flags
  have active : recorder.active = false := (congrArg Prod.snd flags).trans outside
  simp only [core, acts, refuses, started, active, whole, quiet outside]

/-- Recorders that differ only in what does not show in an execution. -/
def Alike (_ : Directory) (recorder other : Recorder) : Prop :=
  recorder.core = other.core

theorem alike_record {other : Recorder} (alike : Alike directory recorder other) (call : Call)
    {f : Recorder → Recorder} (core : ∀ recorder : Recorder, (f recorder).core = (f recorder.core).core) :
    Alike directory (record call f recorder) (record call f other) := by
  obtain ⟨exitStatus, calls, rfl⟩ := exists_of_core alike
  simp only [record]
  split
  · rfl
  · rw [Alike, core, core { recorder with exitStatus, calls := call :: calls }]
    rfl

theorem alike_attempt {other : Recorder} (alike : Alike directory recorder other) (call : Call)
    {f : Recorder → Except ScriptFault Unit × Recorder}
    (inStep : ∀ exitStatus calls calls', InStep (Alike directory)
      (f { recorder with calls }) (f { recorder with exitStatus, calls := calls' })) :
    InStep (Alike directory) (attempt call f recorder) (attempt call f other) := by
  obtain ⟨exitStatus, calls, rfl⟩ := exists_of_core alike
  simp only [attempt]
  split
  · exact ⟨_, _, _, rfl, rfl, rfl⟩
  · exact inStep _ _ _

theorem alike_congruence (host : Surroundings) : Congruence host Alike where
  startup options alike := by
    refine alike_attempt alike _ fun _ _ _ => ?_
    dsimp only
    split
    · exact ⟨_, _, _, rfl, rfl, rfl⟩
    · exact ⟨_, _, _, rfl, rfl, rfl⟩
  requestStartup alike := by
    refine alike_attempt alike _ fun _ _ _ => ?_
    dsimp only
    split
    · exact ⟨_, _, _, rfl, rfl, rfl⟩
    · split
      · exact ⟨_, _, _, rfl, rfl, rfl⟩
      · exact ⟨_, _, _, rfl, rfl, rfl⟩
  setSymbol _ _ alike := alike_record alike _ fun _ => rfl
  readForm _ _ alike := alike_record alike _ fun _ => rfl
  attachBody _ alike := alike_record alike _ fun _ => rfl
  exposeStdout alike := alike_record alike _ fun _ => rfl
  routeStdio alike := by
    refine alike_attempt alike _ fun _ _ _ => ?_
    dsimp only
    split
    · exact ⟨_, _, _, rfl, rfl, rfl⟩
    · exact ⟨_, _, _, rfl, rfl, rfl⟩
  finishRequestStartup alike := alike_record alike _ fun _ => rfl
  execute script alike := by
    obtain ⟨exitStatus, calls, rfl⟩ := exists_of_core alike
    simp only [Interpreter.execute]
    split
    · rfl
    · simp only [run]
      split
      · split <;> rfl
      · rfl

theorem forgetful (actions : List Action) (refusals : Refusals)
    (whole : ∀ action ∈ actions, action ≠ .crash) (ini : Table String) (host : Surroundings) :
    Forgetful ini (fun _ => True) host (Follows actions refusals) Alike (fun _ => ()) where
  rules := follows_phaseInvariant actions refusals whole ini
  cut _ _ _ follows := follows.shutdown
  congruence := alike_congruence host
  unstarted left right := (left.core_eq rfl).trans (right.core_eq rfl).symm
  declared info left right _ :=
    ((left.record _).core_eq rfl).trans ((right.record _).core_eq rfl).symm
  kept_startup _ _ := rfl
  kept_requestShutdown _ := rfl
  restarts idle unstarted := by
    have granted := idle.granted rfl
    simp only [Interpreter.startup, attempt_of_whole unstarted.whole, unstarted.refuses, granted]
    rfl

theorem follows_new (actions : List Action) (refusals : Refusals) (directory : Directory) :
    Follows actions refusals directory .unstarted (Recorder.new actions refusals) :=
  ⟨rfl, rfl, rfl, rfl, fun _ => rfl, by simp [Phase.flags]⟩

end

end Recorder

theorem Surroundings.Agree.refl (host : Surroundings) : host.Agree host :=
  ⟨rfl, fun left right _ => by
    obtain rfl : _ = _ := Entry.file.inj (Option.some.inj (left.symm.trans right))
    rfl⟩

namespace Bridge

variable {σ : Type} [Interpreter σ]

/-- Two bridges give the same bytes for every request and for every command. -/
structure AnswersAlike (host : Surroundings) (a b : Bridge σ) : Prop where
  runOnce (request : Request) (script : String) :
    (a.runOnce host request script).1 = (b.runOnce host request script).1
  runCommand (line publicDir : String) :
    (a.runCommand host line publicDir).1 = (b.runCommand host line publicDir).1

/-- Two bridges over an interpreter that have the same environment in the end answer alike, whatever
    both were asked before, if changes of files show in the times of the files. -/
def NeverLeaks (config : Config) (interpreter : σ) : Prop :=
  ∀ (env env' : Environment) (history history' : List (Surroundings × Operation))
    (host : Surroundings), (∀ entry ∈ history ++ history', entry.1.Agree host) →
    let a := (Bridge.new config interpreter env).performAll history
    let b := (Bridge.new config interpreter env').performAll history'
    a.env = b.env → AnswersAlike host a b

/-- Two bridges over an interpreter that have the same environment in the end answer every command
    alike, and every request as well if their interpreters keep the same. -/
def LeaksOnly {κ : Type} (kept : σ → κ) (config : Config) (interpreter : σ) : Prop :=
  ∀ (env env' : Environment) (history history' : List (Surroundings × Operation))
    (host : Surroundings), (∀ entry ∈ history ++ history', entry.1.Agree host) →
    let a := (Bridge.new config interpreter env).performAll history
    let b := (Bridge.new config interpreter env').performAll history'
    a.env = b.env →
      (∀ line publicDir,
        (a.runCommand host line publicDir).1 = (b.runCommand host line publicDir).1) ∧
      (kept a.interpreter = kept b.interpreter → AnswersAlike host a b)

theorem leaksOnly_of_forgetful {κ : Type} {kept : σ → κ} {config : Config} {interpreter : σ}
    {hosts : Surroundings → Surroundings → Prop}
    {Inv : Surroundings → Directory → Phase → σ → Prop}
    {Sim : Surroundings → Directory → σ → σ → Prop}
    (forgets : ∀ host,
      Forgetful config.interpreter.ini (hosts host) host (Inv host) (Sim host) kept)
    (agree : ∀ host other, other.Agree host → hosts host other)
    (fresh : ∀ host directory, Inv host directory .unstarted interpreter) :
    LeaksOnly kept config interpreter := by
  intro env env' history history' host agrees a b together
  have rests : ∀ (env : Environment) (history : List (Surroundings × Operation)),
      (∀ entry ∈ history, entry.1.Agree host) →
        ((Bridge.new config interpreter env).performAll history).Rests config (Inv host) := by
    intro env history agrees
    exact (rests_new (fresh host _)).performAll (forgets host).rules (forgets host).cut
      fun entry member => agree host _ (agrees entry member)
  have left := rests env history fun entry member => agrees entry (List.mem_append_left _ member)
  have right := rests env' history' fun entry member =>
    agrees entry (List.mem_append_right _ member)
  have commands := left.runCommand_eq (forgets host) right together
  exact ⟨commands, fun same =>
    ⟨left.runOnce_eq (forgets host) right same together (fresh host _), commands⟩⟩

/-- An engine that is not started keeps no modules. -/
theorem modules_of_unstarted (config : Config) (limits : Script.Limits) (env : Environment)
    (history : List (Surroundings × Operation)) :
    let bridge := (Bridge.new config (Script.Engine.new limits) env).performAll history
    bridge.started = false → bridge.interpreter.modules = [] := by
  intro bridge down
  obtain ⟨⟨phase, -, holds⟩, -⟩ := rests_shaped config limits env history
  have flags := holds.flags (Script.Engine.shaped_phaseInvariant limits config.interpreter.ini)
  have unstarted : phase.flags.1 = false := (congrArg Prod.fst flags).symm.trans down
  cases phase with
  | unstarted => exact congrArg Script.Engine.modules holds.interpreter.shape.1
  | idle purpose => exact absurd unstarted (by simp [Phase.flags])
  | active purpose => exact absurd unstarted (by simp [Phase.flags])

/-- Over the script engine, modules are all that a bridge leaks from one invocation to another, and an
    engine that is not started keeps none. A recorder that never crashes leaks nothing at all. -/
theorem leaksOnly_modules (config : Config) (limits : Script.Limits)
    (actions : List Action) (refusals : Refusals) (whole : ∀ action ∈ actions, action ≠ .crash) :
    LeaksOnly Script.Engine.modules config (Script.Engine.new limits) ∧
      (∀ (env : Environment) (history : List (Surroundings × Operation)),
        let bridge := (Bridge.new config (Script.Engine.new limits) env).performAll history
        bridge.started = false → bridge.interpreter.modules = []) ∧
      NeverLeaks config (Recorder.new actions refusals) := by
  refine ⟨?_, modules_of_unstarted config limits, ?_⟩
  · exact leaksOnly_of_forgetful
      (fun host => Script.Engine.forgetful limits config.interpreter.ini host)
      (fun _ _ agree => agree)
      (fun host => Script.Engine.follows_new limits config.interpreter.ini host)
  · have only := leaksOnly_of_forgetful
      (fun host => Recorder.forgetful actions refusals whole config.interpreter.ini host)
      (fun _ _ _ => trivial) (fun _ => Recorder.follows_new actions refusals)
    intro env env' history history' host agrees a b together
    exact (only env env' history history' host agrees together).2 rfl

/-- A request that was seeded with other cookies and abandoned does not show. -/
theorem answersAlike_after_other_cookies :
    let host : Surroundings := ⟨.empty, [], 0⟩
    let request : Request := ⟨"GET", "/", none, none⟩
    let a := (Bridge.new .standard (Script.Engine.new .standard) (.recording [])).performAll
      [(host, .setVariable "HTTP_COOKIE" "sid=1" true), (host, .setRequestInfo request),
        (host, .setVariable "HTTP_COOKIE" "sid=2" true)]
    let b := (Bridge.new .standard (Script.Engine.new .standard) (.recording [])).performAll
      [(host, .setVariable "HTTP_COOKIE" "sid=2" true), (host, .setRequestInfo request)]
    (∀ action ∈ [Action.show "_COOKIE" "sid"], action ≠ .crash) ∧ a.env = b.env ∧
      a.interpreter.modules = b.interpreter.modules ∧ AnswersAlike host a b := by
  intro host request a b
  have whole : ∀ action ∈ [Action.show "_COOKIE" "sid"], action ≠ .crash := by simp
  have together : a.env = b.env := by decide +kernel
  have empty : a.interpreter.modules.isEmpty = true ∧ b.interpreter.modules.isEmpty = true := by
    decide +kernel
  have same : a.interpreter.modules = b.interpreter.modules := by
    rw [List.isEmpty_iff.mp empty.1, List.isEmpty_iff.mp empty.2]
  obtain ⟨leaks, -, -⟩ := leaksOnly_modules .standard .standard _ ⟨false, false, false⟩ whole
  obtain ⟨-, alike⟩ := leaks _ _ _ _ host (by simp [host, Surroundings.Agree.refl]) together
  exact ⟨whole, together, same, alike same⟩

/-- A module that exports the body of the request that it was imported for first: the next request
    finds that body in the place of its own. -/
theorem not_neverLeaks_of_module :
    let exports : File := ⟨utf8 "export const b = request_body();", 0⟩
    let shows : File := ⟨utf8 "import \"m\" as m; echo(m::b);", 0⟩
    let host : Surroundings :=
      ⟨(FileTree.empty.write ["m.rhai"] exports).write ["s.rhai"] shows, [], 0⟩
    let request (body : String) : Request := ⟨"POST", "/", some "text/plain", some (utf8 body)⟩
    let bridge := Bridge.new .standard (Script.Engine.new .standard) (.recording [])
    let a := bridge.performAll [(host, .runOnce (request "1") "s.rhai")]
    let b := bridge.performAll [(host, .runOnce (request "3") "s.rhai")]
    a.env = b.env ∧
      (a.runOnce host (request "2") "s.rhai").1 = utf8 "HTTP/1.1 200 OK\r\n\r\n1" ∧
      (b.runOnce host (request "2") "s.rhai").1 = utf8 "HTTP/1.1 200 OK\r\n\r\n3" ∧
      ¬ NeverLeaks .standard (Script.Engine.new .standard) := by
  intro exports shows host request bridge a b
  have together : a.env = b.env := by decide +kernel
  have first : (a.runOnce host (request "2") "s.rhai").1 =
      utf8 "HTTP/1.1 200 OK\r\n\r\n1" := by decide +kernel
  have second : (b.runOnce host (request "2") "s.rhai").1 =
      utf8 "HTTP/1.1 200 OK\r\n\r\n3" := by decide +kernel
  refine ⟨together, first, second, fun never => ?_⟩
  have alike := never (.recording []) (.recording []) _ _ host
    (by simp [host, Surroundings.Agree.refl]) together
  have same := alike.runOnce (request "2") "s.rhai"
  rw [first, second] at same
  exact absurd same (by decide +kernel)

end Bridge

end ScriptBridge
