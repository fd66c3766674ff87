import ScriptBridge.Proofs.Capture.Collecting
import ScriptBridge.Proofs.Script.Emissions

/-! # What deferral drops

A script cannot tell what becomes of its writes. With a limit and without one it writes the same, and
under the limit the outlet holds what its two allowances admit: one counts the texts, the other one
the header lines, and each takes from its own what still fits.
-/

namespace ScriptBridge

namespace Script

namespace Outlet

/-- Writes an emission. -/
def accept (outlet : Outlet) : Emission → Outlet
  | .body data => outlet.output data
  | .header line => outlet.header line
  | .stdout data => outlet.pushOutput (.stdout data) data.length

/-- Writes emissions in order. -/
def acceptAll (outlet : Outlet) (emissions : List Emission) : Outlet :=
  emissions.foldl accept outlet

def unlimited (outlet : Outlet) : Outlet :=
  { outlet with limit := 0 }

variable {outlet next : Outlet}

/-- What an outlet becomes by writes: it holds some of them, in order, and leads where it led. -/
structure Takes (outlet : Outlet) (emissions : List Emission) (next : Outlet) : Prop where
  limit : next.limit = outlet.limit
  exposed : next.exposed = outlet.exposed
  routed : next.routed = outlet.routed
  held : ∃ kept : List Emission, kept.Sublist emissions ∧
    next.emissions = outlet.emissions ++ kept

theorem takes_drop (outlet : Outlet) (emissions : List Emission) (size : Nat) :
    outlet.Takes emissions (outlet.drop size) :=
  ⟨rfl, rfl, rfl, [], List.nil_sublist _, (List.append_nil _).symm⟩

theorem takes_pushOutput (outlet : Outlet) (emission : Emission) (size : Nat) :
    outlet.Takes [emission] (outlet.pushOutput emission size) := by
  simp only [pushOutput]
  split
  · exact ⟨rfl, rfl, rfl, _, List.Sublist.refl _, List.reverse_cons⟩
  · exact takes_drop outlet _ size

theorem takes_accept (outlet : Outlet) (emission : Emission) :
    outlet.Takes [emission] (outlet.accept emission) := by
  cases emission with
  | body data => exact takes_pushOutput outlet _ _
  | stdout data => exact takes_pushOutput outlet _ _
  | header line =>
      simp only [accept, header]
      split
      · exact ⟨rfl, rfl, rfl, _, List.Sublist.refl _, List.reverse_cons⟩
      · exact takes_drop outlet _ _

theorem takes_acceptAll (outlet : Outlet) (emissions : List Emission) :
    outlet.Takes emissions (outlet.acceptAll emissions) := by
  induction emissions generalizing outlet with
  | nil => exact ⟨rfl, rfl, rfl, [], List.Sublist.refl _, (List.append_nil _).symm⟩
  | cons emission emissions ih =>
      obtain ⟨limit, exposed, routed, first, some_first, accepted⟩ := outlet.takes_accept emission
      obtain ⟨limit', exposed', routed', rest, some_rest, held⟩ := ih (outlet.accept emission)
      refine ⟨limit'.trans limit, exposed'.trans exposed, routed'.trans routed, first ++ rest,
        some_first.append some_rest, ?_⟩
      rw [accepted, List.append_assoc] at held
      exact held

/-- Two outlets to which the same was written, one of them without a limit. -/
def SameWritten (start outlet free : Outlet) : Prop :=
  ∃ emissions, outlet = start.acceptAll emissions ∧ free = start.unlimited.acceptAll emissions

theorem SameWritten.accept {start free : Outlet} (same : SameWritten start outlet free)
    (emission : Emission) : SameWritten start (outlet.accept emission) (free.accept emission) := by
  obtain ⟨emissions, rfl, rfl⟩ := same
  refine ⟨emissions ++ [emission], ?_, ?_⟩ <;> rw [acceptAll, acceptAll, List.foldl_append] <;> rfl

theorem respected_sameWritten (start : Outlet) : Respected (SameWritten start) where
  exposed := by
    rintro _ _ ⟨emissions, rfl, rfl⟩
    rw [(takes_acceptAll _ _).exposed, (takes_acceptAll _ _).exposed, unlimited]
  routed := by
    rintro _ _ ⟨emissions, rfl, rfl⟩
    rw [(takes_acceptAll _ _).routed, (takes_acceptAll _ _).routed, unlimited]
  output data same := same.accept (.body data)
  header _ same := same.accept (.header _)
  stdout data same := same.accept (.stdout data)

theorem emissions_acceptAll_of_free (free : outlet.limit = 0) (emissions : List Emission) :
    (outlet.acceptAll emissions).emissions = outlet.emissions ++ emissions := by
  induction emissions generalizing outlet with
  | nil => exact (List.append_nil _).symm
  | cons emission emissions ih =>
      have allowed : ∀ total, outlet.allows total = true := by simp [allows, free]
      have first : (outlet.accept emission).emissions = outlet.emissions ++ [emission] := by
        cases emission <;>
          simp only [accept, output, header, pushOutput, allowed, if_true, Outlet.emissions,
            List.reverse_cons]
      have rest := ih ((outlet.takes_accept emission).limit.trans free)
      rw [first, List.append_assoc] at rest
      exact rest

/-- An allowance counts the bytes of some emissions and admits them as long as they fit. -/
def Meters (counts : Emission → List Bytes) (counted : Outlet → Nat) : Prop :=
  ∀ (outlet : Outlet) (emission : Emission), outlet.limit ≠ 0 →
    counted outlet ≤ outlet.limit.toNat →
      let taken := admitted (outlet.limit.toNat - counted outlet) (counts emission)
      (outlet.accept emission).emissions.flatMap counts =
          outlet.emissions.flatMap counts ++ taken ∧
        counted (outlet.accept emission) = counted outlet + taken.flatten.length

theorem Meters.acceptAll {counts : Emission → List Bytes} {counted : Outlet → Nat}
    (meters : Meters counts counted) (limited : outlet.limit ≠ 0)
    (within : counted outlet ≤ outlet.limit.toNat) (emissions : List Emission) :
    (outlet.acceptAll emissions).emissions.flatMap counts = outlet.emissions.flatMap counts ++
      admitted (outlet.limit.toNat - counted outlet) (emissions.flatMap counts) := by
  induction emissions generalizing outlet with
  | nil => exact (List.append_nil _).symm
  | cons emission emissions ih =>
      have limit := (outlet.takes_accept emission).limit
      obtain ⟨held, total⟩ := meters outlet emission limited within
      have below := length_admitted_le (outlet.limit.toNat - counted outlet) (counts emission)
      have rest := ih (by rwa [limit]) (by rw [limit]; omega)
      rw [limit, held, total, ← Nat.sub_sub, List.append_assoc, ← admitted_append] at rest
      exact rest

theorem allows_eq_true_iff {total : Nat} :
    outlet.allows total = true ↔ outlet.limit = 0 ∨ total ≤ outlet.limit.toNat := by
  simp [allows]

theorem allows_iff (limited : outlet.limit ≠ 0) {count size : Nat}
    (within : count ≤ outlet.limit.toNat) :
    outlet.allows (count + size) = true ↔ size ≤ outlet.limit.toNat - count := by
  rw [allows_eq_true_iff, or_iff_right limited]
  omega

theorem admitted_singleton (room : Nat) (bytes : Bytes) :
    admitted room [bytes] = if bytes.length ≤ room then [bytes] else [] :=
  rfl

theorem meters_written : Meters Emission.written fun outlet => outlet.pending.output := by
  intro outlet emission limited within
  have text : ∀ (emission : Emission) (data : Bytes), emission.written = [data] →
      let taken := admitted (outlet.limit.toNat - outlet.pending.output) [data]
      (outlet.pushOutput emission data.length).emissions.flatMap Emission.written =
          outlet.emissions.flatMap Emission.written ++ taken ∧
        (outlet.pushOutput emission data.length).pending.output =
          outlet.pending.output + taken.flatten.length := by
    intro emission data writes
    simp only [pushOutput, allows_iff limited within, admitted_singleton, emissions]
    split <;> simp [drop, writes, -Emission.written]
  cases emission with
  | body data => exact text (.body data) data rfl
  | stdout data => exact text (.stdout data) data rfl
  | header line =>
      simp only [accept, header, Emission.written, admitted, emissions]
      split <;> simp [drop]

theorem length_entry (line : String) : (HeaderBlock.entry line).length = headerSize line := by
  simp [HeaderBlock.entry, headerSize, lineEnd]

theorem meters_lines :
    Meters (fun emission => emission.lines.map HeaderBlock.entry)
      fun outlet => outlet.pending.headers := by
  intro outlet emission limited within
  have text : ∀ (emission : Emission) (size : Nat), emission.lines = [] →
      (outlet.pushOutput emission size).emissions.flatMap
          (fun emission => emission.lines.map HeaderBlock.entry) =
        outlet.emissions.flatMap (fun emission => emission.lines.map HeaderBlock.entry) ++ [] ∧
      (outlet.pushOutput emission size).pending.headers = outlet.pending.headers + 0 := by
    intro emission size silent
    simp only [pushOutput, emissions]
    split <;> simp [drop, silent]
  cases emission with
  | body data => exact text (.body data) data.length rfl
  | stdout data => exact text (.stdout data) data.length rfl
  | header line =>
      simp only [accept, header, allows_iff limited within, Emission.lines, List.map_cons,
        List.map_nil, admitted_singleton, length_entry, emissions]
      split <;> simp [drop, length_entry]

theorem emissions_of_empty (empty : outlet.pending = .empty) : outlet.emissions = [] := by
  rw [Outlet.emissions, empty]
  rfl

theorem acceptAll_sublist (empty : outlet.pending = .empty) (emissions : List Emission) :
    (outlet.acceptAll emissions).emissions.Sublist emissions := by
  obtain ⟨kept, some_kept, held⟩ := (outlet.takes_acceptAll emissions).held
  rw [held, emissions_of_empty empty]
  exact some_kept

theorem writes_acceptAll (limited : outlet.limit ≠ 0) (empty : outlet.pending = .empty)
    (emissions : List Emission) :
    writes (outlet.acceptAll emissions).emissions =
      admitted outlet.limit.toNat (writes emissions) := by
  have none_yet : outlet.pending.output = 0 := by rw [empty]; rfl
  have held := meters_written.acceptAll limited (by rw [none_yet]; exact Nat.zero_le _) emissions
  rw [none_yet, emissions_of_empty empty] at held
  exact held

theorem entries_acceptAll (limited : outlet.limit ≠ 0) (empty : outlet.pending = .empty)
    (emissions : List Emission) :
    (headerLines (outlet.acceptAll emissions).emissions).map HeaderBlock.entry =
      admitted outlet.limit.toNat ((headerLines emissions).map HeaderBlock.entry) := by
  have none_yet : outlet.pending.headers = 0 := by rw [empty]; rfl
  have held := meters_lines.acceptAll limited (by rw [none_yet]; exact Nat.zero_le _) emissions
  rw [none_yet, emissions_of_empty empty] at held
  simp only [headerLines, List.map_flatMap]
  exact held

end Outlet

namespace Engine

/-- An engine that drops nothing that its scripts write. -/
def unlimited (engine : Engine) : Engine :=
  { engine with outlet := engine.outlet.unlimited }

variable {engine : Engine}

theorem load_unlimited (host : Surroundings) (path : String) (engine : Engine) :
    engine.unlimited.load host path =
      ((engine.load host path).1, (engine.load host path).2.unlimited) := by
  have compiles : ∀ misses, { engine.unlimited with misses }.compile host path =
      { engine with misses }.compile host path := fun _ => rfl
  simp only [load, compiles]
  cases host.files.modified host.workingDir path with
  | error fault => rfl
  | ok modified =>
      have kept : engine.unlimited.cache = engine.cache := rfl
      simp only [kept]
      cases (engine.cache.lookup (Path.components path)).filter (·.modified == modified) with
      | some compiled => rfl
      | none =>
          simp only [unlimited]
          cases compile host path { engine with misses := engine.misses + 1 } <;> rfl

/-- Executions of a script with and without a limit: the same is written, the same fault ends it, and
    the same report stands behind what is held back. -/
structure Defers (outlet : Outlet) (execution free : Execution) : Prop where
  outcome : execution.outcome = free.outcome
  emissions : ∃ written report,
    execution.emissions = (outlet.acceptAll written).emissions ++ report ∧
    free.emissions = written ++ report ∧ (∀ emission ∈ report, emission.lines = []) ∧
      (free.outcome = .ok () → report = [])

theorem defers_conclude (outlet : Outlet) (written : List Emission)
    (outcome : Except ScriptFault Unit) (engine other : Engine)
    (same : other.settings = engine.settings) :
    Defers outlet (engine.conclude (outlet.acceptAll written).emissions outcome).1
      (other.conclude written outcome).1 := by
  cases outcome with
  | ok => exact ⟨rfl, written, [], (List.append_nil _).symm, (List.append_nil _).symm, by simp,
      fun _ => rfl⟩
  | error fault =>
      have reports : other.report fault = engine.report fault := by rw [report, report, same]
      refine ⟨rfl, written, engine.report fault, rfl, congrArg _ reports, ?_, ?_⟩
      · intro emission member
        simp only [report] at member
        split at member
        · rw [List.mem_singleton.mp member]
          rfl
        · exact absurd member List.not_mem_nil
      · intro ok
        simp [conclude] at ok

/-- A program writes the same to an outlet that held nothing and to one without a limit, and the second
    one holds all of it. -/
theorem exists_written (host : Surroundings) (occasion : Occasion) (allowance : Allowance)
    (scope : Scope) (modules : List (List String × Module)) (program : Program) {outlet : Outlet}
    (empty : outlet.pending = .empty) :
    let frame : Frame := .ofScript host occasion allowance
    ∃ (result : Except RunFault Unit) (machine : Machine) (written : List Emission),
      program.run frame scope modules outlet =
          (result, { machine with outlet := outlet.acceptAll written }) ∧
        program.run frame scope modules outlet.unlimited =
          (result, { machine with outlet := outlet.unlimited.acceptAll written }) ∧
        (outlet.unlimited.acceptAll written).emissions = written := by
  have same : outlet.SameWritten outlet outlet.unlimited := ⟨[], rfl, rfl⟩
  have functions := Function.functionsRespect (Outlet.respected_sameWritten outlet)
  obtain ⟨result, after, _, ran, ran', free, rfl, written, held, rfl⟩ :=
    run_respects functions (ofScript_respects functions host occasion allowance) scope modules
      program same
  have start : outlet.unlimited.emissions = [] := Outlet.emissions_of_empty empty
  refine ⟨result, after, written, ?_, ran', ?_⟩
  · rw [ran, ← held]
  · rw [Outlet.emissions_acceptAll_of_free rfl, start, List.nil_append]

theorem runProgram_defers (host : Surroundings) (program : Program)
    (empty : engine.outlet.pending = .empty) :
    Defers engine.outlet (engine.runProgram host program).1
      (engine.unlimited.runProgram host program).1 := by
  obtain ⟨result, machine, written, ran, ran', held⟩ := exists_written host
    (engine.occasion host) engine.limits.allowance engine.scope engine.modules program empty
  have free : engine.unlimited.runProgram host program =
      { engine.unlimited with
        outlet := engine.outlet.unlimited.cleared
        modules := machine.modules }.conclude written
          (result.mapError RunFault.toScriptFault) := by
    rw [runProgram]
    simp only [show engine.unlimited.scope = engine.scope from rfl,
      show engine.unlimited.frame host = .ofScript host (engine.occasion host)
        engine.limits.allowance from rfl,
      show engine.unlimited.modules = engine.modules from rfl,
      show engine.unlimited.outlet = engine.outlet.unlimited from rfl, ran', held]
  rw [free, runProgram, frame, ran]
  exact defers_conclude _ _ _ _ _ rfl

/-- Executing a script defers what it writes, and drops what the allowances do not admit. -/
theorem execute_defers (host : Surroundings) (path : String)
    (empty : engine.outlet.pending = .empty) :
    Defers engine.outlet (engine.execute host path).1 (engine.unlimited.execute host path).1 := by
  have nothing : (engine.outlet.acceptAll []).emissions = [] := Outlet.emissions_of_empty empty
  have idle : ∀ fault : ScriptFault,
      Defers engine.outlet ⟨[], .error fault⟩ ⟨[], .error fault⟩ := fun fault =>
    ⟨rfl, [], [], by rw [nothing, List.append_nil], rfl, by simp, fun _ => rfl⟩
  simp only [execute, load_unlimited, show engine.unlimited.started = engine.started from rfl,
    show engine.unlimited.active = engine.active from rfl]
  split
  · exact idle .notStarted
  · split
    · exact idle .noActiveRequest
    · rcases called : engine.load host path with ⟨result, next⟩
      have outlet := outlet_of_load called
      cases result with
      | error fault =>
          have failed := defers_conclude engine.outlet [] (.error fault) next next.unlimited rfl
          rw [nothing] at failed
          exact failed
      | ok program =>
          have still : next.outlet.pending = .empty := by rw [outlet, empty]
          have ran := runProgram_defers host program still
          rw [outlet] at ran
          exact ran

end Engine

end Script

end ScriptBridge
