import ScriptBridge.Proofs.Http.Framing
import ScriptBridge.Proofs.Script.Forgetting
import ScriptBridge.Proofs.Script.Running

/-! # What scripts emit

Functions write to the outlet in three ways only. A header line gets there by two of them, and each
sees to it that it is one line: a line that a script makes up is refused if it holds a line end, and
a status line has none.
-/

namespace ScriptBridge

theorem isLine_append_iff (s t : String) : IsLine (s ++ t) ↔ IsLine s ∧ IsLine t := by
  simp only [IsLine, String.toList_append, List.mem_append, not_or]
  constructor
  · rintro ⟨⟨sr, tr⟩, sn, tn⟩
    exact ⟨⟨sr, sn⟩, tr, tn⟩
  · rintro ⟨⟨sr, sn⟩, tr, tn⟩
    exact ⟨⟨sr, tr⟩, sn, tn⟩

theorem isLine_toString (n : Nat) : IsLine (toString n) := by
  have digits : ∀ c ∈ (toString n).toList, c.isDigit = true := by
    intro c member
    rw [Nat.toString_eq_repr, Nat.toList_repr] at member
    exact Nat.isDigit_of_mem_toDigits (by decide) (by decide) member
  exact ⟨fun member => absurd (digits _ member) (by decide),
    fun member => absurd (digits _ member) (by decide)⟩

theorem isLine_ofList {cs : List Char} (free : '\r' ∉ cs ∧ '\n' ∉ cs) :
    IsLine (String.ofList cs) := by
  simpa [IsLine] using free

theorem isLine_phrase {code : Nat} {phrase : String} (known : Status.phrase? code = some phrase) :
    IsLine phrase := by
  have all : ∀ entry ∈ Status.phrases, IsLine entry.2 := by
    simp only [Status.phrases, List.forall_mem_cons]
    repeat refine ⟨isLine_ofList (by decide), ?_⟩
    simp
  obtain ⟨before, behind, eq, -⟩ := List.lookup_eq_some_iff.mp known
  refine all (code, phrase) ?_
  rw [eq]
  exact List.mem_append_right _ List.mem_cons_self

theorem isLine_statusLine (code : Nat) : IsLine (Status.line code) := by
  have version : IsLine "HTTP/1.1 " := by decide
  have blank : IsLine " " := by decide
  simp only [Status.line]
  split
  · next phrase known =>
      simp only [isLine_append_iff]
      exact ⟨⟨⟨version, isLine_toString code⟩, blank⟩, isLine_phrase known⟩
  · exact (isLine_append_iff _ _).mpr ⟨version, isLine_toString code⟩

/-- A header line that is emitted is one line. -/
def Emission.IsSingle : Emission → Prop
  | .header line => IsLine line
  | _ => True

namespace Script

/-- A relation of outlets that agree on where handles lead, and that the three ways to write keep. -/
structure Outlet.Respected (R : Outlet → Outlet → Prop) : Prop where
  exposed {outlet other : Outlet} : R outlet other → outlet.exposed = other.exposed
  routed {outlet other : Outlet} : R outlet other → outlet.routed = other.routed
  output {outlet other : Outlet} (data : Bytes) :
    R outlet other → R (outlet.output data) (other.output data)
  header {outlet other : Outlet} {line : String} :
    IsLine line → R outlet other → R (outlet.header line) (other.header line)
  stdout {outlet other : Outlet} (data : Bytes) : R outlet other →
    R (outlet.pushOutput (.stdout data) data.length) (other.pushOutput (.stdout data) data.length)

namespace Function

variable {R : Outlet → Outlet → Prop} {outlet other : Outlet}

theorem header_respects (respected : Outlet.Respected R) (line : String)
    (related : R outlet other) : InStep R (header line outlet) (header line other) := by
  simp only [header]
  split
  · exact ⟨_, _, _, rfl, rfl, related⟩
  · next single =>
      refine ⟨_, _, _, rfl, rfl, respected.header ?_ related⟩
      simp only [List.any_eq_true, Bool.or_eq_true, beq_iff_eq, not_exists, not_and, not_or]
        at single
      exact ⟨fun member => (single _ member).1 rfl, fun member => (single _ member).2 rfl⟩

theorem status_respects (respected : Outlet.Respected R) (code : Int)
    (related : R outlet other) : InStep R (status code outlet) (status code other) := by
  simp only [status]
  split
  · exact ⟨_, _, _, rfl, rfl, respected.header (isLine_statusLine _) related⟩
  · exact ⟨_, _, _, rfl, rfl, related⟩

theorem write_respects (respected : Outlet.Respected R) (handle : String) (data : Bytes)
    (related : R outlet other) : InStep R (write handle data outlet) (write handle data other) := by
  simp only [write, Outlet.write?, ← respected.exposed related, ← respected.routed related]
  by_cases routed : outlet.routed = true
  · simp only [if_pos routed]
    exact ⟨_, _, _, rfl, rfl, respected.output data related⟩
  · simp only [if_neg routed]
    by_cases stdout : handle = Outlet.stdoutHandle ∧ outlet.exposed = true
    · simp only [if_pos stdout]
      exact ⟨_, _, _, rfl, rfl, respected.stdout data related⟩
    · simp only [if_neg stdout]
      by_cases stderr : handle = Outlet.stderrHandle
      · simp only [if_pos stderr]
        exact ⟨_, _, _, rfl, rfl, related⟩
      · simp only [if_neg stderr]
        exact ⟨_, _, _, rfl, rfl, related⟩

theorem printLine_respects (respected : Outlet.Respected R) (allowance : Allowance)
    (datum : Datum) (related : R outlet other) :
    InStep R (printLine allowance datum outlet) (printLine allowance datum other) := by
  simp only [printLine]
  split
  · exact ⟨_, _, _, rfl, rfl, respected.output _ related⟩
  · exact ⟨_, _, _, rfl, rfl, related⟩
  · exact ⟨_, _, _, rfl, rfl, related⟩

theorem emit?_respects (respected : Outlet.Respected R) (allowance : Allowance) (name : String)
    (args : List Datum) (related : R outlet other) :
    Option.Rel (InStep R) (emit? allowance outlet name args) (emit? allowance other name args) := by
  simp only [emit?]
  split
  · exact .some ⟨_, _, _, rfl, rfl, respected.output _ related⟩
  · exact .some ⟨_, _, _, rfl, rfl, respected.output _ related⟩
  · exact .some (printLine_respects respected allowance _ related)
  · exact .some (header_respects respected _ related)
  · exact .some (status_respects respected _ related)
  · exact .some (write_respects respected _ _ related)
  · exact .none

/-- No function tells outlets apart that the three ways to write do not tell apart. -/
theorem functionsRespect (respected : Outlet.Respected R) : FunctionsRespect R := by
  intro occasion allowance name args outlet other related
  have emitted := emit?_respects respected allowance name args related
  simp only [apply, result?]
  rcases called : emit? allowance outlet name args with _ | returned <;>
    rcases called' : emit? allowance other name args with _ | returned' <;>
    rw [called, called'] at emitted
  · -- The other functions leave the outlet alone.
    cases answer? occasion allowance name args with
    | none => exact ⟨_, _, _, rfl, rfl, related⟩
    | some result => exact ⟨_, _, _, rfl, rfl, related⟩
  · cases emitted
  · cases emitted
  · obtain ⟨_, _, _, rfl, rfl, related⟩ := Option.rel_some_some.mp emitted
    exact ⟨_, _, _, rfl, rfl, related⟩

end Function

/-- What the three ways to write to an outlet keep. -/
structure Outlet.Closed (P : Outlet → Prop) : Prop where
  output {outlet : Outlet} (data : Bytes) : P outlet → P (outlet.output data)
  header {outlet : Outlet} {line : String} : IsLine line → P outlet → P (outlet.header line)
  stdout {outlet : Outlet} (data : Bytes) :
    P outlet → P (outlet.pushOutput (.stdout data) data.length)

theorem Outlet.Closed.respected {P : Outlet → Prop} (closed : Outlet.Closed P) :
    Outlet.Respected fun outlet other => outlet = other ∧ P outlet where
  exposed related := congrArg Outlet.exposed related.1
  routed related := congrArg Outlet.routed related.1
  output data related := ⟨congrArg (Outlet.output · data) related.1, closed.output data related.2⟩
  header line related := ⟨congrArg (Outlet.header · _) related.1, closed.header line related.2⟩
  stdout data related := ⟨congrArg (Outlet.pushOutput · _ _) related.1, closed.stdout data related.2⟩

theorem run_keeps {P : Outlet → Prop} (closed : Outlet.Closed P) (host : Surroundings)
    (occasion : Occasion) (allowance : Allowance) (scope : Scope)
    (modules : List (List String × Module)) {outlet : Outlet} (program : Program)
    (holds : P outlet) :
    P (program.run (.ofScript host occasion allowance) scope modules outlet).2.outlet := by
  have functions := Function.functionsRespect closed.respected
  obtain ⟨_, after, _, ran, -, -, -, -, kept⟩ :=
    run_respects functions (ofScript_respects functions host occasion allowance) scope modules
      program ⟨rfl, holds⟩
  rw [ran]
  exact kept

namespace Outlet

/-- All header lines that are held back are lines. -/
def HoldsLines (outlet : Outlet) : Prop :=
  ∀ emission ∈ outlet.pending.held, emission.IsSingle

theorem closed_holdsLines : Closed HoldsLines where
  output data holds := by
    simp only [HoldsLines, output, pushOutput]
    split
    · exact List.forall_mem_cons.mpr ⟨trivial, holds⟩
    · exact holds
  header single holds := by
    simp only [HoldsLines, header]
    split
    · exact List.forall_mem_cons.mpr ⟨single, holds⟩
    · exact holds
  stdout data holds := by
    simp only [HoldsLines, pushOutput]
    split
    · exact List.forall_mem_cons.mpr ⟨trivial, holds⟩
    · exact holds

end Outlet

namespace Engine

theorem conclude_isSingle {emissions : List Emission} (outcome : Except ScriptFault Unit)
    (engine : Engine) (single : ∀ emission ∈ emissions, emission.IsSingle) :
    ∀ emission ∈ (engine.conclude emissions outcome).1.emissions, emission.IsSingle := by
  cases outcome with
  | ok => exact single
  | error fault =>
      intro emission member
      rcases List.mem_append.mp member with member | member
      · exact single emission member
      · simp only [report] at member
        split at member
        · obtain rfl := List.mem_singleton.mp member
          trivial
        · exact absurd member List.not_mem_nil

theorem runProgram_isSingle (host : Surroundings) (program : Program) (engine : Engine)
    (empty : engine.outlet.pending.held = []) :
    ∀ emission ∈ (engine.runProgram host program).1.emissions, emission.IsSingle := by
  have start : engine.outlet.HoldsLines := by simp [Outlet.HoldsLines, empty]
  have lines := run_keeps Outlet.closed_holdsLines host (engine.occasion host)
    engine.limits.allowance engine.scope engine.modules program start
  refine conclude_isSingle _ _ fun emission member => lines emission ?_
  exact List.mem_reverse.mp member

/-- Every header line that a script emits is one line. -/
theorem execute_isSingle (host : Surroundings) (path : String) (engine : Engine)
    (empty : engine.outlet.pending.held = []) :
    ∀ emission ∈ (engine.execute host path).1.emissions, emission.IsSingle := by
  simp only [execute]
  split
  · simp
  · split
    · simp
    · split
      · exact conclude_isSingle _ _ (by simp)
      · next next called =>
          refine runProgram_isSingle host _ next ?_
          rw [outlet_of_load called]
          exact empty

end Engine

end Script

end ScriptBridge
