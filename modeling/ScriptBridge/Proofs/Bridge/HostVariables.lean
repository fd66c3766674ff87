import ScriptBridge.Bridge.Operation
import ScriptBridge.Proofs.Bridge.Readiness
import ScriptBridge.Proofs.Worker.Workplace
import ScriptBridge.Recorder

/-! # Variables of the host

A host sets variables, and the headers of requests are exported as variables of the same kind. What
the host has set stays over all exports that have no header of its name. A header of the name takes
the variable over for its request: with the next export it is gone, and it stays away until it is set
again.
-/

namespace ScriptBridge.Bridge

open Environment (lastValue?)

namespace Operation

/-- Whether an operation only writes variables: one of the host, or those of headers. -/
def WritesVariables : Operation → Prop
  | .setVariable _ _ _ | .exportHeaders _ => True
  | _ => False

/-- Whether an operation sets a variable, if only one that is not there. -/
def Sets (name : String) : Operation → Prop
  | .setVariable other value _ => other = name ∧ Environment.isStorable (other, value) = true
  | _ => False

/-- Whether an operation sets a variable, whatever is there. -/
def Overwrites (name : String) : Operation → Prop
  | .setVariable other value overwrite =>
    other = name ∧ Environment.isStorable (other, value) = true ∧ overwrite = true
  | _ => False

/-- Whether an operation exports a header as a variable. -/
def Exports (name : String) : Operation → Prop
  | .exportHeaders headers => name ∈ (headers.filterMap exportable?).map (·.1)
  | _ => False

instance : DecidablePred WritesVariables
  | .setVariable _ _ _ | .exportHeaders _ => isTrue trivial
  | .warmUp | .runOnce _ _ | .setRequestInfo _ | .executeScript _ | .runCommand _ _ | .shutdown =>
    isFalse id

instance (name : String) : DecidablePred (Sets name)
  | .setVariable _ _ _ => inferInstanceAs (Decidable (_ ∧ _))
  | .warmUp | .runOnce _ _ | .setRequestInfo _ | .executeScript _ | .runCommand _ _
  | .exportHeaders _ | .shutdown => isFalse id

instance (name : String) : DecidablePred (Overwrites name)
  | .setVariable _ _ _ => inferInstanceAs (Decidable (_ ∧ _))
  | .warmUp | .runOnce _ _ | .setRequestInfo _ | .executeScript _ | .runCommand _ _
  | .exportHeaders _ | .shutdown => isFalse id

instance (name : String) : DecidablePred (Exports name)
  | .exportHeaders _ => inferInstanceAs (Decidable (_ ∈ _))
  | .warmUp | .runOnce _ _ | .setRequestInfo _ | .executeScript _ | .runCommand _ _
  | .setVariable _ _ _ | .shutdown => isFalse id

end Operation

variable {σ : Type} {bridge : Bridge σ} {name value : String}

theorem get?_setEnvironmentVariable (bridge : Bridge σ) (other text : String) (overwrite : Bool)
    (name : String) :
    (bridge.setEnvironmentVariable other text overwrite).2.env.get? name =
      if other = name ∧ Environment.isStorable (other, text) = true ∧
        (overwrite = true ∨ bridge.env.get? name = none)
      then some text else bridge.env.get? name := by
  simp only [setEnvironmentVariable]
  by_cases storable : Environment.isStorable (other, text) = true
  · by_cases same : other = name
    · subst same
      cases held : bridge.env.get? other <;> cases overwrite <;>
        simp [storable, held, Environment.get?_set]
    · cases bridge.env.get? other <;> cases overwrite <;>
        simp [storable, same, Environment.get?_set]
  · simp [storable]

theorem headerExports_setEnvironmentVariable (bridge : Bridge σ) (other text : String)
    (overwrite : Bool) :
    (bridge.setEnvironmentVariable other text overwrite).2.headerExports =
      bridge.headerExports := by
  simp only [setEnvironmentVariable]
  split
  · split <;> rfl
  · rfl

theorem setEnvironmentVariable_accepted_iff (bridge : Bridge σ) (overwrite : Bool) :
    (bridge.setEnvironmentVariable name value overwrite).1 = .accepted ↔
      Environment.isStorable (name, value) = true := by
  simp only [setEnvironmentVariable]
  split
  · next storable =>
      split <;> simp [storable]
  · next other => simp [other]

/-- The host has a value in a variable that no header of the last request was exported as. -/
structure Owned (bridge : Bridge σ) (name value : String) : Prop where
  held : bridge.env.get? name = some value
  free : name ∉ bridge.headerExports

/-- A variable is there for the last request at most: a header of it was exported as the variable, or
    there is none. -/
def Lent (bridge : Bridge σ) (name : String) : Prop :=
  name ∈ bridge.headerExports ∨ bridge.env.get? name = none

theorem owned_setEnvironmentVariable
    (accepted : (bridge.setEnvironmentVariable name value true).1 = .accepted)
    (free : name ∉ bridge.headerExports) :
    (bridge.setEnvironmentVariable name value true).2.Owned name value where
  held := by
    have storable := (setEnvironmentVariable_accepted_iff bridge true).mp accepted
    simp [get?_setEnvironmentVariable, storable]
  free := by rwa [headerExports_setEnvironmentVariable]

theorem Owned.exportRequestHeaders (owned : bridge.Owned name value)
    {headers : List (String × String)} (silent : ¬(Operation.exportHeaders headers).Exports name) :
    (bridge.exportRequestHeaders headers).Owned name value where
  held := by
    rw [bridge.get?_exportRequestHeaders headers name,
      Environment.lastValue?_eq_none_iff.mpr silent, if_neg owned.free, owned.held]
    rfl
  free := silent

theorem Lent.get?_exportRequestHeaders (lent : bridge.Lent name) {headers : List (String × String)}
    (silent : ¬(Operation.exportHeaders headers).Exports name) :
    (bridge.exportRequestHeaders headers).env.get? name = none := by
  rw [bridge.get?_exportRequestHeaders headers name,
    Environment.lastValue?_eq_none_iff.mpr silent, Option.none_or]
  rcases lent with exported | absent
  · rw [if_pos exported]
  · simp [absent]

variable [Interpreter σ] {operation : Operation}

/-- What the host has in a variable stays, unless the host sets it or a header is exported as it. -/
theorem Owned.perform (owned : bridge.Owned name value) (host : Surroundings)
    (writes : operation.WritesVariables) (kept : ¬operation.Overwrites name)
    (silent : ¬operation.Exports name) :
    (bridge.perform host operation).2.Owned name value := by
  cases operation with
  | setVariable other text overwrite =>
      refine ⟨?_, ?_⟩
      · refine (get?_setEnvironmentVariable bridge other text overwrite name).trans ?_
        rw [if_neg, owned.held]
        rintro ⟨same, storable, set | absent⟩
        · exact kept ⟨same, storable, set⟩
        · rw [owned.held] at absent
          cases absent
      · have same := headerExports_setEnvironmentVariable bridge other text overwrite
        exact fun member => owned.free (same ▸ member)
  | exportHeaders headers => exact owned.exportRequestHeaders silent
  | _ => exact writes.elim

theorem lent_of_exports (host : Surroundings) (exported : operation.Exports name) :
    (bridge.perform host operation).2.Lent name := by
  cases operation with
  | exportHeaders headers => exact .inl exported
  | _ => exact exported.elim

/-- What the headers of a request have taken over is not the host's again before the host sets it. -/
theorem Lent.perform (lent : bridge.Lent name) (host : Surroundings)
    (writes : operation.WritesVariables) (unset : ¬operation.Sets name) :
    (bridge.perform host operation).2.Lent name := by
  by_cases exported : operation.Exports name
  · exact lent_of_exports host exported
  · cases operation with
    | setVariable other text overwrite =>
        have exports := headerExports_setEnvironmentVariable bridge other text overwrite
        have value := get?_setEnvironmentVariable bridge other text overwrite name
        rw [if_neg fun set => unset ⟨set.1, set.2.1⟩] at value
        rcases lent with member | absent
        · exact .inl (exports ▸ member)
        · exact .inr (value.trans absent)
    | exportHeaders headers => exact .inr (lent.get?_exportRequestHeaders exported)
    | _ => exact writes.elim

theorem Owned.performAll {history : List (Surroundings × Operation)}
    (owned : bridge.Owned name value) (writes : ∀ step ∈ history, step.2.WritesVariables)
    (kept : ∀ step ∈ history, ¬step.2.Overwrites name)
    (silent : ∀ step ∈ history, ¬step.2.Exports name) :
    (bridge.performAll history).Owned name value := by
  induction history generalizing bridge with
  | nil => exact owned
  | cons step history ih =>
      simp only [List.forall_mem_cons] at writes kept silent
      exact ih (owned.perform step.1 writes.1 kept.1 silent.1) writes.2 kept.2 silent.2

theorem Lent.performAll {history : List (Surroundings × Operation)} (lent : bridge.Lent name)
    (writes : ∀ step ∈ history, step.2.WritesVariables)
    (unset : ∀ step ∈ history, ¬step.2.Sets name) : (bridge.performAll history).Lent name := by
  induction history generalizing bridge with
  | nil => exact lent
  | cons step history ih =>
      simp only [List.forall_mem_cons] at writes unset
      exact ih (lent.perform step.1 writes.1 unset.1) writes.2 unset.2

/-- A variable that the host sets, and that is not an export of the last request, has its value after
    all exports in which no header is of its name. A header of the name takes it over: after the next
    export without one it is gone, and so it is after all others until it is set again. -/
theorem outlives_exports (bridge : Bridge σ) (name value : String)
    (accepted : (bridge.setEnvironmentVariable name value true).1 = .accepted)
    (unexported : name ∉ bridge.headerExports) (after : List (Surroundings × Operation))
    (writes : ∀ step ∈ after, step.2.WritesVariables)
    (kept : ∀ step ∈ after, ¬step.2.Overwrites name) (headers : List (String × String))
    (silent : ¬(Operation.exportHeaders headers).Exports name) :
    let now := ((bridge.setEnvironmentVariable name value true).2.performAll after)
      |>.exportRequestHeaders headers
    ((∀ step ∈ after, ¬step.2.Exports name) → now.env.get? name = some value) ∧
      ∀ earlier taking later, after = earlier ++ taking :: later → taking.2.Exports name →
        (∀ step ∈ later, ¬step.2.Sets name) → now.env.get? name = none := by
  intro now
  refine ⟨fun untouched => ?_, fun earlier taking later split exported unset => ?_⟩
  · have owned := (owned_setEnvironmentVariable accepted unexported).performAll writes kept untouched
    exact (owned.exportRequestHeaders silent).held
  · subst split
    have lent : ((bridge.setEnvironmentVariable name value true).2.performAll
        (earlier ++ taking :: later)).Lent name := by
      rw [performAll_append]
      exact (lent_of_exports taking.1 exported).performAll
        (fun step member => writes step (by simp [member])) unset
    exact lent.get?_exportRequestHeaders silent

/-- A header of another name, a value for want of one, and at last a header that takes the variable
    over. -/
theorem outlives_exports_of_two_requests :
    let host : Surroundings := ⟨.empty, [], 0⟩
    let bridge := Bridge.new .standard (Recorder.new [] ⟨false, false, false⟩) (.recording [])
    let set := bridge.setEnvironmentVariable "HTTP_X_A" "host" true
    let calm : List (Surroundings × Operation) :=
      [(host, .exportHeaders [("x-b", "1")]), (host, .setVariable "HTTP_X_A" "weak" false)]
    let taking := (host, Operation.exportHeaders [("x-a", "client")])
    set.1 = .accepted ∧
      ((set.2.performAll calm).exportRequestHeaders []).env.get? "HTTP_X_A" = some "host" ∧
      ((set.2.performAll (calm ++ [taking])).exportRequestHeaders []).env.get? "HTTP_X_A" = none := by
  intro host bridge set calm taking
  have accepted : set.1 = .accepted := by decide +kernel
  have outlives := outlives_exports bridge "HTTP_X_A" "host" accepted (by decide +kernel)
  refine ⟨accepted, ?_, ?_⟩
  · exact (outlives calm (by decide +kernel) (by decide +kernel) [] (by decide +kernel)).1
      (by decide +kernel)
  · exact (outlives (calm ++ [taking]) (by decide +kernel) (by decide +kernel) []
      (by decide +kernel)).2 calm taking [] rfl (by decide +kernel) (by decide +kernel)

/-- A header of the name of a variable that the host has set, in one request before another. -/
theorem not_outlives_exports_of_header_of_name :
    let host : Surroundings := ⟨.empty, [], 0⟩
    let bridge := Bridge.new .standard (Recorder.new [] ⟨false, false, false⟩) (.recording [])
    let set := bridge.setEnvironmentVariable "HTTP_X_A" "host" true
    let request := (host, Operation.exportHeaders [("X-A", "client")])
    set.1 = .accepted ∧ ¬(Operation.exportHeaders []).Exports "HTTP_X_A" ∧
      ((set.2.performAll [request]).exportRequestHeaders []).env.get? "HTTP_X_A" ≠
        some "host" := by
  decide +kernel

end ScriptBridge.Bridge
