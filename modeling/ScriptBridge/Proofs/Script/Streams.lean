import ScriptBridge.Script.Engine

/-! # Writing to streams

A handle is good for writing if it names standard error, or standard output where that is there. What
an outlet does with handles is right but for one thing: once they are routed, it takes any text for a
handle.
-/

namespace ScriptBridge.Script

namespace Outlet

/-- Whether a handle names a stream that is there. -/
def IsStream (outlet : Outlet) (handle : String) : Prop :=
  handle = stderrHandle ∨ handle = stdoutHandle ∧ (outlet.exposed = true ∨ outlet.routed = true)

/-- Whether bytes fit into what the outlet may still hold. -/
def Admits (outlet : Outlet) (data : Bytes) : Prop :=
  outlet.limit = 0 ∨ outlet.pending.output + data.length ≤ outlet.limit.toNat

/-- As what bytes are queued that are written to a stream. Where handles are not routed, nothing of
    standard error is. -/
def queuedAs? (outlet : Outlet) (handle : String) (data : Bytes) : Option Emission :=
  if outlet.routed then some (.body data)
  else if handle = stdoutHandle then some (.stdout data)
  else none

/-- What an outlet becomes when an emission is queued: it stands behind all others if its bytes are
    admitted, and otherwise is dropped and counted. Header lines and handles are not touched. -/
structure Queues (outlet : Outlet) (emission : Emission) (data : Bytes) (after : Outlet) :
    Prop where
  admitted : outlet.Admits data → after.emissions = outlet.emissions ++ [emission] ∧
    after.pending.output = outlet.pending.output + data.length ∧
    after.pending.dropped = outlet.pending.dropped
  refused : ¬outlet.Admits data → after.emissions = outlet.emissions ∧
    after.pending.output = outlet.pending.output ∧
    after.pending.dropped = outlet.pending.dropped + data.length
  headers : after.pending.headers = outlet.pending.headers
  handles : after.exposed = outlet.exposed ∧ after.routed = outlet.routed
  limit : after.limit = outlet.limit

/-- What it is to treat a handle right: it is accepted just if it names a stream that is there, what is
    not accepted changes nothing, and what is accepted is queued where it belongs. -/
structure TreatsRight (outlet : Outlet) (handle : String) (data : Bytes) : Prop where
  accepts : (outlet.write? handle data).isSome = true ↔ outlet.IsStream handle
  keeps : outlet.write? handle data = none →
    Function.write handle data outlet = (.error (.badHandle handle), outlet)
  queues : ∀ after, outlet.write? handle data = some after →
    Function.write handle data outlet = (.ok (.ofCount data.length), after) ∧
      (∀ emission, outlet.queuedAs? handle data = some emission →
        outlet.Queues emission data after) ∧
      (outlet.queuedAs? handle data = none → after = outlet)

variable {outlet : Outlet} {handle : String} {data : Bytes}

theorem allows_iff_admits :
    outlet.allows (outlet.pending.output + data.length) = true ↔ outlet.Admits data := by
  simp [allows, Admits]

theorem queues_pushOutput (outlet : Outlet) (emission : Emission) (data : Bytes) :
    outlet.Queues emission data (outlet.pushOutput emission data.length) := by
  by_cases admits : outlet.Admits data
  · rw [pushOutput, if_pos (allows_iff_admits.mpr admits)]
    refine ⟨fun _ => ⟨?_, rfl, rfl⟩, fun refused => absurd admits refused, rfl, ⟨rfl, rfl⟩, rfl⟩
    exact List.reverse_cons
  · rw [pushOutput, if_neg (mt allows_iff_admits.mp admits)]
    exact ⟨fun admitted => absurd admitted admits, fun _ => ⟨rfl, rfl, rfl⟩, rfl, ⟨rfl, rfl⟩, rfl⟩

theorem write?_of_routed (routed : outlet.routed = true) (handle : String) (data : Bytes) :
    outlet.write? handle data = some (outlet.output data) := by
  rw [write?, if_pos routed]

theorem write?_eq_none_iff :
    outlet.write? handle data = none ↔ outlet.routed = false ∧ ¬outlet.IsStream handle := by
  by_cases routed : outlet.routed = true
  · simp [write?_of_routed routed, routed]
  · rw [write?, if_neg routed]
    by_cases stdout : handle = stdoutHandle ∧ outlet.exposed = true
    · simp [stdout, IsStream]
    · by_cases stderr : handle = stderrHandle
      · simp [stderr, IsStream, stdoutHandle, stderrHandle]
      · simp only [if_neg stdout, if_neg stderr, true_iff, IsStream]
        exact ⟨by simpa using routed, by grind⟩

theorem queues_of_write? {after : Outlet} (written : outlet.write? handle data = some after) :
    (∀ emission, outlet.queuedAs? handle data = some emission →
      outlet.Queues emission data after) ∧
    (outlet.queuedAs? handle data = none → after = outlet) := by
  by_cases routed : outlet.routed = true
  · rw [write?_of_routed routed] at written
    obtain rfl := Option.some.inj written
    simp only [queuedAs?, routed, if_true, Option.some.injEq, reduceCtorEq, false_implies, and_true]
    rintro _ rfl
    exact queues_pushOutput outlet _ data
  · rw [write?, if_neg routed] at written
    rw [queuedAs?, if_neg routed]
    by_cases stdout : handle = stdoutHandle
    · rw [if_pos stdout]
      split at written
      · obtain rfl := Option.some.inj written
        simp only [Option.some.injEq, reduceCtorEq, false_implies, and_true]
        rintro _ rfl
        exact queues_pushOutput outlet _ data
      · have other : handle ≠ stderrHandle := by
          rw [stdout]
          decide
        rw [if_neg other] at written
        cases written
    · rw [if_neg fun exposed => stdout exposed.1] at written
      rw [if_neg stdout]
      split at written
      · exact ⟨(fun _ none => nomatch none), fun _ => (Option.some.inj written).symm⟩
      · cases written

/-- Handles are treated right but for texts that name no stream, once handles are routed. -/
theorem treatsRight_iff (outlet : Outlet) (handle : String) (data : Bytes) :
    outlet.TreatsRight handle data ↔
      (outlet.routed = true → handle = stdoutHandle ∨ handle = stderrHandle) := by
  constructor
  · intro right routed
    have accepted : (outlet.write? handle data).isSome = true := by
      rw [write?_of_routed routed]
      rfl
    rcases right.accepts.mp accepted with stderr | ⟨stdout, -⟩
    · exact .inr stderr
    · exact .inl stdout
  · intro proper
    constructor
    case accepts =>
      rw [Option.isSome_iff_ne_none, ne_eq, write?_eq_none_iff]
      grind [IsStream]
    case keeps =>
      intro refused
      simp [Function.write, refused]
    case queues =>
      intro after written
      exact ⟨by simp [Function.write, written], queues_of_write? written⟩

/-- The script of a command can write to a text that names no stream. -/
theorem not_treatsRight_of_unknown_handle :
    let started := ((Engine.new .standard).startup ⟨["app"], []⟩).2
    let engine := started.requestStartup.2.routeStdio.2
    engine.active = true ∧ ¬engine.outlet.IsStream "nope" ∧
      ((engine.outlet.write? "nope" (utf8 "x")).map Outlet.emissions).isSome = true ∧
      ¬engine.outlet.TreatsRight "nope" (utf8 "x") := by
  intro started engine
  have stranger : ¬engine.outlet.IsStream "nope" := by
    simp [IsStream, stdoutHandle, stderrHandle]
  refine ⟨rfl, stranger, rfl, fun right => stranger (right.accepts.mp rfl)⟩

end Outlet

end ScriptBridge.Script
