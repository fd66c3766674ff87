import ScriptBridge.Capture.Context

/-!
# Outlets

What a script writes is held back until its execution ends. An outlet holds the emissions of one
execution and counts them: texts of the body and of standard output share one allowance, header
lines have one of the same size. A write that does not fit into its allowance is dropped whole.
-/

namespace ScriptBridge.Script

/-- Emissions that are held back, with the sizes that count against the allowances. -/
structure Pending where
  /-- The emissions, the last one first. -/
  held : List Emission
  output : Nat
  headers : Nat
  dropped : Nat

/-- Nothing held back. -/
def Pending.empty : Pending := ⟨[], 0, 0, 0⟩

/-- An outlet: where the handles of a script lead, and what is held back. -/
structure Outlet where
  /-- Both allowances; zero stands for no limit. -/
  limit : UInt64
  /-- Whether scripts have a standard output of their own. -/
  exposed : Bool
  routed : Bool
  pending : Pending

namespace Outlet

def stdoutHandle : String := "STDOUT"

def stderrHandle : String := "STDERR"

/-- An outlet that nothing was written to. -/
def new (limit : UInt64) : Outlet := ⟨limit, false, false, .empty⟩

def allows (outlet : Outlet) (total : Nat) : Bool :=
  outlet.limit = 0 || total ≤ outlet.limit.toNat

/-- Counts bytes as dropped. -/
def drop (outlet : Outlet) (size : Nat) : Outlet :=
  { outlet with pending := { outlet.pending with dropped := outlet.pending.dropped + size } }

/-- Holds an emission of the body or of standard output. -/
def pushOutput (outlet : Outlet) (emission : Emission) (size : Nat) : Outlet :=
  let total := outlet.pending.output + size
  if outlet.allows total then
    { outlet with pending :=
      { outlet.pending with held := emission :: outlet.pending.held, output := total } }
  else outlet.drop size

def output (outlet : Outlet) (data : Bytes) : Outlet :=
  outlet.pushOutput (.body data) data.length

/-- What a header line counts: its bytes and the two that end it. -/
def headerSize (line : String) : Nat :=
  (utf8 line).length + 2

def header (outlet : Outlet) (line : String) : Outlet :=
  let size := headerSize line
  let total := outlet.pending.headers + size
  if outlet.allows total then
    { outlet with pending :=
      { outlet.pending with held := .header line :: outlet.pending.held, headers := total } }
  else outlet.drop size

/-- Writes to a handle, if there is one of the name. Routed handles lead to the body; standard
    output has to be exposed; what goes to standard error alone is not part of the response. -/
def write? (outlet : Outlet) (handle : String) (data : Bytes) : Option Outlet :=
  if outlet.routed then some (outlet.output data)
  else if handle = stdoutHandle ∧ outlet.exposed then
    some (outlet.pushOutput (.stdout data) data.length)
  else if handle = stderrHandle then some outlet
  else none

/-- The emissions in order. -/
def emissions (outlet : Outlet) : List Emission :=
  outlet.pending.held.reverse

/-- The outlet with nothing held back. -/
def cleared (outlet : Outlet) : Outlet :=
  { outlet with pending := .empty }

def take (outlet : Outlet) : List Emission × Outlet :=
  (outlet.emissions, outlet.cleared)

/-- The outlet when a request ends: what is held back is lost, and standard output closed. -/
def endRequest (outlet : Outlet) : Outlet :=
  { outlet.cleared with exposed := false }

end Outlet

end ScriptBridge.Script
