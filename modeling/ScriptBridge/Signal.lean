/-!
# Signals

Latches that stop a host. A clone of a signal shares its latch; a latch that was triggered stays so.
-/

namespace ScriptBridge

/-- Signals by number, each with the number of its latch, and the latches. -/
structure Signals where
  latchOf : List Nat
  latches : List Bool
  deriving Repr, DecidableEq

namespace Signals

def single : Signals := ⟨[0], [false]⟩

def new (signals : Signals) : Signals :=
  ⟨signals.latchOf ++ [signals.latches.length], signals.latches ++ [false]⟩

def latch (signals : Signals) (n : Nat) : Nat :=
  signals.latchOf.getD n signals.latches.length

def clone (signals : Signals) (n : Nat) : Signals :=
  { signals with latchOf := signals.latchOf ++ [signals.latch n] }

def size (signals : Signals) : Nat :=
  signals.latchOf.length

def trigger (signals : Signals) (n : Nat) : Signals :=
  { signals with latches := signals.latches.set (signals.latch n) true }

/-- Whether a signal was triggered, which is when waiting for it ends. -/
def isTriggered (signals : Signals) (n : Nat) : Bool :=
  signals.latches.getD (signals.latch n) false

end Signals

end ScriptBridge
