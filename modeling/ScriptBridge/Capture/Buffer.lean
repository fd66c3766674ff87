import ScriptBridge.Capture.Policy
import ScriptBridge.Text.Utf8

/-!
# Capture buffers

What a script writes is appended to a buffer whole or not at all: an append that needs more room
than the ceiling or the allocator gives leaves the contents as they are and counts as truncated. A
reset keeps the capacity, a release gives it back.
-/

namespace ScriptBridge

/-- Bytes captured so far, the capacity reserved for them, and the bytes that did not fit. -/
structure OutputBuffer where
  policy : CapacityPolicy
  data : Bytes
  capacity : UInt64
  truncated : UInt64
  deriving Repr, DecidableEq

namespace OutputBuffer

def size (buffer : OutputBuffer) : Nat :=
  buffer.data.length

/-- Empties a buffer. One with less than its first chunk gets that chunk, if the allocator grants
    it. -/
def resetUnder (alloc : Allocator) (buffer : OutputBuffer) : OutputBuffer :=
  let initial := buffer.policy.initialCapacity
  let capacity :=
    if buffer.capacity < initial ∧ alloc initial then initial else buffer.capacity
  { buffer with data := [], truncated := 0, capacity }

/-- Empties a buffer and keeps its capacity, at least one chunk. -/
def reset (buffer : OutputBuffer) : OutputBuffer :=
  buffer.resetUnder .addressable

/-- Gives back the capacity together with the contents. -/
def release (buffer : OutputBuffer) : OutputBuffer :=
  { buffer with data := [], capacity := 0, truncated := 0 }

/-- A buffer without capacity. -/
def unallocated (policy : CapacityPolicy) : OutputBuffer :=
  ⟨policy, [], 0, 0⟩

def newUnder (alloc : Allocator) (policy : CapacityPolicy) : OutputBuffer :=
  (unallocated policy).resetUnder alloc

def new (policy : CapacityPolicy) : OutputBuffer :=
  newUnder .addressable policy

/-- Counts bytes that are not kept. -/
def truncate (buffer : OutputBuffer) (bytes : Bytes) : OutputBuffer :=
  { buffer with truncated := buffer.truncated + UInt64.ofNat bytes.length }

/-- The capacity that a buffer has once it holds `bytes` more, if it can have it. -/
def capacityFor (alloc : Allocator) (buffer : OutputBuffer) (bytes : Bytes) : Option UInt64 := do
  let required ← Word.ofNat? (buffer.size + bytes.length)
  if required ≤ buffer.capacity then some buffer.capacity
  else
    let grown ← buffer.policy.growTo buffer.capacity required
    if alloc grown then some grown else none

/-- Appends bytes whole, or counts them as truncated. -/
def appendUnder (alloc : Allocator) (buffer : OutputBuffer) (bytes : Bytes) : OutputBuffer :=
  if bytes.isEmpty then buffer
  else
    match buffer.capacityFor alloc bytes with
    | some capacity => { buffer with data := buffer.data ++ bytes, capacity }
    | none => buffer.truncate bytes

/-- Appends bytes whole, or counts them as truncated. -/
def append (buffer : OutputBuffer) (bytes : Bytes) : OutputBuffer :=
  buffer.appendUnder .addressable bytes

end OutputBuffer

end ScriptBridge
