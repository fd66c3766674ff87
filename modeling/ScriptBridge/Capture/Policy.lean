import ScriptBridge.Word

/-!
# Growth of capture buffers

A buffer grows in whole chunks and never beyond a ceiling. `growTo` gives the capacity to grow to,
computed in words without ever wrapping around.
-/

namespace ScriptBridge

/-- How a buffer grows: the bytes of one chunk and the ceiling in bytes. -/
structure CapacityPolicy where
  chunkSize : UInt64
  maxSize : UInt64
  deriving Repr, DecidableEq

namespace CapacityPolicy

/-- Chunks of 256 KiB up to 16 MiB. -/
def standard : CapacityPolicy := ⟨256 * 1024, 16 * 1024 * 1024⟩

instance : Inhabited CapacityPolicy := ⟨standard⟩

/-- The capacity of a buffer that was just reset: one chunk, within the ceiling. -/
def initialCapacity (policy : CapacityPolicy) : UInt64 :=
  if policy.chunkSize ≤ policy.maxSize then policy.chunkSize else policy.maxSize

/-- The capacity that holds `required` bytes, grown from `current` in whole chunks. There is none
    above the ceiling, and none without a chunk to grow by. -/
def growTo (policy : CapacityPolicy) (current required : UInt64) : Option UInt64 :=
  if required ≤ current then some current
  else if policy.chunkSize = 0 then none
  else do
    let chunks := Word.divCeil (required - current) policy.chunkSize
    let growth ← Word.mul? chunks policy.chunkSize
    let needed ← Word.add? current growth
    if needed ≤ policy.maxSize then some needed else none

end CapacityPolicy

/-- Whether a reservation of so many bytes is granted. -/
abbrev Allocator := UInt64 → Bool

/-- Grants what lies within the addresses of a process, which have 47 bits. -/
def Allocator.addressable : Allocator := fun bytes => bytes < 0x800000000000

def Allocator.generous : Allocator := fun _ => true

end ScriptBridge
