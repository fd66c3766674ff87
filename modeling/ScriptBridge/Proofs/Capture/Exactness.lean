import Mathlib.Order.Bounds.Basic
import ScriptBridge.Proofs.Capture.Keeping

/-! # Appends without overflow

The steps by which an append finds its capacity, once more, and each of them checked. Some steps are
guarded where they stand: if one of them has no result, the append is dropped. The others are taken
for granted, and here have no result outside of the words. A buffer within its capacity never meets
such a step, so that nothing that an append computes wraps around. What comes out is what unbounded
numbers give: the least of the capacities that would do, if it lies within the ceiling.
-/

namespace ScriptBridge

namespace Word

/-- The difference, unless it falls below zero. -/
def sub? (a b : UInt64) : Option UInt64 :=
  if b ≤ a then some (a - b) else none

/-- The quotient rounded up, unless there is none or rounding overflows. -/
def divCeil? (a b : UInt64) : Option UInt64 :=
  if b = 0 then none
  else if a % b = 0 then some (a / b)
  else add? (a / b) 1

theorem divCeil?_eq_some {a b : UInt64} (nonzero : b ≠ 0) :
    divCeil? a b = some (divCeil a b) := by
  by_cases whole : a % b = 0
  · simp only [divCeil?, divCeil, nonzero, whole, if_true, if_false]
  · have up : (a / b).toNat + (1 : UInt64).toNat < UInt64.size := by
      rw [UInt64.toNat_div]
      exact div_succ_lt_size whole
    have sum : UInt64.ofNat ((a / b).toNat + (1 : UInt64).toNat) = a / b + 1 := by
      rw [UInt64.ofNat_add, UInt64.ofNat_toNat, UInt64.ofNat_toNat]
    simp only [divCeil?, divCeil, nonzero, whole, if_false, add?_eq, ofNat?, up, if_true, sum]

end Word

namespace CapacityPolicy

/-- `growTo` with checked steps: `none` if a step fails that is not guarded, and else what `growTo`
    gives. -/
def growToChecked? (policy : CapacityPolicy) (current required : UInt64) :
    Option (Option UInt64) :=
  if required ≤ current then some (some current)
  else if policy.chunkSize = 0 then some none
  else do
    let missing ← Word.sub? required current
    let chunks ← Word.divCeil? missing policy.chunkSize
    some do
      let growth ← Word.mul? chunks policy.chunkSize
      let needed ← Word.add? current growth
      if needed ≤ policy.maxSize then some needed else none

theorem growToChecked?_eq (policy : CapacityPolicy) (current required : UInt64) :
    policy.growToChecked? current required = some (policy.growTo current required) := by
  by_cases enough : required ≤ current
  · simp only [growToChecked?, growTo, enough, if_true]
  · by_cases still : policy.chunkSize = 0
    · simp only [growToChecked?, growTo, enough, still, if_true, if_false]
    · have missing : Word.sub? required current = some (required - current) :=
        if_pos (UInt64.le_of_lt (UInt64.not_le.mp enough))
      simp only [growToChecked?, growTo, enough, still, if_false, missing,
        Word.divCeil?_eq_some still, bind, Option.bind_some]

/-- The capacities, of any size, that lie whole chunks above `current` and hold `required`. -/
def sufficient (policy : CapacityPolicy) (current required : UInt64) : Set Nat :=
  {n | required.toNat ≤ n ∧ ∃ chunks, n = current.toNat + chunks * policy.chunkSize.toNat}

variable {policy : CapacityPolicy} {current required : UInt64}

theorem isLeast_missingChunks (nonzero : policy.chunkSize ≠ 0) (current required : UInt64) :
    IsLeast (policy.sufficient current required)
      (current.toNat + policy.missingChunks current required * policy.chunkSize.toNat) := by
  have reached := (missingChunks_le_iff nonzero current required _).mp (Nat.le_refl _)
  refine ⟨⟨reached, _, rfl⟩, ?_⟩
  rintro n ⟨enough, chunks, rfl⟩
  have fewest := (missingChunks_le_iff nonzero current required chunks).mpr enough
  exact Nat.add_le_add_left (Nat.mul_le_mul_right _ fewest) _

/-- A buffer grows to the least capacity that would do, and to none if that lies above the
    ceiling. -/
theorem growTo_eq_some_iff_isLeast (short : current < required) {grown : UInt64} :
    policy.growTo current required = some grown ↔
      policy.chunkSize ≠ 0 ∧ grown ≤ policy.maxSize ∧
        IsLeast (policy.sufficient current required) grown.toNat := by
  rw [growTo_eq_some_iff short]
  refine and_congr_right fun nonzero => and_congr_right fun _ => ?_
  have least := isLeast_missingChunks nonzero current required
  constructor
  · intro total
    exact total ▸ least
  · intro other
    exact other.unique least

theorem exists_growTo_of_le {more grown : UInt64} (fewer : required ≤ more)
    (grows : policy.growTo current more = some grown) :
    ∃ less, policy.growTo current required = some less ∧ less ≤ grown := by
  by_cases enough : required ≤ current
  · exact ⟨current, growTo_of_le enough, (le_growTo grows).1⟩
  · have short := UInt64.not_le.mp enough
    have short' : current < more := UInt64.lt_of_lt_of_le short fewer
    obtain ⟨nonzero, below, least⟩ := (growTo_eq_some_iff_isLeast short').mp grows
    have first := isLeast_missingChunks nonzero current required
    have lower : current.toNat + policy.missingChunks current required * policy.chunkSize.toNat ≤
        grown.toNat :=
      first.2 ⟨Nat.le_trans (UInt64.le_iff_toNat_le.mp fewer) least.1.1, least.1.2⟩
    have same := UInt64.toNat_ofNat_of_lt' (Nat.lt_of_le_of_lt lower grown.toNat_lt_size)
    rw [← same] at first lower
    have within := UInt64.le_iff_toNat_le.mpr lower
    exact ⟨_, (growTo_eq_some_iff_isLeast short).mpr
      ⟨nonzero, UInt64.le_trans within below, first⟩, within⟩

/-- Growth in words is growth in unbounded numbers: what holds the required bytes already stays, and
    otherwise there is the least of all the capacities that lie whole chunks above the present one
    and hold the required bytes, if there is a chunk to grow by and it lies within the ceiling, and
    else nothing. No step on the way wraps around, and more bytes never get less capacity. -/
theorem growTo_exact (policy : CapacityPolicy) (current required : UInt64) :
    (∀ grown, policy.growTo current required = some grown ↔
      required ≤ current ∧ grown = current ∨
        current < required ∧ policy.chunkSize ≠ 0 ∧ grown ≤ policy.maxSize ∧
          IsLeast (policy.sufficient current required) grown.toNat) ∧
      policy.growToChecked? current required = some (policy.growTo current required) ∧
      ∀ more grown, required ≤ more → policy.growTo current more = some grown →
        ∃ less, policy.growTo current required = some less ∧ less ≤ grown := by
  refine ⟨fun grown => ?_, policy.growToChecked?_eq current required,
    fun _ _ => exists_growTo_of_le⟩
  by_cases enough : required ≤ current
  · have still : ¬current < required := UInt64.not_lt.mpr enough
    simp only [growTo_of_le enough, enough, still, true_and, false_and, or_false,
      Option.some.injEq, eq_comm]
  · have short := UInt64.not_le.mp enough
    simp only [growTo_eq_some_iff_isLeast short, enough, short, true_and, false_and, false_or]

/-- Of the last words, some still have a capacity of whole chunks; behind them the sum has none, and
    does not come out small. -/
theorem growTo_exact_at_last_words :
    let policy : CapacityPolicy := ⟨3, Word.greatest⟩
    let current := Word.greatest - 7
    policy.growTo current (Word.greatest - 6) = some (Word.greatest - 4) ∧
      policy.growTo current (Word.greatest - 3) = some (Word.greatest - 1) ∧
      IsLeast (policy.sufficient current (Word.greatest - 6)) (Word.greatest - 4).toNat ∧
      Word.greatest - 6 ≤ Word.greatest - 3 ∧ Word.greatest - 4 ≤ Word.greatest - 1 ∧
      policy.growTo current Word.greatest = none := by
  intro policy current
  obtain ⟨small, -, grows⟩ := growTo_exact policy current (Word.greatest - 6)
  have first : policy.growTo current (Word.greatest - 6) = some (Word.greatest - 4) := by decide
  have second : policy.growTo current (Word.greatest - 3) = some (Word.greatest - 1) := by decide
  have fewer : Word.greatest - 6 ≤ Word.greatest - 3 := by decide
  have short : ¬Word.greatest - 6 ≤ current := by decide
  have least := ((small _).mp first).resolve_left fun kept => short kept.1
  obtain ⟨less, same, below⟩ := grows _ _ fewer second
  rw [first] at same
  exact ⟨first, second, least.2.2.2, fewer, Option.some.inj same ▸ below, by decide⟩

end CapacityPolicy

namespace OutputBuffer

/-- `capacityFor` with checked steps. What is asked of the allocator is the room behind the present
    bytes, which makes up the grown capacity together with them. -/
def capacityForChecked? (alloc : Allocator) (buffer : OutputBuffer) (bytes : Bytes) :
    Option (Option UInt64) :=
  match Word.ofNat? (buffer.size + bytes.length) with
  | none => some none
  | some required =>
    if required ≤ buffer.capacity then some (some buffer.capacity)
    else do
      match ← buffer.policy.growToChecked? buffer.capacity required with
      | none => some none
      | some grown =>
        let length ← Word.ofNat? buffer.size
        let reservation ← Word.sub? grown length
        let asked ← Word.add? length reservation
        some (if alloc asked then some grown else none)

theorem asked_eq {length grown : UInt64} (below : length ≤ grown) :
    (do
      let reservation ← Word.sub? grown length
      Word.add? length reservation) = some grown := by
  have reservation : Word.sub? grown length = some (grown - length) := if_pos below
  have room : (grown - length).toNat = grown.toNat - length.toNat :=
    UInt64.toNat_sub_of_le _ _ below
  rw [UInt64.le_iff_toNat_le] at below
  simp only [reservation, bind, Option.bind_some, Word.add?_eq, Word.ofNat?_eq_some_iff]
  omega

theorem capacityForChecked?_eq {buffer : OutputBuffer}
    (held : buffer.size ≤ buffer.capacity.toNat) (alloc : Allocator) (bytes : Bytes) :
    buffer.capacityForChecked? alloc bytes = some (buffer.capacityFor alloc bytes) := by
  have fits : buffer.size < UInt64.size := Nat.lt_of_le_of_lt held buffer.capacity.toNat_lt_size
  simp only [capacityForChecked?, capacityFor]
  cases total : Word.ofNat? (buffer.size + bytes.length) with
  | none => rfl
  | some required =>
      rw [Word.ofNat?_eq_some_iff] at total
      by_cases enough : required ≤ buffer.capacity
      · simp only [enough, if_true, bind, Option.bind_some]
      · simp only [enough, if_false, CapacityPolicy.growToChecked?_eq, bind, Option.bind_some]
        cases grows : buffer.policy.growTo buffer.capacity required with
        | none => rfl
        | some grown =>
            have above := (CapacityPolicy.le_growTo grows).2
            have length : Word.ofNat? buffer.size = some (UInt64.ofNat buffer.size) := if_pos fits
            have below : UInt64.ofNat buffer.size ≤ grown := by
              rw [UInt64.le_iff_toNat_le] at above ⊢
              rw [UInt64.toNat_ofNat_of_lt' fits]
              omega
            have asked := asked_eq below
            simp only [bind] at asked
            simp only [length, Option.bind_some, ← Option.bind_assoc, asked]

end OutputBuffer

end ScriptBridge
