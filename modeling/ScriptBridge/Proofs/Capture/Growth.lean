import ScriptBridge.Capture.Policy

/-! # Growth in unbounded arithmetic

What `growTo` computes in words, said with natural numbers: the capacity that is reached is the
least one that lies whole chunks above the present one and holds the required bytes. From this
follows which capacities a buffer can have at all.
-/

namespace ScriptBridge

namespace Word

theorem div_succ_lt_size {a b : UInt64} (rest : a % b ≠ 0) :
    a.toNat / b.toNat + 1 < UInt64.size := by
  have bound := a.toNat_lt_size
  have odd : a.toNat % b.toNat ≠ 0 := fun zero =>
    rest (UInt64.toNat_inj.mp (by rw [UInt64.toNat_mod, zero]; rfl))
  rcases Nat.lt_or_ge b.toNat 2 with one | two
  · have none : b.toNat = 0 := by
      have : b.toNat ≠ 1 := by
        intro one
        rw [one] at odd
        omega
      omega
    rw [none, Nat.div_zero]
    decide
  · have half : a.toNat / b.toNat ≤ a.toNat / 2 := Nat.div_le_div_left two (by decide)
    have : UInt64.size = 2 ^ 64 := rfl
    omega

theorem divCeil_toNat {a b : UInt64} (nonzero : b ≠ 0) :
    (divCeil a b).toNat = (a.toNat + (b.toNat - 1)) / b.toNat := by
  have pos : 0 < b.toNat := by
    have : b.toNat ≠ 0 := fun zero => nonzero (UInt64.toNat_inj.mp zero)
    omega
  have parts := Nat.div_add_mod a.toNat b.toNat
  have rest := Nat.mod_lt a.toNat pos
  by_cases whole : a % b = 0
  · have even : a.toNat % b.toNat = 0 := by
      rw [← UInt64.toNat_mod, whole]
      rfl
    simp only [divCeil, whole, if_true, UInt64.toNat_div]
    symm
    apply Nat.div_eq_of_lt_le
    · rw [Nat.mul_comm]
      omega
    · rw [Nat.succ_mul, Nat.mul_comm]
      omega
  · have odd : a.toNat % b.toNat ≠ 0 := fun zero =>
      whole (UInt64.toNat_inj.mp (by rw [UInt64.toNat_mod, zero]; rfl))
    simp only [divCeil, whole, if_false, UInt64.toNat_add, UInt64.toNat_div, UInt64.toNat_one,
      Nat.mod_eq_of_lt (div_succ_lt_size whole)]
    symm
    apply Nat.div_eq_of_lt_le
    · rw [Nat.succ_mul, Nat.mul_comm]
      omega
    · rw [Nat.succ_mul, Nat.succ_mul, Nat.mul_comm]
      omega

end Word

namespace CapacityPolicy

/-- The chunks that are missing from `current` to `required`. -/
def missingChunks (policy : CapacityPolicy) (current required : UInt64) : Nat :=
  (required.toNat - current.toNat + (policy.chunkSize.toNat - 1)) / policy.chunkSize.toNat

theorem missingChunks_le_iff {policy : CapacityPolicy} (nonzero : policy.chunkSize ≠ 0)
    (current required : UInt64) (n : Nat) :
    policy.missingChunks current required ≤ n ↔
      required.toNat ≤ current.toNat + n * policy.chunkSize.toNat := by
  have pos : 0 < policy.chunkSize.toNat := by
    have : policy.chunkSize.toNat ≠ 0 := fun zero => nonzero (UInt64.toNat_inj.mp zero)
    omega
  rw [missingChunks, ← Nat.lt_succ_iff, Nat.div_lt_iff_lt_mul pos, Nat.succ_mul]
  omega

theorem growTo_of_le {policy : CapacityPolicy} {current required : UInt64}
    (enough : required ≤ current) : policy.growTo current required = some current := by
  simp [growTo, enough]

theorem growTo_eq_some_iff {policy : CapacityPolicy} {current required grown : UInt64}
    (short : current < required) :
    policy.growTo current required = some grown ↔
      policy.chunkSize ≠ 0 ∧ grown ≤ policy.maxSize ∧
        grown.toNat =
          current.toNat + policy.missingChunks current required * policy.chunkSize.toNat := by
  have missing : ¬required ≤ current := UInt64.not_le.mpr short
  by_cases still : policy.chunkSize = 0
  · simp [growTo, missing, still]
  · have chunks : (Word.divCeil (required - current) policy.chunkSize).toNat =
        policy.missingChunks current required := by
      rw [Word.divCeil_toNat still, UInt64.toNat_sub_of_le _ _ (UInt64.le_of_lt short),
        missingChunks]
    simp only [growTo, missing, if_false, still, Word.mul?_eq, Word.add?_eq, chunks]
    simp only [bind, Option.bind_eq_some_iff, Option.ite_none_right_eq_some, Option.some.injEq,
      Word.ofNat?_eq_some_iff, ne_eq]
    constructor
    · rintro ⟨growth, product, needed, sum, below, rfl⟩
      exact ⟨still, below, by omega⟩
    · rintro ⟨-, below, total⟩
      have room := grown.toNat_lt_size
      have fits : policy.missingChunks current required * policy.chunkSize.toNat < UInt64.size := by
        omega
      refine ⟨UInt64.ofNat (policy.missingChunks current required * policy.chunkSize.toNat), ?_,
        grown, ?_, below, rfl⟩
      · rw [UInt64.toNat_ofNat_of_lt' fits]
      · rw [UInt64.toNat_ofNat_of_lt' fits]
        omega

theorem le_growTo {policy : CapacityPolicy} {current required grown : UInt64}
    (grows : policy.growTo current required = some grown) :
    current ≤ grown ∧ required ≤ grown := by
  by_cases enough : required ≤ current
  · rw [growTo_of_le enough] at grows
    obtain rfl := Option.some.inj grows
    exact ⟨UInt64.le_refl _, enough⟩
  · obtain ⟨nonzero, -, total⟩ := (growTo_eq_some_iff (UInt64.not_le.mp enough)).mp grows
    have reached := (missingChunks_le_iff nonzero current required _).mp (Nat.le_refl _)
    rw [UInt64.le_iff_toNat_le, UInt64.le_iff_toNat_le]
    omega

/-- The capacities that a buffer can come to: none at all, or else, if the allocator grants it, a
    number of whole chunks within the ceiling. The ceiling itself takes the place of a chunk that
    is larger. -/
def Reaches (policy : CapacityPolicy) (alloc : Allocator) (capacity : UInt64) : Prop :=
  capacity = 0 ∨ alloc capacity = true ∧
    if policy.chunkSize ≤ policy.maxSize then
      policy.chunkSize.toNat ∣ capacity.toNat ∧ capacity ≤ policy.maxSize
    else capacity = policy.maxSize

/-- Some capacity that a buffer can come to holds so many bytes. -/
def Holds (policy : CapacityPolicy) (alloc : Allocator) (size : Nat) : Prop :=
  ∃ capacity, policy.Reaches alloc capacity ∧ size ≤ capacity.toNat

theorem Holds.mono {policy : CapacityPolicy} {alloc : Allocator} {size less : Nat}
    (holds : policy.Holds alloc size) (below : less ≤ size) : policy.Holds alloc less := by
  obtain ⟨capacity, reached, above⟩ := holds
  exact ⟨capacity, reached, Nat.le_trans below above⟩

theorem Holds.le_maxSize {policy : CapacityPolicy} {alloc : Allocator} {size : Nat}
    (holds : policy.Holds alloc size) : size ≤ policy.maxSize.toNat := by
  obtain ⟨capacity, reached, above⟩ := holds
  rcases reached with rfl | ⟨-, shape⟩
  · exact Nat.le_trans above (Nat.zero_le _)
  · refine Nat.le_trans above ?_
    split at shape
    · exact UInt64.le_iff_toNat_le.mp shape.2
    · exact Nat.le_of_eq (congrArg UInt64.toNat shape)

theorem reaches_initialCapacity {policy : CapacityPolicy} {alloc : Allocator}
    (granted : alloc policy.initialCapacity = true) :
    policy.Reaches alloc policy.initialCapacity := by
  refine Or.inr ⟨granted, ?_⟩
  by_cases small : policy.chunkSize ≤ policy.maxSize
  · simp [initialCapacity, small]
  · simp [initialCapacity, small]

theorem reaches_growTo {policy : CapacityPolicy} {alloc : Allocator}
    {current required grown : UInt64} (reached : policy.Reaches alloc current)
    (grows : policy.growTo current required = some grown) (granted : alloc grown = true) :
    policy.Reaches alloc grown := by
  by_cases enough : required ≤ current
  · rw [growTo_of_le enough] at grows
    exact Option.some.inj grows ▸ reached
  · have short := UInt64.not_le.mp enough
    obtain ⟨nonzero, below, total⟩ := (growTo_eq_some_iff short).mp grows
    have lacking : ¬policy.missingChunks current required ≤ 0 := by
      rw [missingChunks_le_iff nonzero]
      have := UInt64.lt_iff_toNat_lt.mp short
      omega
    have least : policy.chunkSize.toNat ≤
        policy.missingChunks current required * policy.chunkSize.toNat :=
      Nat.le_mul_of_pos_left _ (by omega)
    have small : policy.chunkSize ≤ policy.maxSize := by
      rw [UInt64.le_iff_toNat_le] at below ⊢
      omega
    have whole : policy.chunkSize.toNat ∣ current.toNat := by
      rcases reached with rfl | ⟨-, shape⟩
      · exact Nat.dvd_zero _
      · rw [if_pos small] at shape
        exact shape.1
    refine Or.inr ⟨granted, ?_⟩
    rw [if_pos small, total]
    exact ⟨Nat.dvd_add whole (Nat.dvd_mul_left _ _), below⟩

/-- Whether the allocator grants whatever is smaller than something that it grants. -/
def GrantsSmaller (alloc : Allocator) : Prop :=
  ∀ small large, small ≤ large → alloc large = true → alloc small = true

theorem grantsSmaller_addressable : GrantsSmaller .addressable := by
  intro small large below granted
  simp only [Allocator.addressable, decide_eq_true_eq] at granted ⊢
  exact UInt64.lt_of_le_of_lt below granted

theorem grantsSmaller_generous : GrantsSmaller .generous :=
  fun _ _ _ _ => rfl

theorem holds_whole_chunks {policy : CapacityPolicy} {size : Nat}
    (small : policy.chunkSize ≤ policy.maxSize)
    (within : size ≤ policy.chunkSize.toNat * (policy.maxSize.toNat / policy.chunkSize.toNat)) :
    policy.Holds .generous size := by
  have below : policy.chunkSize.toNat * (policy.maxSize.toNat / policy.chunkSize.toNat) ≤
      policy.maxSize.toNat := Nat.mul_div_le _ _
  have fits := Nat.lt_of_le_of_lt below policy.maxSize.toNat_lt_size
  have same := UInt64.toNat_ofNat_of_lt' fits
  refine ⟨UInt64.ofNat _, Or.inr ⟨rfl, ?_⟩, by rwa [same]⟩
  rw [if_pos small, UInt64.le_iff_toNat_le, same]
  exact ⟨Nat.dvd_mul_right _ _, below⟩

/-- A buffer of whole chunks, or one that has at least its first capacity, can grow to whatever any
    buffer of its policy can hold: growth never overshoots a capacity that holds the required
    bytes. -/
theorem exists_growTo {policy : CapacityPolicy} {alloc : Allocator} (smaller : GrantsSmaller alloc)
    {current required : UInt64} (reached : policy.Reaches alloc current)
    (ready : policy.chunkSize ≤ policy.maxSize ∨
      (alloc policy.initialCapacity = true → policy.initialCapacity ≤ current))
    (short : current < required) (held : policy.Holds alloc required.toNat) :
    ∃ grown, policy.growTo current required = some grown ∧ alloc grown = true := by
  obtain ⟨enough, reachable, holds⟩ := held
  have short' := UInt64.lt_iff_toNat_lt.mp short
  rcases reachable with rfl | ⟨granted, shape⟩
  · have : (0 : UInt64).toNat = 0 := rfl
    omega
  by_cases small : policy.chunkSize ≤ policy.maxSize
  · rw [if_pos small] at shape
    obtain ⟨⟨most, total⟩, below⟩ := shape
    have nonzero : policy.chunkSize ≠ 0 := by
      intro zero
      rw [zero, UInt64.toNat_zero, Nat.zero_mul] at total
      omega
    have whole : policy.chunkSize.toNat ∣ current.toNat := by
      rcases reached with rfl | ⟨-, shape⟩
      · exact Nat.dvd_zero _
      · rw [if_pos small] at shape
        exact shape.1
    obtain ⟨chunks, present⟩ := whole
    have fewer : policy.missingChunks current required ≤ most - chunks := by
      rw [missingChunks_le_iff nonzero, Nat.sub_mul, Nat.mul_comm most, Nat.mul_comm chunks]
      omega
    have within : current.toNat + policy.missingChunks current required * policy.chunkSize.toNat ≤
        enough.toNat := by
      have := Nat.mul_le_mul_right policy.chunkSize.toNat fewer
      rw [Nat.sub_mul, Nat.mul_comm most, Nat.mul_comm chunks] at this
      omega
    have fits := Nat.lt_of_le_of_lt within enough.toNat_lt_size
    refine ⟨UInt64.ofNat (current.toNat +
      policy.missingChunks current required * policy.chunkSize.toNat), ?_, ?_⟩
    · rw [growTo_eq_some_iff short, UInt64.le_iff_toNat_le, UInt64.toNat_ofNat_of_lt' fits]
      rw [UInt64.le_iff_toNat_le] at below
      exact ⟨nonzero, by omega, rfl⟩
    · refine smaller _ enough ?_ granted
      rw [UInt64.le_iff_toNat_le, UInt64.toNat_ofNat_of_lt' fits]
      exact within
  · rw [if_neg small] at shape
    have first : policy.initialCapacity = policy.maxSize := by simp [initialCapacity, small]
    have enough_before := ready.resolve_left small
    rw [first, ← shape, UInt64.le_iff_toNat_le] at enough_before
    have := enough_before granted
    omega

end CapacityPolicy

end ScriptBridge
