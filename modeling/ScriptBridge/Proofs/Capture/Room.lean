import Mathlib.Data.Nat.Find
import ScriptBridge.Proofs.Capture.Histories

/-! # What a buffer has room for

Acceptance is decided by the capacity of the moment, and yet comes down to one number: the bytes that
a policy has room for. A buffer that can grow takes from it what is appended, in order, and drops what
finds too little left. What it holds depends on nothing else that happened to it before.
-/

namespace ScriptBridge

namespace CapacityPolicy

variable {policy : CapacityPolicy} {alloc : Allocator}

theorem holds_zero (policy : CapacityPolicy) (alloc : Allocator) : policy.Holds alloc 0 :=
  ⟨0, Or.inl rfl, Nat.le_refl 0⟩

/-- What a policy holds is told by one number. -/
theorem exists_room (policy : CapacityPolicy) (alloc : Allocator) :
    ∃ room, ∀ size, policy.Holds alloc size ↔ size ≤ room := by
  classical
  refine ⟨Nat.findGreatest (policy.Holds alloc) policy.maxSize.toNat, fun size => ?_⟩
  constructor
  · intro holds
    exact Nat.le_findGreatest holds.le_maxSize holds
  · intro within
    have most : policy.Holds alloc (Nat.findGreatest (policy.Holds alloc) policy.maxSize.toNat) :=
      Nat.findGreatest_spec (Nat.zero_le _) (holds_zero policy alloc)
    exact most.mono within

/-- With a generous allocator there is room for the whole chunks within the ceiling. -/
theorem holds_generous_iff (small : policy.chunkSize ≤ policy.maxSize) (size : Nat) :
    policy.Holds .generous size ↔
      size ≤ policy.chunkSize.toNat * (policy.maxSize.toNat / policy.chunkSize.toNat) := by
  refine ⟨?_, holds_whole_chunks small⟩
  rintro ⟨capacity, rfl | ⟨-, shape⟩, above⟩
  · exact Nat.le_trans above (Nat.zero_le _)
  · rw [if_pos small, UInt64.le_iff_toNat_le] at shape
    obtain ⟨⟨chunks, whole⟩, below⟩ := shape
    refine Nat.le_trans above ?_
    rw [whole] at below ⊢
    rcases Nat.eq_zero_or_pos policy.chunkSize.toNat with zero | pos
    · rw [zero, Nat.zero_mul, Nat.zero_mul]
    · refine Nat.mul_le_mul_left _ ((Nat.le_div_iff_mul_le pos).mpr ?_)
      rwa [Nat.mul_comm]

end CapacityPolicy

namespace OutputBuffer

variable {policy : CapacityPolicy} {alloc : Allocator} {buffer : OutputBuffer} {room : Nat}

theorem Regular.able_append (regular : Regular policy alloc buffer)
    (able : Able policy alloc buffer) (bytes : Bytes) :
    Able policy alloc (buffer.appendUnder alloc bytes) :=
  able.imp_right fun first granted => UInt64.le_trans (first granted) regular.append.2

theorem Regular.data_append_eq_admitted (regular : Regular policy alloc buffer)
    (able : Able policy alloc buffer) (smaller : CapacityPolicy.GrantsSmaller alloc)
    (isRoom : ∀ size, policy.Holds alloc size ↔ size ≤ room) (bytes : Bytes) :
    (buffer.appendUnder alloc bytes).data =
      buffer.data ++ (admitted (room - buffer.size) [bytes]).flatten := by
  by_cases fits : bytes.length ≤ room - buffer.size
  · have added : (buffer.appendUnder alloc bytes).data = buffer.data ++ bytes := by
      cases bytes with
      | nil => simp [appendUnder]
      | cons b bytes =>
          refine regular.data_append_of_holds able smaller ((isRoom _).mpr ?_)
          rw [List.length_cons] at fits ⊢
          omega
    simp only [added, admitted, fits, if_true, List.flatten_cons, List.flatten_nil,
      List.append_nil]
  · have dropped : (buffer.appendUnder alloc bytes).data = buffer.data := by
      refine regular.data_append_of_not_holds able smaller fun holds => ?_
      have := (isRoom _).mp holds
      omega
    simp only [dropped, admitted, fits, if_false, List.flatten_nil, List.append_nil]

theorem Regular.data_foldl_append_eq_admitted (regular : Regular policy alloc buffer)
    (able : Able policy alloc buffer) (smaller : CapacityPolicy.GrantsSmaller alloc)
    (isRoom : ∀ size, policy.Holds alloc size ↔ size ≤ room) (pieces : List Bytes) :
    (pieces.foldl (appendUnder alloc) buffer).data =
      buffer.data ++ (admitted (room - buffer.size) pieces).flatten := by
  induction pieces generalizing buffer with
  | nil => rw [List.foldl_nil, admitted, List.flatten_nil, List.append_nil]
  | cons bytes pieces ih =>
      have data := regular.data_append_eq_admitted able smaller isRoom bytes
      have left : room - (buffer.appendUnder alloc bytes).size =
          room - buffer.size - (admitted (room - buffer.size) [bytes]).flatten.length := by
        rw [OutputBuffer.size, data, List.length_append, Nat.sub_sub]
        rfl
      have both := admitted_append (room - buffer.size) [bytes] pieces
      rw [List.singleton_append] at both
      rw [List.foldl_cons, ih regular.append.1 (regular.able_append able bytes), data, left, both,
        List.flatten_append, List.append_assoc]

theorem Regular.keeps_iff (regular : Regular policy alloc buffer)
    (able : Able policy alloc buffer) (smaller : CapacityPolicy.GrantsSmaller alloc)
    (isRoom : ∀ size, policy.Holds alloc size ↔ size ≤ room) {bytes : Bytes}
    (filled : bytes ≠ []) :
    buffer.Keeps alloc bytes ↔ buffer.size + bytes.length ≤ room := by
  rw [← isRoom]
  constructor
  · intro keeps
    by_contra full
    have dropped := regular.data_append_of_not_holds able smaller full
    rw [keeps.data] at dropped
    exact filled (List.append_right_eq_self.mp dropped)
  · intro holds
    refine (keeps_or_drops alloc buffer filled).resolve_right fun drops => ?_
    have added := regular.data_append_of_holds able smaller holds
    rw [drops.data] at added
    exact filled (List.append_right_eq_self.mp added.symm)

/-- Operations that meet an allocator that grants everything. -/
def generously (history : List Operation) : List (Allocator × Operation) :=
  history.map fun operation => (.generous, operation)

/-- Whether an operation empties a buffer. -/
def Operation.Empties : Operation → Prop
  | .append _ => False
  | .reset | .release => True

/-- Whether an append is kept depends on the bytes held and on the whole chunks within the ceiling,
    and on nothing else that the buffer went through. Two buffers of a policy that were emptied, in
    one way or the other, therefore hold the same after the same appends. -/
theorem keeps_iff_within_whole_chunks (policy : CapacityPolicy)
    (small : policy.chunkSize ≤ policy.maxSize) (history : List Operation) :
    let room := policy.chunkSize.toNat * (policy.maxSize.toNat / policy.chunkSize.toNat)
    let buffer := (newUnder .generous policy).performAll (generously history)
    (∀ bytes, bytes ≠ [] → (buffer.Keeps .generous bytes ↔ buffer.size + bytes.length ≤ room)) ∧
      ∀ (otherHistory : List Operation) (emptying otherEmptying : Operation) (pieces : List Bytes),
        emptying.Empties → otherEmptying.Empties →
          let other := (newUnder .generous policy).performAll (generously otherHistory)
          (pieces.foldl (appendUnder .generous) (buffer.perform .generous emptying)).data =
            (pieces.foldl (appendUnder .generous) (other.perform .generous otherEmptying)).data := by
  intro room buffer
  have isRoom := CapacityPolicy.holds_generous_iff small
  have smaller := CapacityPolicy.grantsSmaller_generous
  refine ⟨?_, ?_⟩
  · intro bytes filled
    have tracks := tracks_performAll policy .generous (generously history)
    exact tracks.toRegular.keeps_iff (Or.inl small) smaller isRoom filled
  · intro otherHistory emptying otherEmptying pieces empties otherEmpties other
    -- both hold what the room admits of the pieces, whatever capacity they are left with
    have holds : ∀ (history : List Operation) {emptying : Operation}, emptying.Empties →
        (pieces.foldl (appendUnder .generous)
          (((newUnder .generous policy).performAll (generously history)).perform .generous
            emptying)).data = (admitted room pieces).flatten := by
      intro history emptying empties
      have tracks := (tracks_performAll policy .generous (generously history)).perform .generous
        emptying
      rw [tracks.toRegular.data_foldl_append_eq_admitted (Or.inl small) smaller isRoom]
      cases emptying with
      | append bytes => exact empties.elim
      | reset => rfl
      | release => rfl
    rw [holds history empties, holds otherHistory otherEmpties]

/-- Chunks of three bytes below a ceiling of ten have room for nine, after a release as well as after a
    reset. -/
theorem keeps_nine_of_ten :
    let policy : CapacityPolicy := ⟨3, 10⟩
    let history := [Operation.append (utf8 "12345"), .release, .append (utf8 "abcd")]
    let buffer := (newUnder .generous policy).performAll (generously history)
    let fresh := newUnder .generous policy
    let pieces := [utf8 "x", utf8 "ninebytes", utf8 "12345678"]
    policy.chunkSize ≤ policy.maxSize ∧ utf8 "efghi" ≠ [] ∧ utf8 "efghij" ≠ [] ∧
      buffer.size = 4 ∧ buffer.Keeps .generous (utf8 "efghi") ∧
      ¬ buffer.Keeps .generous (utf8 "efghij") ∧
      Operation.release.Empties ∧ Operation.reset.Empties ∧
      (pieces.foldl (appendUnder .generous) buffer.release).data =
        (pieces.foldl (appendUnder .generous) (fresh.resetUnder .generous)).data := by
  intro policy history buffer fresh pieces
  have small : policy.chunkSize ≤ policy.maxSize := by decide
  obtain ⟨keeps_iff, alike⟩ := keeps_iff_within_whole_chunks policy small history
  have filled : utf8 "efghi" ≠ [] := by decide +kernel
  have filled' : utf8 "efghij" ≠ [] := by decide +kernel
  have size : buffer.size = 4 := by decide +kernel
  have within : buffer.size + (utf8 "efghi").length ≤ 3 * (10 / 3) := by decide +kernel
  have beyond : ¬ buffer.size + (utf8 "efghij").length ≤ 3 * (10 / 3) := by decide +kernel
  exact ⟨small, filled, filled', size, (keeps_iff _ filled).mpr within,
    fun keeps => beyond ((keeps_iff _ filled').mp keeps), trivial, trivial,
    alike [] .release .reset pieces trivial trivial⟩

end OutputBuffer

end ScriptBridge
