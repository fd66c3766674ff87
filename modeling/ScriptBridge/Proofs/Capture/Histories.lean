import ScriptBridge.Proofs.Capture.Accounting
import ScriptBridge.Proofs.Capture.Exactness

/-! # Buffers over time

A buffer meets appends, resets and releases in any order, and each of them an allocator that grants
and refuses as it likes. Whatever it meets, it stays within its capacity and its capacity within the
ceiling, it holds some of the appends since it was last emptied, each as a whole, and it counts the
bytes of the others.
-/

namespace ScriptBridge.OutputBuffer

inductive Operation where
  | append (bytes : Bytes)
  | reset
  | release
  deriving Repr, DecidableEq

def perform (alloc : Allocator) (buffer : OutputBuffer) : Operation → OutputBuffer
  | .append bytes => buffer.appendUnder alloc bytes
  | .reset => buffer.resetUnder alloc
  | .release => buffer.release

/-- Performs operations in order, each with what the allocator grants at the time. -/
def performAll (buffer : OutputBuffer) (history : List (Allocator × Operation)) : OutputBuffer :=
  history.foldl (fun buffer step => buffer.perform step.1 step.2) buffer

/-- What was appended since a buffer was last emptied, kept or not, with one more operation. -/
def Operation.offer (offered : List Bytes) : Operation → List Bytes
  | .append bytes => offered ++ [bytes]
  | .reset | .release => []

/-- What a history appends to a buffer since it was last emptied, kept or not. -/
def offered (history : List (Allocator × Operation)) : List Bytes :=
  history.foldl (fun offered step => step.2.offer offered) []

variable {policy : CapacityPolicy} {alloc : Allocator} {buffer : OutputBuffer}
  {pieces : List Bytes}

theorem Regular.capacity_le_maxSize (regular : Regular policy .generous buffer) :
    buffer.capacity ≤ policy.maxSize := by
  have holds : policy.Holds .generous buffer.capacity.toNat :=
    ⟨buffer.capacity, regular.reached, Nat.le_refl _⟩
  rw [UInt64.le_iff_toNat_le]
  exact holds.le_maxSize

/-- An append whose bytes were kept: they stand behind the others, in the same capacity or in one that
    the allocator has granted. -/
structure Keeps (alloc : Allocator) (buffer : OutputBuffer) (bytes : Bytes) : Prop where
  data : (buffer.appendUnder alloc bytes).data = buffer.data ++ bytes
  truncated : (buffer.appendUnder alloc bytes).truncated = buffer.truncated
  granted : (buffer.appendUnder alloc bytes).capacity = buffer.capacity ∨
    alloc (buffer.appendUnder alloc bytes).capacity = true

/-- An append whose bytes were dropped, for want of capacity: contents and capacity are as before. -/
structure Drops (alloc : Allocator) (buffer : OutputBuffer) (bytes : Bytes) : Prop where
  short : buffer.capacity.toNat < buffer.size + bytes.length
  data : (buffer.appendUnder alloc bytes).data = buffer.data
  capacity : (buffer.appendUnder alloc bytes).capacity = buffer.capacity
  truncated : (buffer.appendUnder alloc bytes).truncated =
    buffer.truncated + UInt64.ofNat bytes.length

theorem granted_of_capacityFor {bytes : Bytes} {capacity : UInt64}
    (gets : buffer.capacityFor alloc bytes = some capacity) :
    capacity = buffer.capacity ∨ alloc capacity = true := by
  simp only [capacityFor, bind, Option.bind_eq_some_iff] at gets
  obtain ⟨required, -, gets⟩ := gets
  split at gets
  · exact Or.inl (Option.some.inj gets).symm
  · simp only [Option.bind_eq_some_iff, Option.ite_none_right_eq_some, Option.some.injEq] at gets
    obtain ⟨grown, -, granted, rfl⟩ := gets
    exact Or.inr granted

theorem short_of_capacityFor {bytes : Bytes} (gets : buffer.capacityFor alloc bytes = none) :
    buffer.capacity.toNat < buffer.size + bytes.length := by
  apply Nat.lt_of_not_le
  intro fits
  have word := Nat.lt_of_le_of_lt fits buffer.capacity.toNat_lt_size
  have enough : UInt64.ofNat (buffer.size + bytes.length) ≤ buffer.capacity := by
    rwa [UInt64.le_iff_toNat_le, UInt64.toNat_ofNat_of_lt' word]
  simp only [capacityFor, Word.ofNat?, word, enough, if_true, bind, Option.bind_some,
    reduceCtorEq] at gets

theorem keeps_or_drops (alloc : Allocator) (buffer : OutputBuffer) {bytes : Bytes}
    (filled : bytes ≠ []) : buffer.Keeps alloc bytes ∨ buffer.Drops alloc bytes := by
  have some_bytes : bytes.isEmpty = false := List.isEmpty_eq_false_iff.mpr filled
  cases gets : buffer.capacityFor alloc bytes with
  | some capacity =>
      have kept : buffer.appendUnder alloc bytes =
          { buffer with data := buffer.data ++ bytes, capacity } := by
        simp only [appendUnder, some_bytes, gets, Bool.false_eq_true, if_false]
      refine Or.inl ⟨by rw [kept], by rw [kept], ?_⟩
      rw [kept]
      exact granted_of_capacityFor gets
  | none =>
      have dropped : buffer.appendUnder alloc bytes = buffer.truncate bytes := by
        simp only [appendUnder, some_bytes, gets, Bool.false_eq_true, if_false]
      refine Or.inr ⟨short_of_capacityFor gets, ?_, ?_, ?_⟩
      all_goals rw [dropped, truncate]

/-- What holds of a buffer if `pieces` have been appended since it was last emptied. -/
structure Tracks (policy : CapacityPolicy) (pieces : List Bytes) (buffer : OutputBuffer) : Prop
    extends Regular policy .generous buffer where
  whole : ∃ kept : List Bytes, kept.Sublist pieces ∧ buffer.data = kept.flatten
  counted : pieces.flatten.length < UInt64.size → buffer.accounted = pieces.flatten.length

theorem tracks_empty (regular : Regular policy .generous buffer) (empty : buffer.data = [])
    (nothing : buffer.truncated = 0) : Tracks policy [] buffer := by
  refine ⟨regular, ⟨[], List.Sublist.refl _, empty⟩, fun _ => ?_⟩
  rw [accounted, size, empty, nothing]
  rfl

theorem Tracks.append (tracks : Tracks policy pieces buffer) (alloc : Allocator) (bytes : Bytes) :
    Tracks policy (pieces ++ [bytes]) (buffer.appendUnder alloc bytes) := by
  obtain ⟨kept, sublist, data⟩ := tracks.whole
  refine ⟨(stable_regular_generous policy alloc).append tracks.toRegular, ?_, fun few => ?_⟩
  · rcases data_append_cases alloc buffer bytes with added | dropped
    · refine ⟨kept ++ [bytes], sublist.append (List.Sublist.refl _), ?_⟩
      rw [added, data, List.flatten_append, List.flatten_singleton]
    · exact ⟨kept, sublist.trans (List.sublist_append_left _ _), dropped.trans data⟩
  · rw [List.flatten_append, List.flatten_singleton, List.length_append] at few ⊢
    have before : buffer.accounted = pieces.flatten.length := tracks.counted (by omega)
    rw [accounted_append (by rw [before]; exact few), before]

theorem Tracks.perform (tracks : Tracks policy pieces buffer) (alloc : Allocator)
    (operation : Operation) :
    Tracks policy (operation.offer pieces) (buffer.perform alloc operation) := by
  cases operation with
  | append bytes => exact tracks.append alloc bytes
  | reset =>
      have regular := (stable_regular_generous policy alloc).reset tracks.toRegular
      exact tracks_empty regular rfl rfl
  | release => exact tracks_empty tracks.toRegular.release rfl rfl

theorem Tracks.performAll (tracks : Tracks policy pieces buffer)
    (history : List (Allocator × Operation)) :
    Tracks policy (history.foldl (fun offered step => step.2.offer offered) pieces)
      (buffer.performAll history) := by
  induction history generalizing buffer pieces with
  | nil => exact tracks
  | cons step history ih => exact ih (tracks.perform step.1 step.2)

theorem tracks_performAll (policy : CapacityPolicy) (first : Allocator)
    (history : List (Allocator × Operation)) :
    Tracks policy (offered history) ((newUnder first policy).performAll history) := by
  have regular : Regular policy .generous (newUnder first policy) :=
    (stable_regular_generous policy first).reset (regular_unallocated policy .generous)
  exact (tracks_empty regular rfl rfl).performAll history

/-- After any history, whatever the allocator has refused: the bytes lie within the capacity and the
    capacity within the ceiling; the contents are some of the appends since the buffer was last
    emptied, each as a whole; and the bytes held and those counted as truncated are all that was
    appended since. The next append either keeps its bytes or leaves contents and capacity as they
    are, and no step of its arithmetic wraps around. -/
theorem performAll_intact (policy : CapacityPolicy) (first : Allocator)
    (history : List (Allocator × Operation)) :
    let buffer := (newUnder first policy).performAll history
    let total := (offered history).flatten.length
    buffer.size ≤ buffer.capacity.toNat ∧ buffer.capacity ≤ policy.maxSize ∧
      (∃ kept : List Bytes, kept.Sublist (offered history) ∧ buffer.data = kept.flatten) ∧
      (total < UInt64.size → buffer.size + buffer.truncated.toNat = total) ∧
      ∀ (alloc : Allocator) (bytes : Bytes),
        (bytes ≠ [] → buffer.Keeps alloc bytes ∨ buffer.Drops alloc bytes) ∧
        buffer.capacityForChecked? alloc bytes = some (buffer.capacityFor alloc bytes) ∧
        (total + bytes.length < UInt64.size →
          buffer.size + bytes.length < UInt64.size ∧
            buffer.truncated.toNat + bytes.length < UInt64.size) := by
  intro buffer total
  have tracks : Tracks policy (offered history) buffer := tracks_performAll policy first history
  refine ⟨tracks.held, tracks.toRegular.capacity_le_maxSize, tracks.whole, tracks.counted, ?_⟩
  intro alloc bytes
  refine ⟨keeps_or_drops alloc buffer, capacityForChecked?_eq tracks.held alloc bytes, ?_⟩
  intro few
  have counted : buffer.size + buffer.truncated.toNat = total := tracks.counted (by omega)
  omega

/-- The first chunk and a larger capacity are refused, and later granted; of what is appended after
    the reset, the second piece does not fit. -/
theorem performAll_intact_of_refusals :
    let refusing : Allocator := fun _ => false
    let pieces := [utf8 "abc", List.replicate 30 120, utf8 "defghijk"]
    let history : List (Allocator × Operation) :=
      [(refusing, .append (utf8 "lost")), (.generous, .reset)] ++
        pieces.map fun bytes => (.generous, .append bytes)
    let buffer := (newUnder refusing ⟨8, 20⟩).performAll history
    offered history = pieces ∧ pieces.flatten.length < UInt64.size ∧
      buffer.data = utf8 "abcdefghijk" ∧ buffer.capacity = 16 ∧
      buffer.size + buffer.truncated.toNat = pieces.flatten.length ∧
      utf8 "123456" ≠ [] ∧ buffer.Drops .generous (utf8 "123456") := by
  intro refusing pieces history buffer
  obtain ⟨-, -, -, counted, next⟩ := performAll_intact ⟨8, 20⟩ refusing history
  have pieces_eq : offered history = pieces := by decide +kernel
  have few : pieces.flatten.length < UInt64.size := by decide +kernel
  obtain ⟨data, capacity⟩ : buffer.data = utf8 "abcdefghijk" ∧ buffer.capacity = 16 := by
    decide +kernel
  have filled : utf8 "123456" ≠ [] := by decide +kernel
  rw [pieces_eq] at counted
  refine ⟨pieces_eq, few, data, capacity, counted few, filled, ?_⟩
  refine ((next .generous (utf8 "123456")).1 filled).resolve_left fun keeps => ?_
  have longer : (buffer.appendUnder .generous (utf8 "123456")).data ≠
      buffer.data ++ utf8 "123456" := by decide +kernel
  exact longer keeps.data

end ScriptBridge.OutputBuffer
