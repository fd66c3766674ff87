import ScriptBridge.Capture.Context
import ScriptBridge.Proofs.Capture.Growth

/-! # What a capture keeps

Whether an append is kept depends on the bytes held and on the policy, and not on the capacity that
earlier invocations left: a buffer that was reset can grow to whatever any buffer of its policy
can hold. Captures that were reset therefore stay alike under the same emissions.
-/

namespace ScriptBridge

namespace OutputBuffer

variable {policy : CapacityPolicy} {alloc : Allocator} {buffer other : OutputBuffer}

/-- A buffer of a policy whose capacity is one that the policy leads to. -/
structure Regular (policy : CapacityPolicy) (alloc : Allocator) (buffer : OutputBuffer) : Prop where
  policy_eq : buffer.policy = policy
  reached : policy.Reaches alloc buffer.capacity
  held : buffer.size ≤ buffer.capacity.toNat

/-- A regular buffer with the first chunk that it can have. -/
structure Ready (policy : CapacityPolicy) (alloc : Allocator) (buffer : OutputBuffer) : Prop
    extends Regular policy alloc buffer where
  first : alloc policy.initialCapacity = true → policy.initialCapacity ≤ buffer.capacity

theorem regular_unallocated (policy : CapacityPolicy) (alloc : Allocator) :
    Regular policy alloc (unallocated policy) :=
  ⟨rfl, Or.inl rfl, Nat.zero_le _⟩

theorem Regular.release (regular : Regular policy alloc buffer) :
    Regular policy alloc buffer.release :=
  ⟨regular.policy_eq, Or.inl rfl, Nat.zero_le _⟩

theorem Regular.truncate (regular : Regular policy alloc buffer) (bytes : Bytes) :
    Regular policy alloc (buffer.truncate bytes) :=
  ⟨regular.policy_eq, regular.reached, regular.held⟩

theorem Regular.reset (regular : Regular policy alloc buffer) :
    Ready policy alloc (buffer.resetUnder alloc) := by
  obtain ⟨rfl, reached, -⟩ := regular
  by_cases grows : buffer.capacity < buffer.policy.initialCapacity ∧
      alloc buffer.policy.initialCapacity = true
  · have capacity : (buffer.resetUnder alloc).capacity = buffer.policy.initialCapacity := by
      simp only [resetUnder, grows, and_self, if_true]
    refine ⟨⟨rfl, ?_, Nat.zero_le _⟩, fun _ => ?_⟩
    · rw [capacity]
      exact CapacityPolicy.reaches_initialCapacity grows.2
    · rw [capacity]
      exact UInt64.le_refl _
  · have capacity : (buffer.resetUnder alloc).capacity = buffer.capacity := by
      simp only [resetUnder, grows, if_false]
    refine ⟨⟨rfl, ?_, Nat.zero_le _⟩, fun granted => ?_⟩
    · rw [capacity]
      exact reached
    · rw [capacity]
      exact UInt64.not_lt.mp fun below => grows ⟨below, granted⟩

theorem capacityFor_spec {bytes : Bytes} {capacity : UInt64}
    (regular : Regular policy alloc buffer)
    (gets : buffer.capacityFor alloc bytes = some capacity) :
    policy.Reaches alloc capacity ∧ buffer.capacity ≤ capacity ∧
      buffer.size + bytes.length ≤ capacity.toNat := by
  obtain ⟨rfl, reached, -⟩ := regular
  simp only [capacityFor, bind, Option.bind_eq_some_iff] at gets
  obtain ⟨required, isRequired, gets⟩ := gets
  rw [Word.ofNat?_eq_some_iff] at isRequired
  by_cases enough : required ≤ buffer.capacity
  · simp only [enough, if_true, Option.some.injEq] at gets
    subst gets
    rw [isRequired]
    exact ⟨reached, UInt64.le_refl _, UInt64.le_iff_toNat_le.mp enough⟩
  · simp only [enough, if_false, Option.bind_eq_some_iff, Option.ite_none_right_eq_some,
      Option.some.injEq] at gets
    obtain ⟨grown, grows, granted, rfl⟩ := gets
    obtain ⟨above, holds⟩ := CapacityPolicy.le_growTo grows
    rw [isRequired]
    exact ⟨CapacityPolicy.reaches_growTo reached grows granted, above,
      UInt64.le_iff_toNat_le.mp holds⟩

/-- Whether a buffer can come to all capacities that its policy leads to: it has the first of them, or
    it grows in whole chunks from any of them. -/
def Able (policy : CapacityPolicy) (alloc : Allocator) (buffer : OutputBuffer) : Prop :=
  policy.chunkSize ≤ policy.maxSize ∨
    (alloc policy.initialCapacity = true → policy.initialCapacity ≤ buffer.capacity)

theorem Ready.able (ready : Ready policy alloc buffer) : Able policy alloc buffer :=
  Or.inr ready.first

/-- An append to a buffer that can grow gets a capacity exactly if the policy leads to one that holds
    all bytes. -/
theorem isSome_capacityFor_iff (smaller : CapacityPolicy.GrantsSmaller alloc) (bytes : Bytes)
    (regular : Regular policy alloc buffer) (able : Able policy alloc buffer) :
    (buffer.capacityFor alloc bytes).isSome ↔
      policy.Holds alloc (buffer.size + bytes.length) := by
  constructor
  · intro gets
    obtain ⟨capacity, gets⟩ := Option.isSome_iff_exists.mp gets
    obtain ⟨reached, -, holds⟩ := capacityFor_spec regular gets
    exact ⟨capacity, reached, holds⟩
  · intro holds
    obtain ⟨rfl, reached, -⟩ := regular
    have fits : buffer.size + bytes.length < UInt64.size := by
      obtain ⟨capacity, -, above⟩ := holds
      exact Nat.lt_of_le_of_lt above capacity.toNat_lt_size
    have total : Word.ofNat? (buffer.size + bytes.length) =
        some (UInt64.ofNat (buffer.size + bytes.length)) := by
      simp only [Word.ofNat?, fits, if_true]
    rw [Word.ofNat?_eq_some_iff.mp total] at holds
    simp only [capacityFor, total, bind, Option.bind_some]
    by_cases enough : UInt64.ofNat (buffer.size + bytes.length) ≤ buffer.capacity
    · simp only [enough, if_true, Option.isSome_some]
    · obtain ⟨grown, grows, granted⟩ :=
        CapacityPolicy.exists_growTo smaller reached able (UInt64.not_le.mp enough) holds
      simp only [enough, if_false, grows, Option.bind_some, granted, if_true, Option.isSome_some]

theorem append_cases (alloc : Allocator) (buffer : OutputBuffer) (bytes : Bytes) :
    (bytes = [] ∧ buffer.appendUnder alloc bytes = buffer) ∨
      (∃ capacity, buffer.capacityFor alloc bytes = some capacity ∧
        buffer.appendUnder alloc bytes =
          { buffer with data := buffer.data ++ bytes, capacity := capacity }) ∨
      buffer.appendUnder alloc bytes = buffer.truncate bytes := by
  cases bytes with
  | nil => exact Or.inl ⟨rfl, rfl⟩
  | cons b bytes =>
      cases gets : buffer.capacityFor alloc (b :: bytes) with
      | none => exact Or.inr (Or.inr (by simp [appendUnder, gets]))
      | some capacity => exact Or.inr (Or.inl ⟨capacity, rfl, by simp [appendUnder, gets]⟩)

theorem data_append_cases (alloc : Allocator) (buffer : OutputBuffer) (bytes : Bytes) :
    (buffer.appendUnder alloc bytes).data = buffer.data ++ bytes ∨
      (buffer.appendUnder alloc bytes).data = buffer.data := by
  rcases append_cases alloc buffer bytes with ⟨-, same⟩ | ⟨_, -, kept⟩ | dropped
  · exact Or.inr (by rw [same])
  · exact Or.inl (by rw [kept])
  · exact Or.inr (by rw [dropped, truncate])

theorem Regular.grow {bytes : Bytes} {capacity : UInt64} (regular : Regular policy alloc buffer)
    (gets : buffer.capacityFor alloc bytes = some capacity) :
    Regular policy alloc { buffer with data := buffer.data ++ bytes, capacity := capacity } := by
  obtain ⟨reached, -, holds⟩ := capacityFor_spec regular gets
  exact ⟨regular.policy_eq, reached, by simpa [size] using holds⟩

theorem Regular.append {bytes : Bytes} (regular : Regular policy alloc buffer) :
    Regular policy alloc (buffer.appendUnder alloc bytes) ∧
      buffer.capacity ≤ (buffer.appendUnder alloc bytes).capacity := by
  rcases append_cases alloc buffer bytes with ⟨-, same⟩ | ⟨capacity, gets, kept⟩ | dropped
  · rw [same]
    exact ⟨regular, UInt64.le_refl _⟩
  · rw [kept]
    exact ⟨regular.grow gets, (capacityFor_spec regular gets).2.1⟩
  · rw [dropped]
    exact ⟨regular.truncate bytes, UInt64.le_refl _⟩

theorem Ready.append {bytes : Bytes} (ready : Ready policy alloc buffer) :
    Ready policy alloc (buffer.appendUnder alloc bytes) where
  toRegular := ready.toRegular.append.1
  first := fun granted => UInt64.le_trans (ready.first granted) ready.toRegular.append.2

theorem Regular.data_append_of_holds {bytes : Bytes} (regular : Regular policy alloc buffer)
    (able : Able policy alloc buffer) (smaller : CapacityPolicy.GrantsSmaller alloc)
    (holds : policy.Holds alloc (buffer.size + bytes.length)) :
    (buffer.appendUnder alloc bytes).data = buffer.data ++ bytes := by
  cases bytes with
  | nil => simp [appendUnder]
  | cons b bytes =>
      rw [← isSome_capacityFor_iff smaller _ regular able, Option.isSome_iff_exists] at holds
      obtain ⟨capacity, gets⟩ := holds
      simp [appendUnder, gets]

theorem Regular.data_append_of_not_holds {bytes : Bytes} (regular : Regular policy alloc buffer)
    (able : Able policy alloc buffer) (smaller : CapacityPolicy.GrantsSmaller alloc)
    (full : ¬policy.Holds alloc (buffer.size + bytes.length)) :
    (buffer.appendUnder alloc bytes).data = buffer.data := by
  cases bytes with
  | nil => simp [appendUnder]
  | cons b bytes =>
      rw [← isSome_capacityFor_iff smaller _ regular able, Option.not_isSome_iff_eq_none] at full
      simp [appendUnder, full, OutputBuffer.truncate]

theorem Ready.data_append_of_holds {bytes : Bytes} (ready : Ready policy alloc buffer)
    (smaller : CapacityPolicy.GrantsSmaller alloc)
    (holds : policy.Holds alloc (buffer.size + bytes.length)) :
    (buffer.appendUnder alloc bytes).data = buffer.data ++ bytes :=
  ready.toRegular.data_append_of_holds ready.able smaller holds

theorem Ready.data_append_of_not_holds {bytes : Bytes} (ready : Ready policy alloc buffer)
    (smaller : CapacityPolicy.GrantsSmaller alloc)
    (full : ¬policy.Holds alloc (buffer.size + bytes.length)) :
    (buffer.appendUnder alloc bytes).data = buffer.data :=
  ready.toRegular.data_append_of_not_holds ready.able smaller full

theorem Ready.data_append_eq {bytes : Bytes} (smaller : CapacityPolicy.GrantsSmaller alloc)
    (ready : Ready policy alloc buffer) (ready' : Ready policy alloc other)
    (same : buffer.data = other.data) :
    (buffer.appendUnder alloc bytes).data = (other.appendUnder alloc bytes).data := by
  have size_eq : other.size = buffer.size := congrArg List.length same.symm
  by_cases holds : policy.Holds alloc (buffer.size + bytes.length)
  · rw [ready.data_append_of_holds smaller holds, same,
      ready'.data_append_of_holds smaller (by rwa [size_eq])]
  · rw [ready.data_append_of_not_holds smaller holds, same,
      ready'.data_append_of_not_holds smaller (by rwa [size_eq])]

/-- A property of buffers that appends and resets keep. -/
structure Stable (alloc : Allocator) (P : OutputBuffer → Prop) : Prop where
  append {buffer : OutputBuffer} {bytes : Bytes} : P buffer → P (buffer.appendUnder alloc bytes)
  reset {buffer : OutputBuffer} : P buffer → P (buffer.resetUnder alloc)

theorem stable_regular (policy : CapacityPolicy) (alloc : Allocator) :
    Stable alloc (Regular policy alloc) :=
  ⟨fun regular => regular.append.1, fun regular => regular.reset.toRegular⟩

theorem stable_ready (policy : CapacityPolicy) (alloc : Allocator) :
    Stable alloc (Ready policy alloc) :=
  ⟨fun ready => ready.append, fun ready => ready.toRegular.reset⟩

theorem capacityFor_generous {bytes : Bytes} {capacity : UInt64}
    (gets : buffer.capacityFor alloc bytes = some capacity) :
    buffer.capacityFor .generous bytes = some capacity := by
  simp only [capacityFor, bind, Option.bind_eq_some_iff] at gets ⊢
  obtain ⟨required, isRequired, gets⟩ := gets
  refine ⟨required, isRequired, ?_⟩
  by_cases enough : required ≤ buffer.capacity
  · simpa only [enough, if_true] using gets
  · simp only [enough, if_false, Option.bind_eq_some_iff, Option.ite_none_right_eq_some] at gets ⊢
    obtain ⟨grown, grows, -, same⟩ := gets
    exact ⟨grown, grows, rfl, same⟩

/-- A buffer keeps to its policy, whatever the allocators that it meets refuse. -/
theorem stable_regular_generous (policy : CapacityPolicy) (alloc : Allocator) :
    Stable alloc (Regular policy .generous) where
  append := by
    intro buffer bytes regular
    rcases append_cases alloc buffer bytes with ⟨-, same⟩ | ⟨capacity, gets, kept⟩ | dropped
    · rw [same]
      exact regular
    · rw [kept]
      exact regular.grow (capacityFor_generous gets)
    · rw [dropped]
      exact regular.truncate bytes
  reset := by
    intro buffer regular
    by_cases granted : alloc buffer.policy.initialCapacity = true
    · have generous : buffer.resetUnder alloc = buffer.resetUnder .generous := by
        simp only [resetUnder, granted, Allocator.generous]
      rw [generous]
      exact regular.reset.toRegular
    · simp only [resetUnder, granted, Bool.false_eq_true, and_false, if_false]
      exact ⟨regular.policy_eq, regular.reached, Nat.zero_le _⟩

theorem Regular.size_le_maxSize (regular : Regular policy .generous buffer) :
    buffer.size ≤ policy.maxSize.toNat :=
  CapacityPolicy.Holds.le_maxSize ⟨buffer.capacity, regular.reached, regular.held⟩

theorem Stable.foldl_append {P : OutputBuffer → Prop} (stable : Stable alloc P) (holds : P buffer)
    (pieces : List Bytes) : P (pieces.foldl (appendUnder alloc) buffer) := by
  induction pieces generalizing buffer with
  | nil => exact holds
  | cons bytes pieces ih => exact ih (stable.append holds)

theorem Ready.data_foldl_append_eq (smaller : CapacityPolicy.GrantsSmaller alloc)
    (ready : Ready policy alloc buffer) (ready' : Ready policy alloc other)
    (same : buffer.data = other.data) (pieces : List Bytes) :
    (pieces.foldl (appendUnder alloc) buffer).data =
      (pieces.foldl (appendUnder alloc) other).data := by
  induction pieces generalizing buffer other with
  | nil => exact same
  | cons bytes pieces ih =>
      exact ih ready.append ready'.append (ready.data_append_eq smaller ready' same)

theorem exists_sublist_foldl_append (alloc : Allocator) (buffer : OutputBuffer)
    (pieces : List Bytes) :
    ∃ kept : List Bytes, kept.Sublist pieces ∧
      (pieces.foldl (appendUnder alloc) buffer).data = buffer.data ++ kept.flatten := by
  induction pieces generalizing buffer with
  | nil => exact ⟨[], List.Sublist.refl _, by simp⟩
  | cons bytes pieces ih =>
      obtain ⟨kept, sublist, data⟩ := ih (buffer.appendUnder alloc bytes)
      rw [List.foldl_cons, data]
      rcases data_append_cases alloc buffer bytes with added | dropped
      · exact ⟨bytes :: kept, sublist.cons_cons bytes, by simp [added]⟩
      · exact ⟨kept, sublist.cons bytes, by rw [dropped]⟩

theorem Ready.data_foldl_append_of_holds (ready : Ready policy alloc buffer)
    (smaller : CapacityPolicy.GrantsSmaller alloc) (pieces : List Bytes)
    (holds : policy.Holds alloc (buffer.size + pieces.flatten.length)) :
    (pieces.foldl (appendUnder alloc) buffer).data = buffer.data ++ pieces.flatten := by
  induction pieces generalizing buffer with
  | nil => simp
  | cons bytes pieces ih =>
      simp only [List.flatten_cons, List.length_append] at holds ⊢
      have added : (buffer.appendUnder alloc bytes).data = buffer.data ++ bytes :=
        ready.data_append_of_holds smaller (holds.mono (by omega))
      have size : (buffer.appendUnder alloc bytes).size = buffer.size + bytes.length := by
        simp [OutputBuffer.size, added]
      rw [List.foldl_cons, ih ready.append (by rwa [size, Nat.add_assoc]), added,
        List.append_assoc]

end OutputBuffer

namespace Capture

variable {policy : CapacityPolicy} {capture other : Capture}

/-- A property of both buffers of a capture. -/
structure Both (P : OutputBuffer → Prop) (capture : Capture) : Prop where
  body : P capture.body
  fields : P capture.headers.fields

/-- Both buffers of a capture are regular. -/
abbrev Regular (policy : CapacityPolicy) (capture : Capture) : Prop :=
  Both (OutputBuffer.Regular policy .addressable) capture

/-- Both buffers of a capture are ready. -/
abbrev Ready (policy : CapacityPolicy) (capture : Capture) : Prop :=
  Both (OutputBuffer.Ready policy .addressable) capture

theorem Regular.reset (regular : Regular policy capture) : Ready policy capture.reset :=
  ⟨regular.body.reset, regular.fields.reset⟩

theorem Regular.release (regular : Regular policy capture) : Regular policy capture.release :=
  ⟨regular.body.release, regular.fields.release⟩

theorem regular_new (policy : CapacityPolicy) : Regular policy (.new policy) :=
  ⟨(OutputBuffer.regular_unallocated policy _).reset.toRegular,
    (OutputBuffer.regular_unallocated policy _).reset.toRegular⟩

theorem Ready.regular (ready : Ready policy capture) : Regular policy capture :=
  ⟨ready.body.toRegular, ready.fields.toRegular⟩

namespace Both

variable {alloc : Allocator} {P : OutputBuffer → Prop}

theorem openStdout (both : Both P capture) : Both P capture.openStdout :=
  ⟨both.body, both.fields⟩

theorem reset (stable : OutputBuffer.Stable alloc P) (both : Both P capture) :
    Both P (capture.resetUnder alloc) :=
  ⟨stable.reset both.body, stable.reset both.fields⟩

theorem write (stable : OutputBuffer.Stable alloc P) {bytes : Bytes} (both : Both P capture) :
    Both P (capture.writeUnder alloc bytes) :=
  ⟨stable.append both.body, both.fields⟩

theorem header (stable : OutputBuffer.Stable alloc P) {line : String} (both : Both P capture) :
    Both P (capture.headerUnder alloc line) := by
  refine ⟨both.body, ?_⟩
  cases kind : HeaderKind.ofLine line with
  | status =>
      simp only [Capture.headerUnder, HeaderBlock.observeUnder, kind]
      exact both.fields
  | field =>
      simp only [Capture.headerUnder, HeaderBlock.observeUnder, kind]
      exact stable.append both.fields

theorem writeStdout (stable : OutputBuffer.Stable alloc P) {bytes : Bytes}
    (both : Both P capture) : Both P (capture.writeStdoutUnder alloc bytes) := by
  cases stream : capture.stdout with
  | none =>
      simp only [Capture.writeStdoutUnder, stream]
      exact both.write stable
  | some stdout =>
      simp only [Capture.writeStdoutUnder, stream]
      split
      · exact ⟨both.body, both.fields⟩
      · exact both

theorem emit (stable : OutputBuffer.Stable alloc P) (both : Both P capture)
    (emission : Emission) : Both P (capture.emitUnder alloc emission) := by
  cases emission with
  | body bytes => exact both.write stable
  | header line => exact both.header stable
  | stdout bytes => exact both.writeStdout stable

theorem emitAll (stable : OutputBuffer.Stable alloc P) (both : Both P capture)
    (emissions : List Emission) : Both P (capture.emitAllUnder alloc emissions) := by
  induction emissions generalizing capture with
  | nil => exact both
  | cons emission emissions ih => exact ih (both.emit stable emission)

theorem mergeStdout (stable : OutputBuffer.Stable alloc P) (both : Both P capture) :
    Both P (capture.mergeStdoutUnder alloc) := by
  simp only [Capture.mergeStdoutUnder, mergeStdoutUnder?]
  split
  · exact both
  · exact ⟨both.body, both.fields⟩
  · next segments _ _ =>
      cases pieces? capture.body.data 0 segments with
      | none => exact ⟨both.body, both.fields⟩
      | some pieces => exact ⟨stable.foldl_append (stable.reset both.body) pieces, both.fields⟩

end Both

/-- Ready captures that hold the same: they may differ in capacities and in what they count as
    truncated. -/
structure Alike (policy : CapacityPolicy) (capture other : Capture) : Prop where
  left : Ready policy capture
  right : Ready policy other
  body : capture.body.data = other.body.data
  status : capture.headers.status = other.headers.status
  fields : capture.headers.fields.data = other.headers.fields.data
  stdout : capture.stdout = other.stdout

theorem Regular.reset_alike (regular : Regular policy capture) (regular' : Regular policy other) :
    Alike policy capture.reset other.reset :=
  ⟨regular.reset, regular'.reset, rfl, rfl, rfl, rfl⟩

namespace Alike

theorem openStdout (alike : Alike policy capture other) :
    Alike policy capture.openStdout other.openStdout :=
  ⟨alike.left.openStdout, alike.right.openStdout, alike.body, alike.status, alike.fields, rfl⟩

theorem write {bytes : Bytes} (alike : Alike policy capture other) :
    Alike policy (capture.write bytes) (other.write bytes) :=
  ⟨alike.left.write (OutputBuffer.stable_ready policy _),
    alike.right.write (OutputBuffer.stable_ready policy _),
    alike.left.body.data_append_eq CapacityPolicy.grantsSmaller_addressable alike.right.body
      alike.body,
    alike.status, alike.fields, alike.stdout⟩

theorem header {line : String} (alike : Alike policy capture other) :
    Alike policy (capture.header line) (other.header line) := by
  refine ⟨alike.left.header (OutputBuffer.stable_ready policy _),
    alike.right.header (OutputBuffer.stable_ready policy _), alike.body, ?_, ?_, alike.stdout⟩
  all_goals simp only [Capture.header, headerUnder, HeaderBlock.observeUnder]
  all_goals cases HeaderKind.ofLine line
  · rfl
  · exact alike.status
  · exact alike.fields
  · exact alike.left.fields.data_append_eq CapacityPolicy.grantsSmaller_addressable
      alike.right.fields alike.fields

theorem writeStdout {bytes : Bytes} (alike : Alike policy capture other) :
    Alike policy (capture.writeStdout bytes) (other.writeStdout bytes) := by
  have size_eq : capture.body.size = other.body.size := congrArg List.length alike.body
  have policy_eq : capture.body.policy = other.body.policy :=
    alike.left.body.policy_eq.trans alike.right.body.policy_eq.symm
  have left : Ready policy (capture.writeStdout bytes) :=
    alike.left.writeStdout (OutputBuffer.stable_ready policy _)
  have right : Ready policy (other.writeStdout bytes) :=
    alike.right.writeStdout (OutputBuffer.stable_ready policy _)
  cases stream : capture.stdout with
  | none =>
      simp only [Capture.writeStdout, writeStdoutUnder, stream, ← alike.stdout]
      exact alike.write
  | some stdout =>
      simp only [Capture.writeStdout, writeStdoutUnder, stream, ← alike.stdout, size_eq,
        policy_eq] at left right ⊢
      split
      · next fits =>
          simp only [fits, if_true] at left right
          exact ⟨left, right, alike.body, alike.status, alike.fields, rfl⟩
      · exact alike

theorem emitAll (alike : Alike policy capture other) (emissions : List Emission) :
    Alike policy (capture.emitAll emissions) (other.emitAll emissions) := by
  induction emissions generalizing capture other with
  | nil => exact alike
  | cons emission emissions ih =>
      cases emission with
      | body bytes => exact ih alike.write
      | header line => exact ih alike.header
      | stdout bytes => exact ih alike.writeStdout

theorem mergeStdout (alike : Alike policy capture other) :
    Alike policy capture.mergeStdout other.mergeStdout := by
  have left := alike.left.mergeStdout (OutputBuffer.stable_ready policy _)
  have right := alike.right.mergeStdout (OutputBuffer.stable_ready policy _)
  simp only [Capture.mergeStdout, mergeStdoutUnder, mergeStdoutUnder?, ← alike.stdout,
    ← alike.body] at left right ⊢
  cases stream : capture.stdout with
  | none => exact alike
  | some stdout =>
      obtain ⟨segments⟩ := stdout
      simp only [stream] at left right ⊢
      cases segments with
      | nil => exact ⟨left, right, alike.body, alike.status, alike.fields, rfl⟩
      | cons segment segments =>
          cases merged : pieces? capture.body.data 0 (segment :: segments) with
          | none =>
              simp only [merged] at left right ⊢
              exact ⟨left, right, alike.body, alike.status, alike.fields, rfl⟩
          | some pieces =>
              simp only [merged] at left right ⊢
              exact ⟨left, right,
                alike.left.body.toRegular.reset.data_foldl_append_eq
                  CapacityPolicy.grantsSmaller_addressable alike.right.body.toRegular.reset rfl
                  pieces,
                alike.status, alike.fields, rfl⟩

end Alike

end Capture

end ScriptBridge
