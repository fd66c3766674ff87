import ScriptBridge.Proofs.Capture.Merging

/-! # Bytes accounted for

A buffer accounts for each byte that is appended to it: it holds the byte, or counts it as truncated.
A capture does not. A merge empties the body, and with it the count of what the body had dropped;
and what a full stream refuses is counted nowhere.
-/

namespace ScriptBridge

namespace OutputBuffer

def accounted (buffer : OutputBuffer) : Nat :=
  buffer.size + buffer.truncated.toNat

theorem accounted_reset (alloc : Allocator) (buffer : OutputBuffer) :
    (buffer.resetUnder alloc).accounted = 0 :=
  rfl

theorem policy_append (alloc : Allocator) (buffer : OutputBuffer) (bytes : Bytes) :
    (buffer.appendUnder alloc bytes).policy = buffer.policy := by
  rcases append_cases alloc buffer bytes with ⟨-, same⟩ | ⟨_, -, kept⟩ | dropped
  · rw [same]
  · rw [kept]
  · rw [dropped, truncate]

theorem policy_foldl_append (alloc : Allocator) (buffer : OutputBuffer) (pieces : List Bytes) :
    (pieces.foldl (appendUnder alloc) buffer).policy = buffer.policy := by
  induction pieces generalizing buffer with
  | nil => rfl
  | cons bytes pieces ih => exact (ih _).trans (policy_append alloc buffer bytes)

theorem accounted_truncate {buffer : OutputBuffer} {bytes : Bytes}
    (few : buffer.accounted + bytes.length < UInt64.size) :
    (buffer.truncate bytes).accounted = buffer.accounted + bytes.length := by
  have words : UInt64.size = 2 ^ 64 := rfl
  have length : (UInt64.ofNat bytes.length).toNat = bytes.length :=
    UInt64.toNat_ofNat_of_lt' (by omega)
  rw [accounted] at few
  -- all bytes together are fewer than the counter can tell
  have counted : (buffer.truncated + UInt64.ofNat bytes.length).toNat =
      buffer.truncated.toNat + bytes.length := by
    rw [UInt64.toNat_add, length]
    exact Nat.mod_eq_of_lt (by omega)
  rw [accounted, truncate, counted, accounted, Nat.add_assoc]
  rfl

theorem accounted_append {alloc : Allocator} {buffer : OutputBuffer} {bytes : Bytes}
    (few : buffer.accounted + bytes.length < UInt64.size) :
    (buffer.appendUnder alloc bytes).accounted = buffer.accounted + bytes.length := by
  rcases append_cases alloc buffer bytes with ⟨rfl, same⟩ | ⟨_, -, kept⟩ | dropped
  · rw [same]
    rfl
  · simp only [kept, accounted, size, List.length_append]
    omega
  · rw [dropped, accounted_truncate few]

theorem accounted_foldl_append {alloc : Allocator} {buffer : OutputBuffer} {pieces : List Bytes}
    (few : buffer.accounted + pieces.flatten.length < UInt64.size) :
    (pieces.foldl (appendUnder alloc) buffer).accounted =
      buffer.accounted + pieces.flatten.length := by
  induction pieces generalizing buffer with
  | nil => rfl
  | cons bytes pieces ih =>
      simp only [List.flatten_cons, List.length_append] at few ⊢
      have first : (buffer.appendUnder alloc bytes).accounted = buffer.accounted + bytes.length :=
        accounted_append (by omega)
      rw [List.foldl_cons, ih (by omega), first, Nat.add_assoc]

end OutputBuffer

/-- Of the writes to a stream, those that it takes if it has so much room: each takes its own from
    what is left, and one that finds too little takes none. -/
def admitted (room : Nat) : List Bytes → List Bytes
  | [] => []
  | bytes :: more =>
    if bytes.length ≤ room then bytes :: admitted (room - bytes.length) more else admitted room more

theorem admitted_sublist (room : Nat) (offered : List Bytes) :
    (admitted room offered).Sublist offered := by
  induction offered generalizing room with
  | nil => exact List.Sublist.refl _
  | cons bytes more ih =>
      rw [admitted]
      split
      · exact (ih _).cons_cons bytes
      · exact (ih room).cons bytes

theorem length_admitted_le (room : Nat) (offered : List Bytes) :
    (admitted room offered).flatten.length ≤ room := by
  induction offered generalizing room with
  | nil => exact Nat.zero_le room
  | cons bytes more ih =>
      rw [admitted]
      split
      · have rest := ih (room - bytes.length)
        rw [List.flatten_cons, List.length_append]
        omega
      · exact ih room

theorem admitted_eq_self {room : Nat} {offered : List Bytes}
    (fits : offered.flatten.length ≤ room) : admitted room offered = offered := by
  induction offered generalizing room with
  | nil => rfl
  | cons bytes more ih =>
      rw [List.flatten_cons, List.length_append] at fits
      have first : bytes.length ≤ room := by omega
      rw [admitted, if_pos first, ih (by omega)]

theorem admitted_append (room : Nat) (offered more : List Bytes) :
    admitted room (offered ++ more) = admitted room offered ++
      admitted (room - (admitted room offered).flatten.length) more := by
  induction offered generalizing room with
  | nil => rfl
  | cons bytes offered ih =>
      by_cases fits : bytes.length ≤ room
      · simp only [List.cons_append, admitted, fits, if_true, ih, List.flatten_cons,
          List.length_append, Nat.sub_sub]
      · simp only [List.cons_append, admitted, fits, if_false, ih]

namespace Capture

variable {alloc : Allocator} {capture : Capture} {begun : List Bytes} {kept : List Emission}

namespace Records

theorem exists_emit (records : Records capture begun kept) {room : Nat}
    (left : (stdoutWrites kept).flatten.length + room = capture.body.policy.maxSize.toNat)
    (alloc : Allocator) (emission : Emission) :
    ∃ all, Records (capture.emitUnder alloc emission) begun all ∧
      stdoutWrites all = stdoutWrites kept ++ admitted room (stdoutWrites [emission]) ∧
      (capture.emitUnder alloc emission).body =
        (bodyWrites [emission]).foldl (OutputBuffer.appendUnder alloc) capture.body := by
  have silent : admitted room [] = [] := rfl
  cases emission with
  | body bytes =>
      rcases records.emit alloc (.body bytes) with added | dropped
      · refine ⟨_, added, ?_, rfl⟩
        simp [stdoutWrites, silent]
      · refine ⟨_, dropped, ?_, rfl⟩
        simp [stdoutWrites, silent]
  | header line =>
      refine ⟨_, records.header, ?_, rfl⟩
      simp [stdoutWrites, silent]
  | stdout bytes =>
      have offered : stdoutWrites [.stdout bytes] = [bytes] := rfl
      rw [offered, admitted]
      by_cases fits : bytes.length ≤ room
      · have within : (stdoutWrites kept).flatten.length + bytes.length ≤
            capture.body.policy.maxSize.toNat := by omega
        refine ⟨_, records.writeStdout alloc within, ?_, ?_⟩
        · rw [if_pos fits, stdoutWrites, List.flatMap_append]
          rfl
        · simp only [emitUnder, writeStdoutUnder, records.stdout, size_stdout, within, if_true]
          rfl
      · have full : capture.body.policy.maxSize.toNat <
            (stdoutWrites kept).flatten.length + bytes.length := by omega
        rw [if_neg fits, emitUnder, records.writeStdout_eq_self alloc full]
        exact ⟨kept, records, (List.append_nil _).symm, rfl⟩

theorem exists_emitAll (records : Records capture begun kept) {room : Nat}
    (left : (stdoutWrites kept).flatten.length + room = capture.body.policy.maxSize.toNat)
    (alloc : Allocator) (emissions : List Emission) :
    ∃ all, Records (capture.emitAllUnder alloc emissions) begun all ∧
      stdoutWrites all = stdoutWrites kept ++ admitted room (stdoutWrites emissions) ∧
      (capture.emitAllUnder alloc emissions).body =
        (bodyWrites emissions).foldl (OutputBuffer.appendUnder alloc) capture.body := by
  induction emissions generalizing capture kept room with
  | nil => exact ⟨kept, records, by simp [stdoutWrites, admitted], rfl⟩
  | cons emission emissions ih =>
      obtain ⟨now, recorded, taken, body⟩ := records.exists_emit left alloc emission
      have same : (capture.emitUnder alloc emission).body.policy = capture.body.policy := by
        rw [body]
        exact OutputBuffer.policy_foldl_append alloc capture.body _
      have below := length_admitted_le room (stdoutWrites [emission])
      have next : (stdoutWrites now).flatten.length +
          (room - (admitted room (stdoutWrites [emission])).flatten.length) =
            (capture.emitUnder alloc emission).body.policy.maxSize.toNat := by
        rw [same, taken, List.flatten_append, List.length_append]
        omega
      obtain ⟨all, records, rest, bodies⟩ := ih recorded next
      refine ⟨all, records, ?_, ?_⟩
      · have both : stdoutWrites (emission :: emissions) =
            stdoutWrites [emission] ++ stdoutWrites emissions := by simp [stdoutWrites]
        rw [rest, taken, List.append_assoc, both, admitted_append]
      · have both : bodyWrites (emission :: emissions) =
            bodyWrites [emission] ++ bodyWrites emissions := by simp [bodyWrites]
        rw [both, List.foldl_append, ← body]
        exact bodies

/-- Once a merge is over, the body accounts for what was offered to it and what the stream took,
    less what it had dropped until then, if the stream took anything. -/
theorem accounted_mergeStdout (records : Records capture [] kept) (alloc : Allocator)
    (few : capture.body.accounted + (stdoutWrites kept).flatten.length < UInt64.size) :
    (capture.mergeStdoutUnder alloc).body.accounted +
        (if stdoutWrites kept = [] then 0 else capture.body.truncated.toNat) =
      capture.body.accounted + (stdoutWrites kept).flatten.length := by
  have total := length_writes kept
  have size := records.size_body
  rw [mergeStdoutUnder, records.mergeStdout?_eq alloc, Option.getD_some]
  by_cases silent : stdoutWrites kept = []
  · simp only [silent, if_true, List.flatten_nil, List.length_nil]
  · have pieces : ((turns [] kept).map List.flatten).flatten = (writes kept).flatten := by
      rw [← List.flatten_flatten, flatten_turns, List.nil_append]
    have start := OutputBuffer.accounted_reset alloc capture.body
    rw [OutputBuffer.accounted] at few
    simp only [List.flatten_nil, List.length_nil, Nat.zero_add] at size
    simp only [silent, if_false]
    rw [OutputBuffer.accounted_foldl_append (by rw [start, pieces]; omega), start, pieces,
      OutputBuffer.accounted]
    omega

end Records

/-- Whether the bytes of the body and those that it counts as truncated are all that was written. -/
def Accounts (capture : Capture) (emissions : List Emission) : Prop :=
  capture.body.accounted = (writes emissions).flatten.length

instance (capture : Capture) (emissions : List Emission) : Decidable (capture.Accounts emissions) :=
  inferInstanceAs (Decidable (_ = _))

/-- After a merge the body accounts for what was written to it and what the stream took, less what it
    had dropped before the stream was put in. So it accounts for everything exactly if the stream took
    all that it was offered, and if either the body had dropped nothing or the stream was offered
    nothing. -/
theorem accounts_mergeStdout_iff (alloc : Allocator) (capture : Capture)
    (emissions : List Emission) (few : (writes emissions).flatten.length < UInt64.size) :
    let ceiling := capture.body.policy.maxSize.toNat
    let taken := admitted ceiling (stdoutWrites emissions)
    let before := (capture.resetUnder alloc).openStdout.emitAllUnder alloc emissions
    let after := before.mergeStdoutUnder alloc
    after.body.accounted + (if taken = [] then 0 else before.body.truncated.toNat) =
        (bodyWrites emissions).flatten.length + taken.flatten.length ∧
      (after.Accounts emissions ↔
        (stdoutWrites emissions).flatten.length ≤ ceiling ∧
          (before.body.truncated = 0 ∨ stdoutWrites emissions = [])) := by
  intro ceiling taken before after
  have total := length_writes emissions
  have some_taken : taken.flatten.length ≤ (stdoutWrites emissions).flatten.length :=
    (admitted_sublist ceiling (stdoutWrites emissions)).flatten.length_le
  have below : taken.flatten.length ≤ ceiling := length_admitted_le ceiling _
  have opened : Records (capture.resetUnder alloc).openStdout [] [] := .openStdout rfl
  have empty : (capture.resetUnder alloc).openStdout.body.accounted = 0 :=
    OutputBuffer.accounted_reset alloc capture.body
  obtain ⟨all, records, stream, body⟩ :=
    opened.exists_emitAll (Nat.zero_add ceiling) alloc emissions
  have stream : stdoutWrites all = taken := stream
  have records : Records before [] all := records
  have bodies : before.body.accounted = (bodyWrites emissions).flatten.length := by
    rw [body, OutputBuffer.accounted_foldl_append (by omega), empty, Nat.zero_add]
  have merged : after.body.accounted +
      (if taken = [] then 0 else before.body.truncated.toNat) =
        (bodyWrites emissions).flatten.length + taken.flatten.length := by
    have counted := records.accounted_mergeStdout alloc (by rw [stream]; omega)
    rwa [stream, bodies] at counted
  refine ⟨merged, ?_⟩
  rw [Accounts]
  constructor
  · intro accounts
    by_cases silent : taken = []
    · rw [if_pos silent, silent, List.flatten_nil, List.length_nil] at merged
      have fits : (stdoutWrites emissions).flatten.length ≤ ceiling := by omega
      exact ⟨fits, Or.inr ((admitted_eq_self fits).symm.trans silent)⟩
    · rw [if_neg silent] at merged
      have kept : before.body.truncated.toNat = 0 := by omega
      exact ⟨by omega, Or.inl (UInt64.toNat_inj.mp kept)⟩
  · rintro ⟨fits, kept⟩
    have whole : taken = stdoutWrites emissions := admitted_eq_self fits
    have nothing : (if taken = [] then 0 else before.body.truncated.toNat) = 0 := by
      rcases kept with kept | silent
      · rw [kept, UInt64.toNat_zero, ite_self]
      · rw [if_pos (whole.trans silent)]
    rw [nothing, whole] at merged
    omega

theorem accounts_of_two_streams :
    let emissions := [Emission.body (utf8 "a"), .stdout (utf8 "1"), .body (utf8 "b")]
    (writes emissions).flatten.length < UInt64.size ∧
      ((Capture.new ⟨16, 64⟩).reset.openStdout.emitAll emissions).mergeStdout.Accounts
        emissions := by
  intro emissions
  have few : (writes emissions).flatten.length < UInt64.size := by decide +kernel
  have accounts := (accounts_mergeStdout_iff .addressable (.new ⟨16, 64⟩) emissions few).2
  exact ⟨few, accounts.mpr (by decide +kernel)⟩

/-- The body drops ten bytes and counts them, and the merge forgets the count. -/
theorem not_accounts_of_dropped_before_merge :
    let emissions := [Emission.body (List.replicate 60 120), .body (utf8 "0123456789"),
      .stdout (utf8 "!")]
    let before := (Capture.new ⟨16, 64⟩).reset.openStdout.emitAll emissions
    (writes emissions).flatten.length = 71 ∧ before.body.truncated = 10 ∧
      before.mergeStdout.body.size = 61 ∧ before.mergeStdout.body.truncated = 0 ∧
      ¬ before.mergeStdout.Accounts emissions := by
  decide +kernel

end Capture

end ScriptBridge
