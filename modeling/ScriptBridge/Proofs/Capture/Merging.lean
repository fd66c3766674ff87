import Mathlib.Data.List.Flatten
import ScriptBridge.Proofs.Capture.Keeping

/-! # Two streams in one body

While the standard output stream of a capture is open, the body and the segments of the stream are
kept apart. The offsets of the segments lead back to one list of writes: what the capture keeps, it
keeps as if it had recorded that list. A merge takes the list turn by turn, and so brings each write
back to its place, whole or not at all.
-/

namespace ScriptBridge

namespace Emission

/-- What an emission writes, to either stream. -/
@[simp]
def written : Emission → List Bytes
  | body bytes => [bytes]
  | header _ => []
  | stdout bytes => [bytes]

@[simp]
def bodyWritten : Emission → List Bytes
  | body bytes => [bytes]
  | header _ => []
  | stdout _ => []

@[simp]
def stdoutWritten : Emission → List Bytes
  | body _ => []
  | header _ => []
  | stdout bytes => [bytes]

theorem bodyWritten_sublist_written (emission : Emission) :
    emission.bodyWritten.Sublist emission.written := by
  cases emission with
  | body bytes => exact List.Sublist.refl _
  | header line => exact List.Sublist.refl _
  | stdout bytes => exact List.nil_sublist _

end Emission

/-- The writes among emissions, in order. -/
def writes (emissions : List Emission) : List Bytes :=
  emissions.flatMap Emission.written

def bodyWrites (emissions : List Emission) : List Bytes :=
  emissions.flatMap Emission.bodyWritten

def stdoutWrites (emissions : List Emission) : List Bytes :=
  emissions.flatMap Emission.stdoutWritten

theorem writes_append (emissions more : List Emission) :
    writes (emissions ++ more) = writes emissions ++ writes more :=
  List.flatMap_append

theorem bodyWrites_sublist_writes (emissions : List Emission) :
    (bodyWrites emissions).Sublist (writes emissions) :=
  List.Sublist.flatMap_right emissions fun emission _ => emission.bodyWritten_sublist_written

theorem length_writes (emissions : List Emission) :
    (writes emissions).flatten.length =
      (bodyWrites emissions).flatten.length + (stdoutWrites emissions).flatten.length := by
  induction emissions with
  | nil => rfl
  | cons emission emissions ih =>
      simp only [writes, bodyWrites, stdoutWrites] at ih ⊢
      cases emission with
      | body bytes =>
          simp only [List.flatMap_cons, Emission.written, Emission.bodyWritten,
            Emission.stdoutWritten, List.flatten_append, List.length_append, ih]
          simp only [List.flatten_nil, List.length_nil]
          omega
      | header line => exact ih
      | stdout bytes =>
          simp only [List.flatMap_cons, Emission.written, Emission.bodyWritten,
            Emission.stdoutWritten, List.flatten_append, List.length_append, ih]
          simp only [List.flatten_nil, List.length_nil]
          omega

namespace Capture

variable {policy : CapacityPolicy} {alloc : Allocator} {capture : Capture} {begun : List Bytes}
  {kept : List Emission}

/-- The segments of the writes to the stream, where the body has `offset` bytes at first. -/
def segmentsFrom (offset : Nat) : List Emission → List StdoutSegment
  | [] => []
  | .body bytes :: emissions => segmentsFrom (offset + bytes.length) emissions
  | .header _ :: emissions => segmentsFrom offset emissions
  | .stdout bytes :: emissions => ⟨offset, bytes⟩ :: segmentsFrom offset emissions

/-- The writes by turns: one turn are the writes to the body between two to the stream, and each
    write to the stream is a turn of its own. The first turn has begun with `begun`. -/
def turns (begun : List Bytes) : List Emission → List (List Bytes)
  | [] => [begun]
  | .body bytes :: emissions => turns (begun ++ [bytes]) emissions
  | .header _ :: emissions => turns begun emissions
  | .stdout bytes :: emissions => begun :: [bytes] :: turns [] emissions

theorem flatten_turns (begun : List Bytes) (emissions : List Emission) :
    (turns begun emissions).flatten = begun ++ writes emissions := by
  induction emissions generalizing begun with
  | nil => simp [turns, writes]
  | cons emission emissions ih =>
      cases emission with
      | body bytes => simpa [turns, writes] using ih (begun ++ [bytes])
      | header line => exact ih begun
      | stdout bytes => simpa [turns, writes] using ih []

theorem segmentsFrom_append (offset : Nat) (emissions more : List Emission) :
    segmentsFrom offset (emissions ++ more) =
      segmentsFrom offset emissions ++
        segmentsFrom (offset + (bodyWrites emissions).flatten.length) more := by
  induction emissions generalizing offset with
  | nil => simp [segmentsFrom, bodyWrites]
  | cons emission emissions ih =>
      cases emission with
      | body bytes =>
          simpa [segmentsFrom, bodyWrites, Nat.add_assoc] using ih (offset + bytes.length)
      | header line => exact ih offset
      | stdout bytes => exact congrArg (⟨offset, bytes⟩ :: ·) (ih offset)

theorem bytes_segmentsFrom (offset : Nat) (emissions : List Emission) :
    (segmentsFrom offset emissions).map (·.bytes) = stdoutWrites emissions := by
  induction emissions generalizing offset with
  | nil => rfl
  | cons emission emissions ih =>
      cases emission with
      | body bytes => exact ih (offset + bytes.length)
      | header line => exact ih offset
      | stdout bytes => exact congrArg (bytes :: ·) (ih offset)

theorem slice?_append (before part behind : Bytes) :
    slice? (before ++ part ++ behind) before.length (before.length + part.length) = some part := by
  simp [slice?, List.take_append]

theorem pieces?_segmentsFrom (before : Bytes) (begun : List Bytes) (emissions : List Emission) :
    pieces? (before ++ begun.flatten ++ (bodyWrites emissions).flatten) before.length
      (segmentsFrom (before.length + begun.flatten.length) emissions) =
        some ((turns begun emissions).map List.flatten) := by
  -- `before` has been taken, and no segment has followed `begun` yet
  induction emissions generalizing before begun with
  | nil =>
      have turn := slice?_append before begun.flatten []
      simp only [List.append_nil] at turn
      have body : (bodyWrites []).flatten = [] := rfl
      simp only [body, List.append_nil, segmentsFrom, pieces?, List.length_append, turn, turns,
        bind, Option.bind_some, List.map_cons, List.map_nil]
  | cons emission emissions ih =>
      cases emission with
      | body bytes =>
          simpa [segmentsFrom, turns, bodyWrites, Nat.add_assoc] using ih before (begun ++ [bytes])
      | header line => exact ih before begun
      | stdout bytes =>
          have body : bodyWrites (.stdout bytes :: emissions) = bodyWrites emissions := rfl
          have turn := slice?_append before begun.flatten (bodyWrites emissions).flatten
          have rest := ih (before ++ begun.flatten) []
          simp only [List.flatten_nil, List.append_nil, List.length_nil, Nat.add_zero,
            List.length_append] at rest
          have within : min (before.length + begun.flatten.length)
              (before ++ begun.flatten ++ (bodyWrites emissions).flatten).length =
                before.length + begun.flatten.length := by
            simp only [List.length_append]
            omega
          simp only [body, segmentsFrom, pieces?, within, turn, rest, turns, bind,
            Option.bind_some, List.map_cons, List.flatten_cons, List.flatten_nil, List.append_nil]

/-- What a capture with an open stream holds, if the stream was opened when the body held the writes
    of `begun` and if of all emissions since then those of `kept` were kept. -/
structure Records (capture : Capture) (begun : List Bytes) (kept : List Emission) : Prop where
  body : capture.body.data = begun.flatten ++ (bodyWrites kept).flatten
  stdout : capture.stdout = some ⟨segmentsFrom begun.flatten.length kept⟩

namespace Records

theorem openStdout (holds : capture.body.data = begun.flatten) :
    Records capture.openStdout begun [] :=
  ⟨holds.trans (List.append_nil _).symm, rfl⟩

theorem size_body (records : Records capture begun kept) :
    capture.body.size = begun.flatten.length + (bodyWrites kept).flatten.length := by
  rw [OutputBuffer.size, records.body, List.length_append]

theorem size_stdout (begun : List Bytes) (kept : List Emission) :
    StdoutStream.size ⟨segmentsFrom begun.flatten.length kept⟩ =
      (stdoutWrites kept).flatten.length := by
  rw [StdoutStream.size, List.flatMap_def, bytes_segmentsFrom]

theorem write {bytes : Bytes} (records : Records capture begun kept)
    (added : (capture.body.appendUnder alloc bytes).data = capture.body.data ++ bytes) :
    Records (capture.writeUnder alloc bytes) begun (kept ++ [.body bytes]) where
  body := by
    rw [writeUnder, added, records.body]
    simp [bodyWrites]
  stdout := by
    rw [writeUnder, records.stdout, segmentsFrom_append]
    simp [segmentsFrom]

theorem header {line : String} (records : Records capture begun kept) :
    Records (capture.headerUnder alloc line) begun (kept ++ [.header line]) where
  body := by
    rw [headerUnder, records.body]
    simp [bodyWrites]
  stdout := by
    rw [headerUnder, records.stdout, segmentsFrom_append]
    simp [segmentsFrom]

theorem writeStdout (records : Records capture begun kept) (alloc : Allocator) {bytes : Bytes}
    (fits : (stdoutWrites kept).flatten.length + bytes.length ≤
      capture.body.policy.maxSize.toNat) :
    Records (capture.writeStdoutUnder alloc bytes) begun (kept ++ [.stdout bytes]) := by
  simp only [writeStdoutUnder, records.stdout, size_stdout, fits, if_true]
  refine ⟨?_, ?_⟩
  · rw [records.body]
    simp [bodyWrites]
  · rw [segmentsFrom_append]
    simp [segmentsFrom, records.size_body]

theorem writeStdout_eq_self (records : Records capture begun kept) (alloc : Allocator)
    {bytes : Bytes} (full :
      capture.body.policy.maxSize.toNat < (stdoutWrites kept).flatten.length + bytes.length) :
    capture.writeStdoutUnder alloc bytes = capture := by
  have large := Nat.not_le_of_lt full
  simp only [writeStdoutUnder, records.stdout, size_stdout, large, if_false]

theorem emit (records : Records capture begun kept) (alloc : Allocator) (emission : Emission) :
    Records (capture.emitUnder alloc emission) begun (kept ++ [emission]) ∨
      Records (capture.emitUnder alloc emission) begun kept := by
  cases emission with
  | body bytes =>
      rcases OutputBuffer.data_append_cases alloc capture.body bytes with added | dropped
      · exact Or.inl (records.write added)
      · exact Or.inr ⟨dropped.trans records.body, records.stdout⟩
  | header line => exact Or.inl records.header
  | stdout bytes =>
      rcases Nat.lt_or_ge capture.body.policy.maxSize.toNat
        ((stdoutWrites kept).flatten.length + bytes.length) with full | fits
      · rw [emitUnder, records.writeStdout_eq_self alloc full]
        exact Or.inr records
      · exact Or.inl (records.writeStdout alloc fits)

theorem emitAll (records : Records capture begun kept) (alloc : Allocator)
    (emissions : List Emission) :
    ∃ more : List Emission, more.Sublist emissions ∧
      Records (capture.emitAllUnder alloc emissions) begun (kept ++ more) := by
  induction emissions generalizing capture kept with
  | nil => exact ⟨[], List.Sublist.refl _, by simpa [emitAllUnder] using records⟩
  | cons emission emissions ih =>
      rcases records.emit alloc emission with added | dropped
      · obtain ⟨more, sublist, records⟩ := ih added
        exact ⟨emission :: more, sublist.cons_cons emission, by simpa [emitAllUnder] using records⟩
      · obtain ⟨more, sublist, records⟩ := ih dropped
        exact ⟨more, sublist.cons emission, records⟩

theorem emit_of_holds (records : Records capture begun kept)
    (ready : OutputBuffer.Ready policy alloc capture.body)
    (smaller : CapacityPolicy.GrantsSmaller alloc) {emission : Emission}
    (holds : policy.Holds alloc
      (begun.flatten.length + (writes (kept ++ [emission])).flatten.length)) :
    Records (capture.emitUnder alloc emission) begun (kept ++ [emission]) := by
  have total := length_writes kept
  rw [writes_append, List.flatten_append, List.length_append] at holds
  cases emission with
  | body bytes =>
      have bytes_eq : (writes [.body bytes]).flatten = bytes := List.flatten_singleton
      rw [bytes_eq] at holds
      have room : policy.Holds alloc (capture.body.size + bytes.length) := by
        rw [records.size_body]
        exact holds.mono (by omega)
      exact records.write (ready.data_append_of_holds smaller room)
  | header line => exact records.header
  | stdout bytes =>
      have bytes_eq : (writes [.stdout bytes]).flatten = bytes := List.flatten_singleton
      rw [bytes_eq] at holds
      have below := holds.le_maxSize
      apply records.writeStdout alloc
      rw [ready.policy_eq]
      omega

theorem emitAll_of_holds (records : Records capture begun kept)
    (ready : Both (OutputBuffer.Ready policy alloc) capture)
    (smaller : CapacityPolicy.GrantsSmaller alloc) (emissions : List Emission)
    (holds : policy.Holds alloc
      (begun.flatten.length + (writes (kept ++ emissions)).flatten.length)) :
    Records (capture.emitAllUnder alloc emissions) begun (kept ++ emissions) := by
  induction emissions generalizing capture kept with
  | nil => simpa [emitAllUnder] using records
  | cons emission emissions ih =>
      rw [List.append_cons] at holds ⊢
      have less : (writes (kept ++ [emission])).flatten.length ≤
          (writes (kept ++ [emission] ++ emissions)).flatten.length := by
        rw [writes_append _ emissions, List.flatten_append, List.length_append]
        exact Nat.le_add_right _ _
      have room : policy.Holds alloc
          (begun.flatten.length + (writes (kept ++ [emission])).flatten.length) :=
        holds.mono (by omega)
      have added := records.emit_of_holds ready.body smaller room
      exact ih added (ready.emit (OutputBuffer.stable_ready policy alloc) emission) holds

theorem mergeStdout?_eq (records : Records capture begun kept) (alloc : Allocator) :
    capture.mergeStdoutUnder? alloc = some { capture with
      body :=
        if stdoutWrites kept = [] then capture.body
        else ((turns begun kept).map List.flatten).foldl (OutputBuffer.appendUnder alloc)
          (capture.body.resetUnder alloc)
      stdout := none } := by
  have segments := bytes_segmentsFrom begun.flatten.length kept
  have pieces := pieces?_segmentsFrom [] begun kept
  simp only [List.nil_append, List.length_nil, Nat.zero_add] at pieces
  simp only [mergeStdoutUnder?, records.stdout, records.body]
  cases stream : segmentsFrom begun.flatten.length kept with
  | nil =>
      rw [stream, List.map_nil] at segments
      simp only [← segments, if_true]
  | cons segment more =>
      rw [stream] at segments pieces
      have some_written : stdoutWrites kept ≠ [] := by
        rw [← segments]
        exact List.cons_ne_nil _ _
      simp only [pieces, bind, Option.bind_some, some_written, if_false]

/-- A merge leaves the writes that were kept, or some of them, each as a whole and in order. -/
theorem exists_mergeStdout? (records : Records capture begun kept) (alloc : Allocator) :
    ∃ merged, capture.mergeStdoutUnder? alloc = some merged ∧
      ∃ whole : List Bytes, whole.Sublist (begun ++ writes kept) ∧
        merged.body.data = whole.flatten := by
  refine ⟨_, records.mergeStdout?_eq alloc, ?_⟩
  by_cases silent : stdoutWrites kept = []
  · simp only [silent, if_true]
    refine ⟨begun ++ bodyWrites kept, ?_, by rw [records.body, List.flatten_append]⟩
    exact (bodyWrites_sublist_writes kept).append_left begun
  · simp only [silent, if_false]
    obtain ⟨pieces, sublist, data⟩ := OutputBuffer.exists_sublist_foldl_append alloc
      (capture.body.resetUnder alloc) ((turns begun kept).map List.flatten)
    obtain ⟨whole, within, rfl⟩ := List.sublist_map_iff.mp sublist
    refine ⟨whole.flatten, ?_, ?_⟩
    · rw [← flatten_turns]
      exact within.flatten
    · rw [data, List.flatten_flatten]
      rfl

theorem mergeStdout?_of_holds (records : Records capture begun kept)
    (regular : OutputBuffer.Regular policy alloc capture.body)
    (smaller : CapacityPolicy.GrantsSmaller alloc)
    (holds : policy.Holds alloc (begun ++ writes kept).flatten.length) {merged : Capture}
    (merges : capture.mergeStdoutUnder? alloc = some merged) :
    merged.body.data = (begun ++ writes kept).flatten := by
  rw [records.mergeStdout?_eq alloc, Option.some.injEq] at merges
  subst merges
  by_cases silent : stdoutWrites kept = []
  · have total := length_writes kept
    rw [silent, List.flatten_nil, List.length_nil, Nat.add_zero] at total
    simp only [silent, if_true]
    rw [records.body, List.flatten_append,
      (bodyWrites_sublist_writes kept).flatten.eq_of_length total.symm]
  · have pieces : ((turns begun kept).map List.flatten).flatten = (begun ++ writes kept).flatten := by
      rw [← List.flatten_flatten, flatten_turns]
    have room : policy.Holds alloc ((capture.body.resetUnder alloc).size +
        ((turns begun kept).map List.flatten).flatten.length) := by
      rw [pieces]
      exact holds.mono (Nat.le_of_eq (Nat.zero_add _))
    simp only [silent, if_false]
    rw [regular.reset.data_foldl_append_of_holds smaller _ room, pieces]
    rfl

end Records

inductive Operation where
  | emit (emission : Emission)
  | openStdout
  | mergeStdout
  | reset
  | release
  /-- Composes a response, which only reads the capture. -/
  | compose
  deriving Repr, DecidableEq

/-- What an operation makes of a capture, unless it takes a slice of the body out of range. -/
def perform? (alloc : Allocator) (capture : Capture) : Operation → Option Capture
  | .emit emission => some (capture.emitUnder alloc emission)
  | .openStdout => some capture.openStdout
  | .mergeStdout => capture.mergeStdoutUnder? alloc
  | .reset => some (capture.resetUnder alloc)
  | .release => some capture.release
  | .compose => some capture

/-- Performs operations in order, each with what the allocator grants at the time. -/
def performAll? (capture : Capture) (history : List (Allocator × Operation)) : Option Capture :=
  history.foldlM (fun capture step => capture.perform? step.1 step.2) capture

/-- What holds of a capture at any time: its buffers keep to the policy, and an open stream has been
    recorded since it was opened. -/
structure Sound (policy : CapacityPolicy) (capture : Capture) : Prop where
  regular : Both (OutputBuffer.Regular policy .generous) capture
  recorded : capture.stdout = none ∨ ∃ begun kept, Records capture begun kept

theorem sound_new (policy : CapacityPolicy) (alloc : Allocator) :
    Sound policy (.newUnder alloc policy) := by
  have regular : OutputBuffer.Regular policy .generous (.newUnder alloc policy) :=
    (OutputBuffer.stable_regular_generous policy alloc).reset
      (OutputBuffer.regular_unallocated policy .generous)
  exact ⟨⟨regular, regular⟩, Or.inl rfl⟩

theorem stdout_emit_of_none (closed : capture.stdout = none) (emission : Emission) :
    (capture.emitUnder alloc emission).stdout = none := by
  cases emission with
  | body bytes => exact closed
  | header line => exact closed
  | stdout bytes =>
      simp only [emitUnder, writeStdoutUnder, closed]
      exact closed

theorem Sound.perform? (sound : Sound policy capture) (alloc : Allocator) (operation : Operation) :
    ∃ next, capture.perform? alloc operation = some next ∧ Sound policy next := by
  have stable := OutputBuffer.stable_regular_generous policy alloc
  obtain ⟨regular, recorded⟩ := sound
  cases operation with
  | emit emission =>
      refine ⟨_, rfl, regular.emit stable emission, ?_⟩
      rcases recorded with closed | ⟨begun, kept, records⟩
      · exact Or.inl (stdout_emit_of_none closed emission)
      · rcases records.emit alloc emission with added | dropped
        · exact Or.inr ⟨_, _, added⟩
        · exact Or.inr ⟨_, _, dropped⟩
  | openStdout =>
      have records : Records capture.openStdout [capture.body.data] [] :=
        .openStdout (List.flatten_singleton).symm
      exact ⟨_, rfl, regular.openStdout, Or.inr ⟨_, _, records⟩⟩
  | mergeStdout =>
      have merged := regular.mergeStdout stable
      rcases recorded with closed | ⟨begun, kept, records⟩
      · exact ⟨capture, by simp only [Capture.perform?, mergeStdoutUnder?, closed], regular,
          Or.inl closed⟩
      · have merges := records.mergeStdout?_eq alloc
        rw [mergeStdoutUnder, merges] at merged
        exact ⟨_, merges, merged, Or.inl rfl⟩
  | reset => exact ⟨_, rfl, regular.reset stable, Or.inl rfl⟩
  | release => exact ⟨_, rfl, ⟨regular.body.release, regular.fields.release⟩, Or.inl rfl⟩
  | compose => exact ⟨_, rfl, regular, recorded⟩

theorem Sound.performAll? (sound : Sound policy capture)
    (history : List (Allocator × Operation)) :
    ∃ last, capture.performAll? history = some last ∧ Sound policy last := by
  induction history generalizing capture with
  | nil => exact ⟨capture, rfl, sound⟩
  | cons step history ih =>
      obtain ⟨next, performed, sound⟩ := sound.perform? step.1 step.2
      obtain ⟨last, rest, sound⟩ := ih sound
      refine ⟨last, ?_, sound⟩
      rw [Capture.performAll?, List.foldlM_cons, performed]
      exact rest

/-- No operations on a capture take a slice of its body out of range. After a reset, what a merge
    leaves in the body are the writes of both streams in the order in which they were made, each
    of them whole or not at all, within the ceiling; and none is missing if the whole chunks within
    the ceiling hold them all and the allocator grants them. -/
theorem mergeStdout_keeps_writes (policy : CapacityPolicy) (first : Allocator)
    (history : List (Allocator × Operation)) :
    ∃ capture, (newUnder first policy).performAll? history = some capture ∧
      ∀ (alloc : Allocator) (emissions : List Emission), ∃ merged,
        ((capture.resetUnder alloc).openStdout.emitAllUnder alloc emissions).mergeStdoutUnder?
          alloc = some merged ∧
        (∃ whole : List Bytes, whole.Sublist (writes emissions) ∧ merged.body.data = whole.flatten) ∧
        merged.body.size ≤ policy.maxSize.toNat ∧
        (alloc = .generous → policy.chunkSize ≤ policy.maxSize →
          (writes emissions).flatten.length ≤
            policy.chunkSize.toNat * (policy.maxSize.toNat / policy.chunkSize.toNat) →
          merged.body.data = (writes emissions).flatten) := by
  obtain ⟨capture, performed, sound⟩ := (sound_new policy first).performAll? history
  refine ⟨capture, performed, ?_⟩
  intro alloc emissions
  have stable := OutputBuffer.stable_regular_generous policy alloc
  have opened : Records (capture.resetUnder alloc).openStdout [] [] := .openStdout rfl
  have regular := ((sound.regular.reset stable).openStdout.emitAll stable emissions).mergeStdout
    stable
  obtain ⟨kept, sublist, records⟩ := opened.emitAll alloc emissions
  obtain ⟨merged, merges, whole, within, data⟩ := records.exists_mergeStdout? alloc
  rw [mergeStdoutUnder, merges] at regular
  refine ⟨merged, merges, ⟨whole, ?_, data⟩, regular.body.size_le_maxSize, ?_⟩
  · exact within.trans (sublist.flatMap Emission.written)
  · rintro rfl small total
    have room := CapacityPolicy.holds_whole_chunks small total
    have ready : Both (OutputBuffer.Ready policy .generous)
        (capture.resetUnder .generous).openStdout :=
      ⟨sound.regular.body.reset, sound.regular.fields.reset⟩
    have complete := opened.emitAll_of_holds ready CapacityPolicy.grantsSmaller_generous emissions
      (by simpa using room)
    have last := ready.emitAll (OutputBuffer.stable_ready policy .generous) emissions
    exact complete.mergeStdout?_of_holds last.body.toRegular CapacityPolicy.grantsSmaller_generous
      room merges

/-- Output that waits in an open stream is gone after a reset, and new writes are merged in order. -/
theorem mergeStdout_keeps_two_streams :
    let earlier := [(Allocator.generous, Operation.openStdout),
      (.generous, .emit (.stdout (utf8 "old")))]
    let emissions := [Emission.body (utf8 "a"), .stdout (utf8 "1"), .header "X-Id: 7",
      .body (utf8 "b"), .stdout (utf8 "2"), .stdout (utf8 "3"), .body (utf8 "c")]
    (writes emissions).flatten.length ≤ 16 * (64 / 16) ∧
      ∃ capture merged, (newUnder .generous ⟨16, 64⟩).performAll? earlier = some capture ∧
        ((capture.resetUnder .generous).openStdout.emitAllUnder .generous
          emissions).mergeStdoutUnder? .generous = some merged ∧
        merged.body.data = utf8 "a1b23c" := by
  intro earlier emissions
  have total : (writes emissions).flatten.length ≤ 16 * (64 / 16) := by decide +kernel
  obtain ⟨capture, performed, merges⟩ := mergeStdout_keeps_writes ⟨16, 64⟩ .generous earlier
  obtain ⟨merged, result, -, -, complete⟩ := merges .generous emissions
  have data := complete rfl (by decide) total
  have joined : (writes emissions).flatten = utf8 "a1b23c" := by decide +kernel
  exact ⟨total, capture, merged, performed, result, data.trans joined⟩

end Capture

end ScriptBridge
