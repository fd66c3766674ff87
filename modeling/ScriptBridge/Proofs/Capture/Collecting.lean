import ScriptBridge.Proofs.Capture.Headers
import ScriptBridge.Proofs.Capture.Throttling

/-! # What a capture collects

A capture hands every emission on to one of its parts, and no part sees what the others get. Its
headers are those of an assembler that observes the header lines alone; and while nothing goes to
standard output, its body is that of a buffer to which the writes alone are appended.
-/

namespace ScriptBridge

/-- The header line that is emitted, if it is one. -/
def Emission.lines : Emission → List String
  | .header line => [line]
  | _ => []

/-- The header lines among emissions, in order and with status lines. -/
def headerLines (emissions : List Emission) : List String :=
  emissions.flatMap Emission.lines

theorem headerLines_append (emissions more : List Emission) :
    headerLines (emissions ++ more) = headerLines emissions ++ headerLines more :=
  List.flatMap_append

theorem bodyWrites_append (emissions more : List Emission) :
    bodyWrites (emissions ++ more) = bodyWrites emissions ++ bodyWrites more :=
  List.flatMap_append

theorem stdoutWrites_append (emissions more : List Emission) :
    stdoutWrites (emissions ++ more) = stdoutWrites emissions ++ stdoutWrites more :=
  List.flatMap_append

namespace HeaderBlock

/-- The bytes of a header line in a block of headers. -/
def entry (line : String) : Bytes :=
  utf8 line ++ lineEnd

theorem entry_injective : Function.Injective entry := by
  intro line other same
  have bytes : utf8 line = utf8 other := List.append_cancel_right same
  rw [← Utf8.decodeLossy_encode line, ← Utf8.decodeLossy_encode other]
  exact congrArg Utf8.decodeLossy bytes

theorem flatten_map_entry (lines : List String) :
    (lines.map entry).flatten = fieldBlock lines := by
  rw [fieldBlock, ← List.flatMap_def]
  rfl

/-- What a header line takes up in a block of headers: a status line takes up nothing. -/
def taken (line : String) : Bytes :=
  match HeaderKind.ofLine line with
  | .status => []
  | .field => entry line

theorem taken_of_field {line : String} (field : HeaderKind.ofLine line = .field) :
    taken line = entry line := by
  rw [taken, field]

theorem priced_entry_taken : Priced entry taken := by
  intro line
  rw [taken]
  cases HeaderKind.ofLine line with
  | status => exact Or.inr rfl
  | field => exact Or.inl rfl

theorem fields_foldl_observe (lines : List String) (block : HeaderBlock) :
    (lines.foldl observe block).fields = (lines.map taken).foldl OutputBuffer.append block.fields := by
  induction lines generalizing block with
  | nil => rfl
  | cons line lines ih =>
      have first : (block.observe line).fields = block.fields.append (taken line) := by
        simp only [observe, observeUnder, taken]
        cases HeaderKind.ofLine line <;> rfl
      rw [List.foldl_cons, ih, first]
      rfl

/-- A cap does not refuse the status line that counts, which is the last one, if there is one. -/
def CapPassesStatus (cap : Nat) (lines : List String) : Prop :=
  ∀ before line after, lines = before ++ line :: after → HeaderKind.ofLine line = .status →
    (∀ later ∈ after, HeaderKind.ofLine later = .field) →
      Passes cap (before.map entry) (entry line)

theorem capPassesStatus_of_within {cap : Nat} {lines : List String}
    (within : (fieldBlock lines).length ≤ cap) : CapPassesStatus cap lines := by
  rintro before line after rfl - -
  apply passes_of_within
  rw [← flatten_map_entry, List.map_append, List.map_cons, List.flatten_append, List.flatten_cons,
    List.length_append, List.length_append] at within
  omega

end HeaderBlock

/-- The last status line among header lines. -/
def statusAmong (lines : List String) : Option String :=
  (lines.filter fun line => HeaderKind.ofLine line = .status).getLast?

theorem lastStatus_eq (emissions : List Emission) :
    lastStatus emissions =
      (statusAmong (headerLines emissions)).getD HeaderBlock.defaultStatus := by
  have statuses : emissions.filterMap Emission.status? =
      (headerLines emissions).filter fun line => HeaderKind.ofLine line = .status := by
    induction emissions with
    | nil => rfl
    | cons emission emissions ih =>
        rw [headerLines, List.flatMap_cons, List.filter_append, ← headerLines, ← ih,
          List.filterMap_cons]
        cases emission with
        | body bytes => rfl
        | stdout bytes => rfl
        | header line =>
            simp only [Emission.status?, Emission.lines]
            cases kind : HeaderKind.ofLine line <;> simp [kind]
  rw [lastStatus, statuses, statusAmong]

theorem HeaderKind.ne_status_iff {kind : HeaderKind} : kind ≠ .status ↔ kind = .field := by
  cases kind <;> simp

theorem statusAmong_eq_none_iff {lines : List String} :
    statusAmong lines = none ↔ ∀ line ∈ lines, HeaderKind.ofLine line = .field := by
  simp only [statusAmong, List.getLast?_eq_none_iff, List.filter_eq_nil_iff, decide_eq_true_eq,
    ← HeaderKind.ne_status_iff]

theorem statusAmong_eq_some_iff {lines : List String} {line : String} :
    statusAmong lines = some line ↔ HeaderKind.ofLine line = .status ∧
      ∃ before after, lines = before ++ line :: after ∧
        ∀ later ∈ after, HeaderKind.ofLine later = .field := by
  simp only [statusAmong, List.getLast?_filter, List.find?_eq_some_iff_append, decide_eq_true_eq,
    Bool.not_eq_eq_eq_not, Bool.not_true, decide_eq_false_iff_not, List.reverse_eq_append_iff,
    List.reverse_cons, List.append_assoc, List.singleton_append, ← HeaderKind.ne_status_iff]
  refine and_congr_right fun _ => ⟨?_, ?_⟩
  · rintro ⟨after, before, split, later⟩
    exact ⟨before.reverse, after.reverse, split, fun line member =>
      later line (List.mem_reverse.mp member)⟩
  · rintro ⟨before, after, split, later⟩
    refine ⟨after.reverse, before.reverse, ?_, fun line member =>
      later line (List.mem_reverse.mp member)⟩
    rw [List.reverse_reverse, List.reverse_reverse, split]

theorem sublist_of_passed {cap : Nat} {lines kept : List String}
    (passed : kept.map HeaderBlock.entry = admitted cap (lines.map HeaderBlock.entry)) :
    kept.Sublist lines := by
  obtain ⟨rest, some_lines, same⟩ := List.sublist_map_iff.mp
    (passed ▸ admitted_sublist cap (lines.map HeaderBlock.entry))
  rw [List.map_inj_right fun _ _ same => HeaderBlock.entry_injective same] at same
  rwa [same]

/-- If a cap does not refuse the status line that counts, it still counts behind the cap. -/
theorem statusAmong_eq_of_passed {cap : Nat} {lines kept : List String}
    (passed : kept.map HeaderBlock.entry = admitted cap (lines.map HeaderBlock.entry))
    (passes : HeaderBlock.CapPassesStatus cap lines) : statusAmong kept = statusAmong lines := by
  cases counts : statusAmong lines with
  | none =>
      rw [statusAmong_eq_none_iff] at counts ⊢
      exact fun line member => counts line ((sublist_of_passed passed).subset member)
  | some line =>
      obtain ⟨kind, before, after, rfl, later⟩ := statusAmong_eq_some_iff.mp counts
      have room := passes before line after rfl kind later
      rw [Passes] at room
      rw [List.map_append, List.map_cons, admitted_append, admitted, if_pos (by omega),
        List.map_eq_append_iff] at passed
      obtain ⟨earlier, rest, rfl, -, passed⟩ := passed
      obtain ⟨first, rest, rfl, same, passed⟩ := List.map_eq_cons_iff.mp passed
      obtain rfl := HeaderBlock.entry_injective same
      refine statusAmong_eq_some_iff.mpr ⟨kind, earlier, rest, rfl, fun next member => ?_⟩
      exact later next ((sublist_of_passed passed).subset member)

theorem bodyWrites_eq_writes {emissions : List Emission} (silent : stdoutWrites emissions = []) :
    bodyWrites emissions = writes emissions := by
  induction emissions with
  | nil => rfl
  | cons emission emissions ih =>
      simp only [stdoutWrites, List.flatMap_cons, List.append_eq_nil_iff] at silent
      obtain ⟨first, rest⟩ := silent
      have same : emission.bodyWritten = emission.written := by
        cases emission with
        | body bytes => rfl
        | header line => rfl
        | stdout bytes => simp at first
      rw [bodyWrites, List.flatMap_cons, same, writes, List.flatMap_cons]
      exact congrArg _ (ih rest)

namespace Capture

theorem headers_emitAll (capture : Capture) (emissions : List Emission) :
    (capture.emitAll emissions).headers =
      (headerLines emissions).foldl HeaderBlock.observe capture.headers := by
  induction emissions generalizing capture with
  | nil => rfl
  | cons emission emissions ih =>
      have first : (capture.emitUnder .addressable emission).headers =
          emission.lines.foldl HeaderBlock.observe capture.headers := by
        cases emission with
        | body bytes => rfl
        | header line => rfl
        | stdout bytes => exact headers_writeStdout capture bytes
      rw [headerLines, List.flatMap_cons, List.foldl_append, ← headerLines, ← first]
      exact ih _

theorem statusLine_emitAll (capture : Capture) (emissions : List Emission) :
    (capture.reset.openStdout.emitAll emissions).mergeStdout.headers.statusLine =
      lastStatus emissions := by
  have status := status_emitAll .addressable emissions capture.reset.openStdout
  simp only [mergeStdout, headers_mergeStdout, emitAll, HeaderBlock.statusLine, status, lastStatus]
  exact congrArg (Option.getD · _) (Option.or_none ..)

theorem body_emitAll_of_silent (capture : Capture) {emissions : List Emission}
    (silent : stdoutWrites emissions = []) :
    (capture.reset.openStdout.emitAll emissions).mergeStdout.body =
      (bodyWrites emissions).foldl OutputBuffer.append capture.body.reset := by
  have opened : Records capture.reset.openStdout [] [] := .openStdout rfl
  obtain ⟨all, records, stream, body⟩ :=
    opened.exists_emitAll (Nat.zero_add _) .addressable emissions
  have nothing : stdoutWrites all = [] := by
    rw [stream, silent]
    rfl
  rw [mergeStdout, mergeStdoutUnder, emitAll, records.mergeStdout?_eq, Option.getD_some]
  simp only [nothing, if_true]
  exact body

end Capture

end ScriptBridge
