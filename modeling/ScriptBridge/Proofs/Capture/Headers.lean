import ScriptBridge.Proofs.Capture.Keeping
import ScriptBridge.Proofs.Http.Framing

/-! # Captured header lines

Of the header lines that a script emits the last status line counts, and the other lines make up the
block of headers in the order in which they were emitted. What is written to the body or to standard
output in between does not matter.
-/

namespace ScriptBridge

/-- The status line that is emitted, if it is one. -/
def Emission.status? : Emission → Option String
  | .header line => match HeaderKind.ofLine line with
    | .status => some line
    | .field => none
  | _ => none

/-- The header line that is emitted, if it is one and no status line. -/
def Emission.field? : Emission → Option String
  | .header line => match HeaderKind.ofLine line with
    | .status => none
    | .field => some line
  | _ => none

/-- The status line that counts after emissions. -/
def lastStatus (emissions : List Emission) : String :=
  (emissions.filterMap Emission.status?).getLast?.getD HeaderBlock.defaultStatus

/-- The header lines of emissions in order, without status lines. -/
def fieldLines (emissions : List Emission) : List String :=
  emissions.filterMap Emission.field?

theorem HeaderKind.ofLine_eq_status_iff {line : String} :
    HeaderKind.ofLine line = .status ↔ Text.startsWith "HTTP/" line = true := by
  simp only [ofLine]
  split <;> simp_all

theorem Emission.field?_eq_some_iff {emission : Emission} {line : String} :
    emission.field? = some line ↔
      emission = .header line ∧ HeaderKind.ofLine line = .field := by
  cases emission with
  | body bytes => simp [field?]
  | stdout bytes => simp [field?]
  | header text =>
      constructor
      · intro field
        simp only [field?] at field
        cases kind : HeaderKind.ofLine text with
        | status => simp [kind] at field
        | field =>
            obtain rfl : text = line := by simpa [kind] using field
            exact ⟨rfl, kind⟩
      · rintro ⟨eq, kind⟩
        obtain rfl := Emission.header.inj eq
        simp [field?, kind]

namespace Capture

variable {policy : CapacityPolicy} {alloc : Allocator} {capture : Capture}

theorem headers_writeStdout (capture : Capture) (bytes : Bytes) :
    (capture.writeStdoutUnder alloc bytes).headers = capture.headers := by
  simp only [writeStdoutUnder]
  split
  · rfl
  · split <;> rfl

theorem status_emitAll (alloc : Allocator) (emissions : List Emission) (capture : Capture) :
    (capture.emitAllUnder alloc emissions).headers.status =
      (emissions.filterMap Emission.status?).getLast?.or capture.headers.status := by
  induction emissions generalizing capture with
  | nil => rfl
  | cons emission emissions ih =>
      have first : (capture.emitUnder alloc emission).headers.status =
          emission.status?.or capture.headers.status := by
        cases emission with
        | body bytes => rfl
        | header line =>
            simp only [emitUnder, headerUnder, HeaderBlock.observeUnder, Emission.status?]
            cases HeaderKind.ofLine line <;> rfl
        | stdout bytes => exact congrArg HeaderBlock.status (headers_writeStdout capture bytes)
      simp only [emitAllUnder, List.foldl_cons] at ih ⊢
      rw [ih, first]
      cases status : emission.status? with
      | none => simp [status]
      | some line =>
          simp only [List.filterMap_cons, status, List.getLast?_cons, Option.some_or]
          cases (emissions.filterMap Emission.status?).getLast? <;> rfl

theorem fields_emit_of_none {emission : Emission} (none : emission.field? = none) :
    (capture.emitUnder alloc emission).headers.fields = capture.headers.fields := by
  cases emission with
  | body bytes => rfl
  | stdout bytes => exact congrArg HeaderBlock.fields (headers_writeStdout capture bytes)
  | header line =>
      simp only [Emission.field?] at none
      simp only [emitUnder, headerUnder, HeaderBlock.observeUnder]
      cases kind : HeaderKind.ofLine line with
      | status => rfl
      | field => simp [kind] at none

theorem fields_emit_of_some (ready : Ready policy capture) {emission : Emission} {line : String}
    (field : emission.field? = some line)
    (fits : policy.Holds .addressable
      (capture.headers.fields.size + (utf8 line ++ lineEnd).length)) :
    (capture.emitUnder .addressable emission).headers.fields.data =
      capture.headers.fields.data ++ (utf8 line ++ lineEnd) := by
  obtain ⟨rfl, kind⟩ := Emission.field?_eq_some_iff.mp field
  simp only [emitUnder, headerUnder, HeaderBlock.observeUnder, kind]
  exact ready.fields.data_append_of_holds CapacityPolicy.grantsSmaller_addressable fits

theorem fields_emitAll (ready : Ready policy capture) {emissions : List Emission}
    (fits : policy.Holds .addressable
      (capture.headers.fields.size + (fieldBlock (fieldLines emissions)).length)) :
    (capture.emitAllUnder .addressable emissions).headers.fields.data =
      capture.headers.fields.data ++ fieldBlock (fieldLines emissions) := by
  induction emissions generalizing capture with
  | nil => simp [emitAllUnder, fieldLines, fieldBlock]
  | cons emission emissions ih =>
      have next : Ready policy (capture.emitUnder .addressable emission) :=
        Both.emit (OutputBuffer.stable_ready policy _) ready emission
      simp only [emitAllUnder, List.foldl_cons] at ih ⊢
      cases field : emission.field? with
      | none =>
          have lines : fieldLines (emission :: emissions) = fieldLines emissions := by
            simp [fieldLines, field]
          have same : (capture.emitUnder .addressable emission).headers.fields = capture.headers.fields :=
            fields_emit_of_none field
          rw [lines, ← same] at fits ⊢
          exact ih next fits
      | some line =>
          have lines : fieldLines (emission :: emissions) = line :: fieldLines emissions := by
            simp [fieldLines, field]
          rw [lines, fieldBlock_cons, List.length_append] at fits
          have first := fields_emit_of_some ready field (fits.mono (by omega))
          have rest := ih next (fits.mono (by
            simp only [OutputBuffer.size, first, List.length_append]
            omega))
          rw [lines, fieldBlock_cons, rest, first]
          simp only [List.append_assoc]

@[simp]
theorem headers_mergeStdout (capture : Capture) :
    (capture.mergeStdoutUnder alloc).headers = capture.headers := by
  simp only [mergeStdoutUnder, mergeStdoutUnder?]
  split
  · rfl
  · rfl
  · next segments _ _ => cases pieces? capture.body.data 0 segments <;> rfl

end Capture

end ScriptBridge
