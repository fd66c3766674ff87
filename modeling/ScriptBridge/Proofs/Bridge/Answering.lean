import ScriptBridge.Proofs.Bridge.Splitting
import ScriptBridge.Proofs.Http.Language

/-! # Answers can be read

Whatever a request meets in a bridge, the answer is a response: it is composed of a status line, of
header lines that were kept whole, and of a body. A header line may hold anything, line ends among
it, and so may move the place where the answer is divided; but the answer can be divided, and its
parts make it up again.
-/

namespace ScriptBridge

namespace HeaderBlock

/-- A block that a response can be composed of: its status line starts as it has to, and each of its
    lines has its line end behind it. -/
structure Composable (block : HeaderBlock) : Prop where
  http : Text.startsWith "HTTP/" block.statusLine = true
  lines : ∃ lines, block.fields.data = fieldBlock lines

theorem composable_reset (alloc : Allocator) (block : HeaderBlock) :
    (block.resetUnder alloc).Composable := by
  have http : Text.startsWith "HTTP/" defaultStatus = true := by decide +kernel
  exact ⟨http, [], rfl⟩

theorem Composable.observe {block : HeaderBlock} (composable : block.Composable)
    (alloc : Allocator) (line : String) : (block.observeUnder alloc line).Composable := by
  obtain ⟨http, lines, eq⟩ := composable
  cases kind : HeaderKind.ofLine line with
  | status =>
      simp only [observeUnder, kind]
      exact ⟨HeaderKind.ofLine_eq_status_iff.mp kind, lines, eq⟩
  | field =>
      simp only [observeUnder, kind]
      refine ⟨http, ?_⟩
      rcases OutputBuffer.data_append_cases alloc block.fields (utf8 line ++ lineEnd) with
        kept | dropped
      · exact ⟨lines ++ [line], by simp [kept, eq, fieldBlock]⟩
      · exact ⟨lines, by rw [dropped, eq]⟩

end HeaderBlock

namespace Capture

theorem composable_emitAll {alloc : Allocator} {capture : Capture}
    (composable : capture.headers.Composable) (emissions : List Emission) :
    (capture.emitAllUnder alloc emissions).headers.Composable := by
  induction emissions generalizing capture with
  | nil => exact composable
  | cons emission emissions ih =>
      apply ih
      cases emission with
      | body bytes => exact composable
      | header line => exact composable.observe alloc line
      | stdout bytes => rwa [emitUnder, headers_writeStdout]

end Capture

namespace Bridge

variable {σ : Type} [Interpreter σ]

theorem failureResponse_eq (fault : BridgeFault) :
    ∃ text, failureResponse fault = compose "HTTP/1.1 500 Internal Server Error"
      (fieldBlock ["Content-Type: text/plain"]) (utf8 text) := by
  cases fault with
  | startupFailure | allocationFailure => exact ⟨_, rfl⟩
  | _ => exact ⟨_, rfl⟩

/-- An answer to a request is composed of a status line, header lines and a body. -/
theorem runOnce_composed (host : Surroundings) (request : Request) (script : String)
    (bridge : Bridge σ) :
    ∃ status lines body, Text.startsWith "HTTP/" status = true ∧
      (bridge.runOnce host request script).1 = compose status (fieldBlock lines) body := by
  have failed : ∀ fault, ∃ status lines body, Text.startsWith "HTTP/" status = true ∧
      failureResponse fault = compose status (fieldBlock lines) body := by
    intro fault
    obtain ⟨text, eq⟩ := failureResponse_eq fault
    exact ⟨_, _, _, by decide +kernel, eq⟩
  cases valid : request.validate with
  | error fault =>
      simp only [runOnce, tryRunOnce, valid]
      exact failed _
  | ok =>
      rcases begins : bridge.beginRequest host request (some script) with ⟨result, begun⟩
      cases result with
      | error fault =>
          simp only [runOnce, tryRunOnce, valid, begins]
          exact failed fault
      | ok =>
          obtain ⟨answer, capture⟩ := runOnce_of_begins valid begins
          have start : bridge.capture.reset.openStdout.headers.Composable :=
            HeaderBlock.composable_reset .addressable bridge.capture.headers
          have composable : (bridge.runOnce host request script).2.capture.headers.Composable := by
            rw [capture, Capture.mergeStdout, Capture.headers_mergeStdout]
            exact Capture.composable_emitAll start _
          obtain ⟨http, lines, eq⟩ := composable
          refine ⟨_, lines, (bridge.runOnce host request script).2.capture.body.data, http, ?_⟩
          rw [answer, response, eq]

/-- Every answer to a request can be read as a response, and the response is written as the same
    bytes: in any state of the bridge, for any request, and with whatever the interpreter does. -/
theorem runOnce_isResponse (host : Surroundings) (request : Request) (script : String)
    (bridge : Bridge σ) :
    ∃ message, Message.parse (bridge.runOnce host request script).1 = .ok message ∧
      Text.startsWith "HTTP/" message.statusLine = true ∧
      message.toBytes = (bridge.runOnce host request script).1 := by
  obtain ⟨status, lines, body, http, eq⟩ := runOnce_composed host request script bridge
  rw [eq]
  exact Message.exists_parse_compose http lines body

end Bridge

end ScriptBridge
