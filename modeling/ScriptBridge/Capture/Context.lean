import ScriptBridge.Capture.HeaderBlock

/-!
# One capture

A capture collects what one invocation of a script emits: body bytes, header lines, and bytes
written to the standard output stream. While that stream is open its writes wait in segments, each
with the body length at the time; `mergeStdout` puts them between the body bytes in the order in
which all were written.
-/

namespace ScriptBridge

/-- Something that a script emits. -/
inductive Emission where
  | body (bytes : Bytes)
  | header (line : String)
  | stdout (bytes : Bytes)
  deriving Repr, DecidableEq

/-- A write to the open standard output stream and the body length when it was made. -/
structure StdoutSegment where
  offset : Nat
  bytes : Bytes
  deriving Repr, DecidableEq

/-- The writes of an open standard output stream in order. -/
structure StdoutStream where
  segments : List StdoutSegment
  deriving Repr, DecidableEq

namespace StdoutStream

/-- The bytes of all segments together. -/
def size (stream : StdoutStream) : Nat :=
  (stream.segments.flatMap (·.bytes)).length

end StdoutStream

/-- The body, the header lines and the open standard output stream of an invocation. -/
structure Capture where
  body : OutputBuffer
  headers : HeaderBlock
  stdout : Option StdoutStream
  deriving Repr, DecidableEq

namespace Capture

def newUnder (alloc : Allocator) (policy : CapacityPolicy) : Capture :=
  ⟨.newUnder alloc policy, .newUnder alloc policy, none⟩

def new (policy : CapacityPolicy) : Capture :=
  newUnder .addressable policy

def resetUnder (alloc : Allocator) (capture : Capture) : Capture :=
  ⟨capture.body.resetUnder alloc, capture.headers.resetUnder alloc, none⟩

def reset (capture : Capture) : Capture :=
  capture.resetUnder .addressable

def release (capture : Capture) : Capture :=
  ⟨capture.body.release, capture.headers.release, none⟩

def openStdout (capture : Capture) : Capture :=
  { capture with stdout := some ⟨[]⟩ }

def writeUnder (alloc : Allocator) (capture : Capture) (bytes : Bytes) : Capture :=
  { capture with body := capture.body.appendUnder alloc bytes }

def write (capture : Capture) (bytes : Bytes) : Capture :=
  capture.writeUnder .addressable bytes

def headerUnder (alloc : Allocator) (capture : Capture) (line : String) : Capture :=
  { capture with headers := capture.headers.observeUnder alloc line }

def header (capture : Capture) (line : String) : Capture :=
  capture.headerUnder .addressable line

/-- Writes to the standard output stream. An open stream keeps the bytes while all its segments stay
    within the ceiling; without an open stream they go to the body. -/
def writeStdoutUnder (alloc : Allocator) (capture : Capture) (bytes : Bytes) : Capture :=
  match capture.stdout with
  | none => capture.writeUnder alloc bytes
  | some stream =>
    if stream.size + bytes.length ≤ capture.body.policy.maxSize.toNat then
      let segment := ⟨capture.body.size, bytes⟩
      { capture with stdout := some ⟨stream.segments ++ [segment]⟩ }
    else capture

def writeStdout (capture : Capture) (bytes : Bytes) : Capture :=
  capture.writeStdoutUnder .addressable bytes

def emitUnder (alloc : Allocator) (capture : Capture) : Emission → Capture
  | .body bytes => capture.writeUnder alloc bytes
  | .header line => capture.headerUnder alloc line
  | .stdout bytes => capture.writeStdoutUnder alloc bytes

/-- Takes in emissions in order. -/
def emitAllUnder (alloc : Allocator) (capture : Capture) (emissions : List Emission) : Capture :=
  emissions.foldl (emitUnder alloc) capture

/-- Takes in emissions in order. -/
def emitAll (capture : Capture) (emissions : List Emission) : Capture :=
  capture.emitAllUnder .addressable emissions

/-- The bytes from one offset to another, if both lie in the bytes in this order. -/
def slice? (bytes : Bytes) (start stop : Nat) : Option Bytes :=
  if start ≤ stop ∧ stop ≤ bytes.length then some ((bytes.take stop).drop start) else none

/-- The body bytes and the segments in the order in which they were written, from `cursor` on. An
    offset behind the end counts as the end. -/
def pieces? (main : Bytes) (cursor : Nat) : List StdoutSegment → Option (List Bytes)
  | [] => do
    let rest ← slice? main cursor main.length
    some [rest]
  | segment :: segments => do
    let offset := min segment.offset main.length
    let before ← slice? main cursor offset
    let behind ← pieces? main offset segments
    some (before :: segment.bytes :: behind)

/-- Closes the standard output stream and puts its segments into the body. There is no result if the
    offsets of the segments fall, which writing never brings about. -/
def mergeStdoutUnder? (alloc : Allocator) (capture : Capture) : Option Capture :=
  match capture.stdout with
  | none => some capture
  | some ⟨[]⟩ => some { capture with stdout := none }
  | some ⟨segments⟩ => do
    let pieces ← pieces? capture.body.data 0 segments
    some { capture with
      body := pieces.foldl (OutputBuffer.appendUnder alloc) (capture.body.resetUnder alloc)
      stdout := none }

def mergeStdoutUnder (alloc : Allocator) (capture : Capture) : Capture :=
  (capture.mergeStdoutUnder? alloc).getD { capture with stdout := none }

/-- Closes the standard output stream and puts its segments into the body. -/
def mergeStdout (capture : Capture) : Capture :=
  capture.mergeStdoutUnder .addressable

end Capture

end ScriptBridge
