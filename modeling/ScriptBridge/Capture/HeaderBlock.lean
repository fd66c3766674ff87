import ScriptBridge.Capture.Buffer
import ScriptBridge.Text.Cut

/-!
# Captured headers

A script emits header lines one by one. A line that starts with `HTTP/` is the status line, and the
last such line counts; any other line is kept in order, as it is, with a line end behind it.
-/

namespace ScriptBridge

def lineEnd : Bytes := [13, 10]

/-- What an emitted header line is. -/
inductive HeaderKind where
  | status
  | field
  deriving Repr, DecidableEq

/-- Tells the kind of a line by its first characters. -/
def HeaderKind.ofLine (line : String) : HeaderKind :=
  if Text.startsWith "HTTP/" line then .status else .field

/-- The status line and the field lines captured so far. -/
structure HeaderBlock where
  status : Option String
  fields : OutputBuffer
  deriving Repr, DecidableEq

namespace HeaderBlock

/-- The status line of a script that sets none. -/
def defaultStatus : String := "HTTP/1.1 200 OK"

def newUnder (alloc : Allocator) (policy : CapacityPolicy) : HeaderBlock :=
  ⟨none, .newUnder alloc policy⟩

/-- No lines. -/
def new (policy : CapacityPolicy) : HeaderBlock :=
  newUnder .addressable policy

def observeUnder (alloc : Allocator) (block : HeaderBlock) (line : String) : HeaderBlock :=
  match HeaderKind.ofLine line with
  | .status => { block with status := some line }
  | .field => { block with fields := block.fields.appendUnder alloc (utf8 line ++ lineEnd) }

def observe (block : HeaderBlock) (line : String) : HeaderBlock :=
  block.observeUnder .addressable line

def resetUnder (alloc : Allocator) (block : HeaderBlock) : HeaderBlock :=
  ⟨none, block.fields.resetUnder alloc⟩

/-- Forgets all lines and keeps the capacity. -/
def reset (block : HeaderBlock) : HeaderBlock :=
  block.resetUnder .addressable

/-- Forgets all lines and gives the capacity back. -/
def release (block : HeaderBlock) : HeaderBlock :=
  ⟨none, block.fields.release⟩

/-- The status line that counts. -/
def statusLine (block : HeaderBlock) : String :=
  block.status.getD defaultStatus

end HeaderBlock

end ScriptBridge
