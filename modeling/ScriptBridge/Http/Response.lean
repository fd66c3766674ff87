import ScriptBridge.Http.Message

/-!
# Responses as sent

A response message with its header lines read as fields. Lines that are no valid field are left out;
every other line gives one field, its name in lower case.
-/

namespace ScriptBridge

/-- A response whose headers are fields. -/
structure Response where
  status : Nat
  headers : List (String × String)
  body : Bytes
  deriving Repr, DecidableEq

namespace Response

def isNameChar (c : Char) : Bool :=
  c.isAlphanum || "!#$%&'*+-.^_|~\x60".toList.contains c

def isName (s : String) : Bool :=
  !s.isEmpty && s.toList.all isNameChar && s.length ≤ 65535

def isValueChar (c : Char) : Bool :=
  c == '\t' || (0x20 ≤ c.toNat && c.toNat != 0x7F)

def isValue (s : String) : Bool :=
  s.toList.all isValueChar

/-- The field of a header line, if it is one. -/
def fieldOf? (line : String) : Option (String × String) := do
  let (name, value) ← Message.splitField line
  if isName name && isValue value then some (Text.lowerAscii name, value) else none

/-- The values of a field, in order. -/
def values (response : Response) (name : String) : List String :=
  (response.headers.filter (·.1 == Text.lowerAscii name)).map (·.2)

/-- The fields by name; fields of one name keep their order. -/
def sortedHeaders (response : Response) : List (String × String) :=
  response.headers.mergeSort fun a b => a.1 ≤ b.1

/-- A response with a plain text and no headers. -/
def ofText (status : Nat) (text : String) : Response :=
  ⟨status, [], utf8 text⟩

end Response

/-- The response of a message whose status line has a code. A host may hold no more than so many
    fields and refuse a response with more; that limit is left out, and any number is taken. -/
def Message.toResponse (message : Message) : Except MessageFault Response :=
  match message.statusCode with
  | none => .error (.unreadableStatus message.statusLine)
  | some status => .ok ⟨status, message.headers.filterMap Response.fieldOf?, message.body⟩

end ScriptBridge
