import ScriptBridge.Capture.HeaderBlock
import ScriptBridge.Fault
import ScriptBridge.Text.Blank
import ScriptBridge.Text.Numeral

/-!
# Response messages

A response as bytes is a status line, header lines, a blank line and a body. `compose` writes one
from captured parts, `Message.parse` reads one back, and `Message.toBytes` writes what was read.
-/

namespace ScriptBridge

/-- The bytes of a response: the status line, the header block as it is, a blank line, the body. -/
def compose (statusLine : String) (headerBlock body : Bytes) : Bytes :=
  utf8 statusLine ++ lineEnd ++ headerBlock ++ lineEnd ++ body

/-- A response in its parts. -/
structure Message where
  statusLine : String
  headers : List String
  body : Bytes
  deriving Repr, DecidableEq

/-- Why bytes are not a response, or a response cannot be sent. -/
inductive MessageFault where
  | missingStatusLine
  | notHttp (line : String)
  | unterminatedHeaders
  | unreadableStatus (line : String)
  deriving Repr, DecidableEq

def MessageFault.message : MessageFault → String
  | .missingStatusLine => "missing status line"
  | .notHttp line => "status line does not start with HTTP/: " ++ Text.quoted line
  | .unterminatedHeaders => "unterminated header block"
  | .unreadableStatus line => "unparsable status line " ++ Text.quoted line

def MessageFault.toBridge (fault : MessageFault) : BridgeFault :=
  .malformedResponse fault.message

namespace Message

/-- Reads header lines up to a blank line: the lines, and the bytes behind it. `line` holds the
    bytes of the current line in reverse. -/
def readLines (line : Bytes) : Bytes → Option (List Bytes × Bytes)
  | 13 :: 10 :: rest =>
    if line.isEmpty then some ([], rest)
    else (readLines [] rest).map fun (lines, body) => (line.reverse :: lines, body)
  | b :: rest => readLines (b :: line) rest
  | [] => none

def parse (bytes : Bytes) : Except MessageFault Message :=
  match cutAt? lineEnd bytes with
  | none => .error .missingStatusLine
  | some (status, rest) =>
    if (utf8 "HTTP/").isPrefixOf status then
      match readLines [] rest with
      | none => .error .unterminatedHeaders
      | some (lines, body) =>
        .ok ⟨Utf8.decodeLossy status, lines.map Utf8.decodeLossy, body⟩
    else .error (.notHttp (Utf8.decodeLossy status))

def headerBlock (message : Message) : Bytes :=
  message.headers.flatMap fun line => utf8 line ++ lineEnd

def toBytes (message : Message) : Bytes :=
  compose message.statusLine message.headerBlock message.body

/-- The code in the status line: its second word, a number from 100 to 999. -/
def statusCode (message : Message) : Option Nat :=
  match Text.words message.statusLine with
  | _ :: word :: _ =>
    match Numeral.readNat 65535 word with
    | .ok code => if 100 ≤ code ∧ code ≤ 999 then some code else none
    | .error _ => none
  | _ => none

/-- The name and the value of a header line, without the blanks around them. -/
def splitField (line : String) : Option (String × String) :=
  (Text.cutFirst? ':' line).map fun (name, value) => (Text.trim name, Text.trim value)

/-- The values of all headers of a name, whatever the case of its letters. -/
def headerValues (message : Message) (name : String) : List String :=
  message.headers.filterMap fun line => do
    let (key, value) ← splitField line
    if Text.eqIgnoreAsciiCase key name then some value else none

/-- The value of the first header of a name. -/
def header? (message : Message) (name : String) : Option String :=
  (message.headerValues name).head?

end Message

namespace Canned

/-- A response of status 500 with a text. -/
def internalError (text : String) : Bytes :=
  compose "HTTP/1.1 500 Internal Server Error"
    (utf8 "Content-Type: text/plain" ++ lineEnd) (utf8 text)

/-- What is said when an interpreter does not start. -/
def startupText : String := "Interpreter init failed."

/-- The interpreter could not be started. -/
def startupFailure : Bytes := internalError startupText

/-- There is no memory for the response. -/
def allocationFailure : Bytes := internalError "Allocation failure"

end Canned

end ScriptBridge
