import ScriptBridge.Http.Status
import ScriptBridge.Interpreter
import ScriptBridge.Script.Allowance
import ScriptBridge.Script.Outlet
import ScriptBridge.Text.Base64

/-!
# Functions

The functions that a script can call. They work on data, on the request that the script runs for,
and on the outlet; a name with arguments that it does not take is no function. What they give may
not be larger than an allowance accepts, nor may lists and maps that they look into.
-/

namespace ScriptBridge.Script

/-- What a script can ask about the request that it runs for, and the time. -/
structure Occasion where
  request : Option RequestInfo
  body : Bytes
  now : Int64

/-- What a function gives back, and what it leaves in the outlet. -/
abbrev Returned := Except RunCause Datum × Outlet

namespace Function

/-- Gives nothing back. -/
def done (outlet : Outlet) : Returned := (.ok .unit, outlet)

/-- Emits a header line, unless it is more than a line. -/
def header (line : String) (outlet : Outlet) : Returned :=
  if line.toList.any fun c => c == '\r' || c == '\n' then done outlet else done (outlet.header line)

def status (code : Int) (outlet : Outlet) : Returned :=
  if Status.isCode code then done (outlet.header (Status.line code.toNat))
  else (.error (.badStatus code), outlet)

/-- Writes a text to a handle and gives the number of bytes. -/
def write (handle : String) (data : Bytes) (outlet : Outlet) : Returned :=
  match outlet.write? handle data with
  | some outlet => (.ok (.ofCount data.length), outlet)
  | none => (.error (.badHandle handle), outlet)

/-- The text that base 64 stands for; what stands for no text gives an empty one. -/
def decodeBase64 (s : String) : String :=
  ((Base64.decode? (utf8 s)).bind Utf8.decode?).getD ""

/-- The text in base 64. -/
def encodeBase64 (s : String) : String :=
  Utf8.decodeLossy (Base64.encode (utf8 s))

def requestInfo (request : Option RequestInfo) : Datum :=
  match request with
  | none => .map Table.empty
  | some info =>
    let known : List (String × Datum) :=
      [("method", .text info.method), ("uri", .text info.uri),
       ("content_type", .text info.contentType), ("content_length", .ofCount info.contentLength),
       ("proto_num", .ofCount info.protocol)]
    let cookie : List (String × Datum) :=
      match info.cookie with
      | some cookie => [("cookie", .text cookie)]
      | none => []
    .map (Table.ofPairs (known ++ cookie))

/-- What is found in a list or a map, unless that is too large. -/
def lookInto (allowance : Allowance) (container found : Datum) : Except RunCause Datum :=
  (allowance.accept container).map fun _ => found

def printLine (allowance : Allowance) (datum : Datum) (outlet : Outlet) : Returned :=
  match allowance.accept (.text datum.shown), allowance.accept datum with
  | .ok _, .ok _ => done (outlet.output (utf8 (datum.shown ++ "\n")))
  | .error cause, _ | _, .error cause => (.error cause, outlet)

/-- Only measures a text. -/
def debugLine (allowance : Allowance) (datum : Datum) : Except RunCause Datum :=
  match allowance.accept (.text datum.inspect), allowance.accept datum with
  | .ok _, .ok _ => .ok .unit
  | .error cause, _ | _, .error cause => .error cause

/-- What the function of a name does that writes to the outlet, if there is one. -/
def emit? (allowance : Allowance) (outlet : Outlet) (name : String) (args : List Datum) :
    Option Returned :=
  match name, args with
  | "echo", [datum] => some (done (outlet.output (utf8 datum.display)))
  | "print", [] => some (done (outlet.output (utf8 "\n")))
  | "print", [datum] => some (printLine allowance datum outlet)
  | "header", [.text line] => some (header line outlet)
  | "http_response_code", [.int code] => some (status code.toInt outlet)
  | "fwrite", [.text handle, datum] => some (write handle (utf8 datum.display) outlet)
  | _, _ => none

/-- What the function of a name gives that leaves the outlet alone, if there is one. -/
def answer? (occasion : Occasion) (allowance : Allowance) (name : String) (args : List Datum) :
    Option (Except RunCause Datum) :=
  match name, args with
  | "debug", [] => some (.ok .unit)
  | "debug", [datum] => some (debugLine allowance datum)
  | "request_body", [] => some (.ok (.text (Utf8.decodeLossy occasion.body)))
  | "request_info", [] => some (.ok (requestInfo occasion.request))
  | "base64_encode", [.text s] => some (.ok (.text (encodeBase64 s)))
  | "base64_decode", [.text s] => some (.ok (.text (decodeBase64 s)))
  | "unix_time", [] => some (.ok (.int occasion.now))
  | "log_debug", [.text _] | "log_info", [.text _] | "log_warn", [.text _] => some (.ok .unit)
  | "type_of", [datum] => some (.ok (.text datum.typeName))
  | "len", [.text s] => some (.ok (.ofCount s.length))
  | "len", [.array items] => some (lookInto allowance (.array items) (.ofCount items.length))
  | "len", [.map entries] => some (lookInto allowance (.map entries) (.ofCount entries.length))
  | "contains", [.text s, .text part] => some (.ok (.bool (Text.hasPart part s)))
  | "contains", [.text s, .char c] => some (.ok (.bool (s.toList.contains c)))
  | "contains", [.array items, datum] =>
    some (lookInto allowance (.array items) (.bool (items.any datum.equals)))
  | "contains", [.map entries, .text key] =>
    some (lookInto allowance (.map entries) (.bool (Table.contains key entries)))
  | _, _ => none

/-- What the function of a name does with arguments, if there is one. -/
def result? (occasion : Occasion) (allowance : Allowance) (outlet : Outlet) (name : String)
    (args : List Datum) : Option Returned :=
  match emit? allowance outlet name args with
  | some returned => some returned
  | none => (answer? occasion allowance name args).map fun result => (result, outlet)

/-- What the function of a name does with arguments. What it gives back is measured. -/
def apply (occasion : Occasion) (allowance : Allowance) (outlet : Outlet) (name : String)
    (args : List Datum) : Returned :=
  match result? occasion allowance outlet name args with
  | some (result, outlet) => (result.bind allowance.accept, outlet)
  | none => (.error (.unknownFunction name (args.map Datum.argumentType)), outlet)

end Function

end ScriptBridge.Script
