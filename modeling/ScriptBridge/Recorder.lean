import ScriptBridge.Interpreter

/-!
# A recording interpreter

An interpreter for trying out hosts. It records the calls that it gets, can refuse the ones that may
fail, and for any script does the same list of actions.
-/

namespace ScriptBridge

/-- A call that a host made. -/
inductive Call where
  | startup (options : StartupOptions)
  | declare (info : RequestInfo)
  | requestStartup
  | symbol (name : String) (value : Value)
  | form (target : FormTarget) (data : Bytes)
  | body (data : Bytes)
  | exposeStdout
  | routeStdio
  | finish
  | execute (script : String)
  | requestShutdown
  | shutdown

/-- Something that the interpreter does for a script. -/
inductive Action where
  | emit (emission : Emission)
  /-- Writes the text of an entry of a symbol, or a dash if there is none. -/
  | show (symbol key : String)
  | fail (reason : String)
  | crash

/-- Calls that are refused. -/
structure Refusals where
  startup : Bool
  requestStartup : Bool
  routeStdio : Bool

/-- The state of a recording interpreter; the calls are kept with the last one first. -/
structure Recorder where
  actions : List Action
  refusals : Refusals
  started : Bool
  active : Bool
  crashed : Bool
  exitStatus : Int
  symbols : Table Value
  calls : List Call

namespace Recorder

/-- A recorder that got no call yet. -/
def new (actions : List Action) (refusals : Refusals) : Recorder where
  actions
  refusals
  started := false
  active := false
  crashed := false
  exitStatus := 0
  symbols := .empty
  calls := []

/-- Records a call and does what it asks for. Nothing happens after a crash. -/
def record (call : Call) (f : Recorder → Recorder) (recorder : Recorder) : Recorder :=
  if recorder.crashed then recorder
  else f { recorder with calls := call :: recorder.calls }

def attempt (call : Call) (f : Recorder → Except ScriptFault Unit × Recorder)
    (recorder : Recorder) : Except ScriptFault Unit × Recorder :=
  if recorder.crashed then (.ok (), recorder)
  else f { recorder with calls := call :: recorder.calls }

/-- The calls since they were last taken, in order, and the recorder without them. -/
def takeCalls (recorder : Recorder) : List Call × Recorder :=
  (recorder.calls.reverse, { recorder with calls := [] })

def shown (symbols : Table Value) (symbol key : String) : String :=
  match (Table.get? symbol symbols).bind (Value.get? key) with
  | some value => value.display
  | none => "-"

/-- How a run of actions ends. -/
inductive Ending where
  | finished
  | failed (reason : String)
  | crashed

def perform (symbols : Table Value) : List Action → List Emission × Ending
  | [] => ([], .finished)
  | .emit emission :: rest =>
    let (emissions, ending) := perform symbols rest
    (emission :: emissions, ending)
  | .show symbol key :: rest =>
    let (emissions, ending) := perform symbols rest
    (.body (utf8 (shown symbols symbol key)) :: emissions, ending)
  | .fail reason :: _ => ([], .failed reason)
  | .crash :: _ => ([], .crashed)

def run (recorder : Recorder) : Execution × Recorder :=
  if recorder.started then
    let (emissions, ending) := perform recorder.symbols recorder.actions
    match ending with
    | .finished => (⟨emissions, .ok ()⟩, recorder)
    | .failed reason =>
      (⟨emissions, .error (.runtime reason none)⟩, { recorder with exitStatus := 255 })
    | .crashed => (⟨emissions, .ok ()⟩, { recorder with crashed := true })
  else (⟨[], .error .notStarted⟩, recorder)

instance : Interpreter Recorder where
  started := Recorder.started
  active := Recorder.active
  exitStatus := Recorder.exitStatus
  crashed := Recorder.crashed
  startup options := attempt (.startup options) fun recorder =>
    if recorder.refusals.startup then (.error (.startupFailed "refused"), recorder)
    else (.ok (), { recorder with started := true })
  declare info := record (.declare info) id
  requestStartup := attempt .requestStartup fun recorder =>
    if !recorder.started then (.error .notStarted, recorder)
    else if recorder.refusals.requestStartup then
      (.error (.startupFailed "request refused"), recorder)
    else (.ok (), { recorder with active := true })
  setSymbol name value := record (.symbol name value) fun recorder =>
    { recorder with symbols := Table.insert name value recorder.symbols }
  readForm target data := record (.form target data) id
  attachBody data := record (.body data) id
  exposeStdout := record .exposeStdout id
  routeStdio := attempt .routeStdio fun recorder =>
    if recorder.refusals.routeStdio then (.error .notStarted, recorder) else (.ok (), recorder)
  finishRequestStartup := record .finish fun recorder => { recorder with exitStatus := 0 }
  execute _ script recorder :=
    if recorder.crashed then (⟨[], .ok ()⟩, recorder)
    else run { recorder with calls := .execute script :: recorder.calls }
  requestShutdown := record .requestShutdown fun recorder =>
    { recorder with active := false, symbols := .empty }
  shutdown := record .shutdown fun recorder =>
    { recorder with started := false, active := false, symbols := .empty }

end Recorder

end ScriptBridge
