import ScriptBridge.Config.Basic
import ScriptBridge.Environment
import ScriptBridge.Text.Blank
import ScriptBridge.Text.Quoted

/-!
# Validation

The first thing that a host could not work with, section by section.
-/

namespace ScriptBridge

/-- A section that sets variables. -/
inductive VariableSection where
  | exports
  | command
  deriving Repr, DecidableEq

def VariableSection.name : VariableSection → String
  | .exports => "request.exports"
  | .command => "command.env"

/-- Why a host cannot work with a configuration. -/
inductive ConfigFault where
  | noChunk
  | ceilingBelowChunk (maxSize chunkSize : UInt64)
  | relativeScriptName (name : String)
  | noServerPort
  | protocolNotHttp (protocol : String)
  | noCookieVariable
  | badVariable (place : VariableSection) (name : String)
  | badProgramName (name : String)
  | noArguments
  | noEntryScript
  | noBody
  | noQueue
  deriving Repr, DecidableEq

def ConfigFault.message : ConfigFault → String
  | .noChunk => "buffer.chunk_size must be > 0"
  | .ceilingBelowChunk maxSize chunkSize =>
    "buffer.max_size (" ++ toString maxSize.toNat ++ ") must be >= buffer.chunk_size (" ++
      toString chunkSize.toNat ++ ")"
  | .relativeScriptName name =>
    "server_info.script_name must be absolute, got " ++ Text.quoted name
  | .noServerPort => "server_info.server_port must be > 0"
  | .protocolNotHttp protocol =>
    "server_info.protocol must start with HTTP/, got " ++ Text.quoted protocol
  | .noCookieVariable => "request.cookie_env cannot be empty"
  | .badVariable place name =>
    place.name ++ ": invalid environment variable name " ++ Text.quoted name
  | .badProgramName name =>
    "command.program_name must be a single non-empty token, got " ++ Text.quoted name
  | .noArguments => "command.max_args must be > 0"
  | .noEntryScript => "command.entry_script cannot be empty"
  | .noBody => "serve.max_body_size must be > 0"
  | .noQueue => "serve.queue_depth must be > 0"

namespace Config

/-- Every variable that is set has a name that a variable can have. -/
def validateVariables (place : VariableSection) (vars : Table String) : Except ConfigFault Unit :=
  match vars.keys.find? (!Environment.isName ·) with
  | some name => .error (.badVariable place name)
  | none => .ok ()

def validateBuffer (policy : CapacityPolicy) : Except ConfigFault Unit :=
  if policy.chunkSize = 0 then .error .noChunk
  else if policy.maxSize < policy.chunkSize then
    .error (.ceilingBelowChunk policy.maxSize policy.chunkSize)
  else .ok ()

/-- The host has a script, a port and a protocol to name. -/
def validateServerInfo (info : ServerConstants) : Except ConfigFault Unit :=
  if !Text.startsWith "/" info.scriptName then .error (.relativeScriptName info.scriptName)
  else if info.serverPort = 0 then .error .noServerPort
  else if !Text.startsWith "HTTP/" info.protocol then .error (.protocolNotHttp info.protocol)
  else .ok ()

/-- Requests have a variable for cookies, and exports can be set. -/
def validateRequest (request : RequestConfig) : Except ConfigFault Unit :=
  if request.cookieEnv.isEmpty then .error .noCookieVariable
  else validateVariables .exports request.exports

/-- Commands have a name, room for it, a script, and variables that can be set. -/
def validateCommand (command : CommandConfig) : Except ConfigFault Unit :=
  if command.programName.isEmpty || Text.hasBlank command.programName then
    .error (.badProgramName command.programName)
  else if command.maxArgs = 0 then .error .noArguments
  else if command.entryScript.isEmpty then .error .noEntryScript
  else validateVariables .command command.env

/-- Served requests may have a body, and there is a queue for them. -/
def validateServe (serve : ServeConfig) : Except ConfigFault Unit :=
  if serve.maxBodySize = 0 then .error .noBody
  else if serve.queueDepth = 0 then .error .noQueue
  else .ok ()

def validate (config : Config) : Except ConfigFault Unit := do
  validateBuffer config.buffer
  validateServerInfo config.serverInfo
  validateRequest config.request
  validateCommand config.command
  validateServe config.serve

end Config

end ScriptBridge
