import ScriptBridge.Config.Expansion
import ScriptBridge.Config.Validation
import ScriptBridge.Fault
import ScriptBridge.FileTree
import ScriptBridge.Json.Reader
import ScriptBridge.Path
import ScriptBridge.Text.Numeral
import ScriptBridge.Toml.Tree
import ScriptBridge.Yaml.Tree

/-!
# Loading a configuration

A configuration file is read in the format that its extension names: references to variables are
expanded, the text is parsed, and what it does not give keeps its standard value. Some settings can
then be overridden by variables, and the result is validated.
-/

namespace ScriptBridge

/-- A format of configuration files. -/
inductive ConfigFormat where
  | yaml
  | toml
  | json
  deriving Repr, DecidableEq

namespace ConfigFormat

def name : ConfigFormat → String
  | .yaml => "YAML"
  | .toml => "TOML"
  | .json => "JSON"

def lists : ConfigFormat → ListSections
  | .yaml => .refused
  | .toml => .open
  | .json => .exact

def parse? (format : ConfigFormat) (s : String) : Option Document :=
  match format with
  | .yaml => Yaml.parse? s
  | .toml => Toml.parse? s
  | .json => (Json.parse? s).map Document.ofJson

end ConfigFormat

/-- Why a configuration cannot be loaded. -/
inductive LoadFault where
  | unreadable (path : String) (fault : FileFault)
  | noFormat
  | unknownFormat (extension : String)
  | unset (fault : Expansion.Fault)
  | malformed (format : ConfigFormat)
  | badAddress (name value : String)
  | badNumber (name value : String) (fault : NumeralError)
  | invalid (fault : ConfigFault)
  deriving Repr, DecidableEq

namespace LoadFault

/-- The wording of a variable whose value does not fit. -/
def overrideMessage (name value reason : String) : String :=
  "Invalid " ++ name ++ " " ++ Text.quoted value ++ ": " ++ reason

def message : LoadFault → String
  | .unreadable path fault => "Failed to read config file " ++ path ++ ": " ++ fault.message
  | .noFormat => "Unable to detect config format"
  | .unknownFormat extension => "Unsupported config format: " ++ extension
  | .unset fault => fault.message
  | .malformed format => "Failed to parse " ++ format.name
  | .badAddress name value =>
    overrideMessage name value SocketAddress.faultMessage
  | .badNumber name value fault => overrideMessage name value fault.message
  | .invalid fault => fault.message

def toBridge (fault : LoadFault) : BridgeFault :=
  .config fault.message

end LoadFault

def ConfigFormat.ofPath (path : String) : Except LoadFault ConfigFormat :=
  match Path.extension? path with
  | none => .error .noFormat
  | some "yaml" | some "yml" => .ok .yaml
  | some "toml" => .ok .toml
  | some "json" => .ok .json
  | some extension => .error (.unknownFormat extension)

namespace Config

/-- Whether nothing but blanks is in a text. -/
def isVoid (s : String) : Bool :=
  s.toList.all Text.isBlank

/-- The configuration of a text without references. An empty text in YAML gives the standard one. -/
def parse (format : ConfigFormat) (s : String) : Except LoadFault Config :=
  if format = .yaml ∧ isVoid s then .ok .standard
  else
    match (format.parse? s).bind (Config.setting.read format.lists) with
    | some config => .ok config
    | none => .error (.malformed format)

/-- The configuration of a text, with values of variables for its references. -/
def loadText (vars : Table String) (format : ConfigFormat) (s : String) :
    Except LoadFault Config :=
  match Expansion.expand vars s with
  | .error fault => .error (.unset fault)
  | .ok expanded => parse format expanded

def loadFile (vars : Table String) (files : FileTree) (workingDir : Location) (path : String) :
    Except LoadFault Config :=
  match files.readText workingDir path with
  | .error fault => .error (.unreadable path fault)
  | .ok content => do
    let format ← ConfigFormat.ofPath path
    loadText vars format content

def overrideWord (name value : String) : Except LoadFault UInt64 :=
  (Numeral.readWord (Text.trim value)).mapError (.badNumber name value)

def overrideAddress (name value : String) : Except LoadFault SocketAddress :=
  match SocketAddress.parse? (Text.trim value) with
  | some address => .ok address
  | none => .error (.badAddress name value)

/-- Takes the address to listen on from a variable. -/
def overrideListen (vars : Table String) (config : Config) : Except LoadFault Config :=
  match Table.get? "EMBER_LISTEN" vars with
  | none => .ok config
  | some value => do
    let listen ← overrideAddress "EMBER_LISTEN" value
    .ok { config with serve := { config.serve with listen } }

/-- Takes the served script from a variable. -/
def overrideScript (vars : Table String) (config : Config) : Config :=
  match Table.get? "EMBER_SCRIPT" vars with
  | none => config
  | some script => { config with serve := { config.serve with script } }

/-- Takes the greatest body from a variable. -/
def overrideMaxBody (vars : Table String) (config : Config) : Except LoadFault Config :=
  match Table.get? "EMBER_MAX_BODY_SIZE" vars with
  | none => .ok config
  | some value => do
    let maxBodySize ← overrideWord "EMBER_MAX_BODY_SIZE" value
    .ok { config with serve := { config.serve with maxBodySize } }

/-- Takes the ceiling of buffers from a variable. -/
def overrideMaxBuffer (vars : Table String) (config : Config) : Except LoadFault Config :=
  match Table.get? "EMBER_BUFFER_MAX_SIZE" vars with
  | none => .ok config
  | some value => do
    let maxSize ← overrideWord "EMBER_BUFFER_MAX_SIZE" value
    .ok { config with buffer := { config.buffer with maxSize } }

/-- Takes the log level from a variable. -/
def overrideLevel (vars : Table String) (config : Config) : Config :=
  match Table.get? "EMBER_LOG_LEVEL" vars with
  | none => config
  | some level => { config with logging := { config.logging with level } }

/-- Takes settings from variables. -/
def override (vars : Table String) (config : Config) : Except LoadFault Config := do
  let config ← overrideListen vars config
  let config ← overrideMaxBody vars (overrideScript vars config)
  let config ← overrideMaxBuffer vars config
  .ok (overrideLevel vars config)

/-- The configuration, if a host can work with it. -/
def checked (config : Config) : Except LoadFault Config :=
  match config.validate with
  | .ok _ => .ok config
  | .error fault => .error (.invalid fault)

/-- The configuration that a host works with: that of a file, or the standard one, with what
    variables override. -/
def load (vars : Table String) (files : FileTree) (workingDir : Location) (path : Option String) :
    Except LoadFault Config := do
  let config ← match path with
    | some path => loadFile vars files workingDir path
    | none => .ok .standard
  let config ← override vars config
  checked config

/-- One step of putting a configuration together. -/
inductive Change where
  | buffer (policy : CapacityPolicy)
  | serverInfo (constants : ServerConstants)
  | exported (name value : String)
  | exposeEnv (expose : Bool)
  | command (command : CommandConfig)
  | interpreter (interpreter : InterpreterConfig)
  | serve (serve : ServeConfig)
  | script (script : String)

def apply (config : Config) : Change → Config
  | .buffer buffer => { config with buffer }
  | .serverInfo serverInfo => { config with serverInfo }
  | .exported name value =>
    { config with request :=
      { config.request with exports := Table.insert name value config.request.exports } }
  | .exposeEnv exposeEnv => { config with request := { config.request with exposeEnv } }
  | .command command => { config with command }
  | .interpreter interpreter => { config with interpreter }
  | .serve serve => { config with serve }
  | .script script => { config with serve := { config.serve with script } }

/-- The standard configuration with some changes, if a host can work with it. -/
def build (changes : List Change) : Except LoadFault Config :=
  checked (changes.foldl apply .standard)

end Config

end ScriptBridge
