import ScriptBridge.Capture.Policy
import ScriptBridge.Config.Section
import ScriptBridge.Request.ServerInfo

/-!
# Configuration

The settings of a host in seven sections. Every section and every field has a standard value, so
that an empty file is a configuration. `Config.setting` reads and writes all of it.
-/

namespace ScriptBridge

/-- How requests are run. -/
structure RequestConfig where
  cookieEnv : String
  /-- The variable that holds the content type of a request that has none of its own. -/
  contentTypeEnv : String
  /-- Variables that are set before every request. -/
  exports : Table String
  /-- Whether scripts see all variables. -/
  exposeEnv : Bool
  deriving Repr, DecidableEq

/-- How commands are run. -/
structure CommandConfig where
  programName : String
  /-- The script to run, seen from the public directory. -/
  entryScript : String
  /-- The working directory, seen from the public directory. -/
  workingDir : String
  /-- The most arguments that a command gets, its name included. -/
  maxArgs : UInt64
  /-- Variables that are set before every command. -/
  env : Table String
  ini : Table String
  deriving Repr, DecidableEq

/-- What an interpreter allows. Zero stands for no limit. -/
structure InterpreterConfig where
  maxOperations : UInt64
  maxStringSize : UInt64
  maxArraySize : UInt64
  maxMapSize : UInt64
  maxExprDepth : UInt64
  maxFunctionExprDepth : UInt64
  ini : Table String
  deriving Repr, DecidableEq

/-- How the host serves. -/
structure ServeConfig where
  listen : SocketAddress
  script : String
  maxBodySize : UInt64
  shutdownTimeout : Duration
  queueDepth : UInt64
  /-- Whether cookies that scripts set come back with requests that have none. -/
  replayCookies : Bool
  deriving Repr, DecidableEq

/-- What the host tells about its work. -/
structure LoggingConfig where
  level : String
  json : Bool
  deriving Repr, DecidableEq

/-- The settings of a host. -/
structure Config where
  buffer : CapacityPolicy
  serverInfo : ServerConstants
  request : RequestConfig
  command : CommandConfig
  interpreter : InterpreterConfig
  serve : ServeConfig
  logging : LoggingConfig
  deriving Repr, DecidableEq

def RequestConfig.standard : RequestConfig where
  cookieEnv := "HTTP_COOKIE"
  contentTypeEnv := "HTTP_CONTENT_TYPE"
  exports := .ofPairs [
    ("HTTP_HOST", "127.0.0.1"), ("APP_URL", "http://127.0.0.1"),
    ("ASSET_URL", "http://127.0.0.1/_assets/"), ("EMBER_EMBEDDED_RUNNING", "true")]
  exposeEnv := true

def CommandConfig.standard : CommandConfig where
  programName := "ember"
  entryScript := "../runner"
  workingDir := ".."
  maxArgs := 127
  env := .ofPairs [
    ("APP_RUNNING_IN_CONSOLE", "true"), ("PHP_SELF", "runner"), ("APP_ENV", "local")]
  ini := .ofPairs [("display_errors", "1"), ("implicit_flush", "1"), ("output_buffering", "0")]

def InterpreterConfig.standard : InterpreterConfig where
  maxOperations := 1000000
  maxStringSize := 16 * 1024 * 1024
  maxArraySize := 100000
  maxMapSize := 100000
  maxExprDepth := 64
  maxFunctionExprDepth := 32
  ini := .empty

def ServeConfig.standard : ServeConfig where
  listen := .v4 ⟨127, 0, 0, 1⟩ 8080
  script := "index.rhai"
  maxBodySize := 10 * 1024 * 1024
  shutdownTimeout := .ofSeconds 30
  queueDepth := 64
  replayCookies := false

def LoggingConfig.standard : LoggingConfig where
  level := "info"
  json := false

def Config.standard : Config where
  buffer := .standard
  serverInfo := .standard
  request := .standard
  command := .standard
  interpreter := .standard
  serve := .standard
  logging := .standard

instance : Inhabited Config := ⟨.standard⟩

/-- The fields of the section `buffer`. -/
def CapacityPolicy.fields : List (Field CapacityPolicy) :=
  [.of "chunk_size" .word (·.chunkSize) fun v c => { c with chunkSize := v },
   .of "max_size" .word (·.maxSize) fun v c => { c with maxSize := v }]

/-- The fields of the section `server_info`. -/
def ServerConstants.fields : List (Field ServerConstants) :=
  [.of "script_name" .text (·.scriptName) fun v c => { c with scriptName := v },
   .of "self_path" .text (·.selfPath) fun v c => { c with selfPath := v },
   .of "protocol" .text (·.protocol) fun v c => { c with protocol := v },
   .of "server_name" .text (·.serverName) fun v c => { c with serverName := v },
   .of "server_port" .port (·.serverPort) fun v c => { c with serverPort := v },
   .of "remote_addr" .text (·.remoteAddr) fun v c => { c with remoteAddr := v },
   .of "scheme" .text (·.scheme) fun v c => { c with scheme := v },
   .of "http_host" .text (·.httpHost) fun v c => { c with httpHost := v },
   .of "https" .text (·.https) fun v c => { c with https := v },
   .of "user_agent" .text (·.userAgent) fun v c => { c with userAgent := v }]

/-- The fields of the section `request`. -/
def RequestConfig.fields : List (Field RequestConfig) :=
  [.of "cookie_env" .text (·.cookieEnv) fun v c => { c with cookieEnv := v },
   .of "content_type_env" .text (·.contentTypeEnv) fun v c => { c with contentTypeEnv := v },
   .of "exports" .texts (·.exports) fun v c => { c with exports := v },
   .of "expose_env" .bool (·.exposeEnv) fun v c => { c with exposeEnv := v }]

/-- The fields of the section `command`. -/
def CommandConfig.fields : List (Field CommandConfig) :=
  [.of "program_name" .text (·.programName) fun v c => { c with programName := v },
   .of "entry_script" .text (·.entryScript) fun v c => { c with entryScript := v },
   .of "working_dir" .text (·.workingDir) fun v c => { c with workingDir := v },
   .of "max_args" .word (·.maxArgs) fun v c => { c with maxArgs := v },
   .of "env" .texts (·.env) fun v c => { c with env := v },
   .of "ini" .texts (·.ini) fun v c => { c with ini := v }]

/-- The fields of the section `interpreter`. -/
def InterpreterConfig.fields : List (Field InterpreterConfig) :=
  [.of "max_operations" .word (·.maxOperations) fun v c => { c with maxOperations := v },
   .of "max_string_size" .word (·.maxStringSize) fun v c => { c with maxStringSize := v },
   .of "max_array_size" .word (·.maxArraySize) fun v c => { c with maxArraySize := v },
   .of "max_map_size" .word (·.maxMapSize) fun v c => { c with maxMapSize := v },
   .of "max_expr_depth" .word (·.maxExprDepth) fun v c => { c with maxExprDepth := v },
   .of "max_function_expr_depth" .word (·.maxFunctionExprDepth)
     fun v c => { c with maxFunctionExprDepth := v },
   .of "ini" .texts (·.ini) fun v c => { c with ini := v }]

/-- The fields of the section `serve`. -/
def ServeConfig.fields : List (Field ServeConfig) :=
  [.of "listen" .address (·.listen) fun v c => { c with listen := v },
   .of "script" .text (·.script) fun v c => { c with script := v },
   .of "max_body_size" .word (·.maxBodySize) fun v c => { c with maxBodySize := v },
   .of "shutdown_timeout" .duration (·.shutdownTimeout) fun v c => { c with shutdownTimeout := v },
   .of "queue_depth" .word (·.queueDepth) fun v c => { c with queueDepth := v },
   .of "replay_cookies" .bool (·.replayCookies) fun v c => { c with replayCookies := v }]

/-- The fields of the section `logging`. -/
def LoggingConfig.fields : List (Field LoggingConfig) :=
  [.of "level" .text (·.level) fun v c => { c with level := v },
   .of "json" .bool (·.json) fun v c => { c with json := v }]

/-- The section `buffer`. -/
def CapacityPolicy.setting : Setting CapacityPolicy := Field.setting fields .standard

/-- The section `server_info`. -/
def ServerConstants.setting : Setting ServerConstants := Field.setting fields .standard

/-- The section `request`. -/
def RequestConfig.setting : Setting RequestConfig := Field.setting fields .standard

/-- The section `command`. -/
def CommandConfig.setting : Setting CommandConfig := Field.setting fields .standard

/-- The section `interpreter`. -/
def InterpreterConfig.setting : Setting InterpreterConfig := Field.setting fields .standard

/-- The section `serve`. -/
def ServeConfig.setting : Setting ServeConfig := Field.setting fields .standard

/-- The section `logging`. -/
def LoggingConfig.setting : Setting LoggingConfig := Field.setting fields .standard

/-- The sections in order. -/
def Config.fields : List (Field Config) :=
  [.of "buffer" CapacityPolicy.setting (·.buffer) fun v c => { c with buffer := v },
   .of "server_info" ServerConstants.setting (·.serverInfo) fun v c => { c with serverInfo := v },
   .of "request" RequestConfig.setting (·.request) fun v c => { c with request := v },
   .of "command" CommandConfig.setting (·.command) fun v c => { c with command := v },
   .of "interpreter" InterpreterConfig.setting (·.interpreter)
     fun v c => { c with interpreter := v },
   .of "serve" ServeConfig.setting (·.serve) fun v c => { c with serve := v },
   .of "logging" LoggingConfig.setting (·.logging) fun v c => { c with logging := v }]

def Config.setting : Setting Config := Field.setting fields .standard

def Config.toJson (config : Config) : Json :=
  Config.setting.write config

def Config.render (config : Config) : String :=
  config.toJson.pretty

end ScriptBridge
