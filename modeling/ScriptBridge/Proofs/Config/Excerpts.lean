import ScriptBridge.Config.Basic
import ScriptBridge.Proofs.Config.Sections

/-! # Configurations of which parts are left out

A configuration that is restricted to some sections and fields has its own values there and the
standard ones elsewhere. What is printed of a configuration, with sections and fields left out, is
read as the configuration restricted to those that are left.
-/

namespace ScriptBridge

open ScriptBridge.Field (Gives)

section Restriction

variable (keep : String → Bool)

def CapacityPolicy.restrict (policy : CapacityPolicy) : CapacityPolicy where
  chunkSize := if keep "chunk_size" then policy.chunkSize else CapacityPolicy.standard.chunkSize
  maxSize := if keep "max_size" then policy.maxSize else CapacityPolicy.standard.maxSize

def ServerConstants.restrict (constants : ServerConstants) : ServerConstants where
  scriptName :=
    if keep "script_name" then constants.scriptName else ServerConstants.standard.scriptName
  selfPath := if keep "self_path" then constants.selfPath else ServerConstants.standard.selfPath
  protocol := if keep "protocol" then constants.protocol else ServerConstants.standard.protocol
  serverName :=
    if keep "server_name" then constants.serverName else ServerConstants.standard.serverName
  serverPort :=
    if keep "server_port" then constants.serverPort else ServerConstants.standard.serverPort
  remoteAddr :=
    if keep "remote_addr" then constants.remoteAddr else ServerConstants.standard.remoteAddr
  scheme := if keep "scheme" then constants.scheme else ServerConstants.standard.scheme
  httpHost := if keep "http_host" then constants.httpHost else ServerConstants.standard.httpHost
  https := if keep "https" then constants.https else ServerConstants.standard.https
  userAgent := if keep "user_agent" then constants.userAgent else ServerConstants.standard.userAgent

def RequestConfig.restrict (config : RequestConfig) : RequestConfig where
  cookieEnv := if keep "cookie_env" then config.cookieEnv else RequestConfig.standard.cookieEnv
  contentTypeEnv :=
    if keep "content_type_env" then config.contentTypeEnv else RequestConfig.standard.contentTypeEnv
  exports := if keep "exports" then config.exports else RequestConfig.standard.exports
  exposeEnv := if keep "expose_env" then config.exposeEnv else RequestConfig.standard.exposeEnv

def CommandConfig.restrict (config : CommandConfig) : CommandConfig where
  programName :=
    if keep "program_name" then config.programName else CommandConfig.standard.programName
  entryScript :=
    if keep "entry_script" then config.entryScript else CommandConfig.standard.entryScript
  workingDir := if keep "working_dir" then config.workingDir else CommandConfig.standard.workingDir
  maxArgs := if keep "max_args" then config.maxArgs else CommandConfig.standard.maxArgs
  env := if keep "env" then config.env else CommandConfig.standard.env
  ini := if keep "ini" then config.ini else CommandConfig.standard.ini

def InterpreterConfig.restrict (config : InterpreterConfig) : InterpreterConfig where
  maxOperations :=
    if keep "max_operations" then config.maxOperations else InterpreterConfig.standard.maxOperations
  maxStringSize :=
    if keep "max_string_size" then config.maxStringSize else InterpreterConfig.standard.maxStringSize
  maxArraySize :=
    if keep "max_array_size" then config.maxArraySize else InterpreterConfig.standard.maxArraySize
  maxMapSize :=
    if keep "max_map_size" then config.maxMapSize else InterpreterConfig.standard.maxMapSize
  maxExprDepth :=
    if keep "max_expr_depth" then config.maxExprDepth else InterpreterConfig.standard.maxExprDepth
  maxFunctionExprDepth :=
    if keep "max_function_expr_depth" then config.maxFunctionExprDepth else InterpreterConfig.standard.maxFunctionExprDepth
  ini := if keep "ini" then config.ini else InterpreterConfig.standard.ini

def ServeConfig.restrict (config : ServeConfig) : ServeConfig where
  listen := if keep "listen" then config.listen else ServeConfig.standard.listen
  script := if keep "script" then config.script else ServeConfig.standard.script
  maxBodySize :=
    if keep "max_body_size" then config.maxBodySize else ServeConfig.standard.maxBodySize
  shutdownTimeout :=
    if keep "shutdown_timeout" then config.shutdownTimeout else ServeConfig.standard.shutdownTimeout
  queueDepth := if keep "queue_depth" then config.queueDepth else ServeConfig.standard.queueDepth
  replayCookies :=
    if keep "replay_cookies" then config.replayCookies else ServeConfig.standard.replayCookies

def LoggingConfig.restrict (config : LoggingConfig) : LoggingConfig where
  level := if keep "level" then config.level else LoggingConfig.standard.level
  json := if keep "json" then config.json else LoggingConfig.standard.json

variable {lists : ListSections}

theorem CapacityPolicy.gives_restrict (policy : CapacityPolicy) :
    Gives lists keep (fun field => .ofJson (field.write policy)) fields .standard
      (policy.restrict keep) :=
  .of (Setting.restores_word _ lists) rfl <|
  .of (Setting.restores_word _ lists) rfl <| .nil _

theorem ServerConstants.gives_restrict (constants : ServerConstants) :
    Gives lists keep (fun field => .ofJson (field.write constants)) fields .standard
      (constants.restrict keep) :=
  .of (Setting.restores_text _ lists) rfl <|
  .of (Setting.restores_text _ lists) rfl <|
  .of (Setting.restores_text _ lists) rfl <|
  .of (Setting.restores_text _ lists) rfl <|
  .of (Setting.restores_port _ lists) rfl <|
  .of (Setting.restores_text _ lists) rfl <|
  .of (Setting.restores_text _ lists) rfl <|
  .of (Setting.restores_text _ lists) rfl <|
  .of (Setting.restores_text _ lists) rfl <|
  .of (Setting.restores_text _ lists) rfl <| .nil _

theorem RequestConfig.gives_restrict (config : RequestConfig)
    (ordered : Table.Ordered config.exports) :
    Gives lists keep (fun field => .ofJson (field.write config)) fields .standard
      (config.restrict keep) :=
  .of (Setting.restores_text _ lists) rfl <|
  .of (Setting.restores_text _ lists) rfl <|
  .of (Setting.restores_texts ordered lists) rfl <|
  .of (Setting.restores_bool _ lists) rfl <| .nil _

theorem CommandConfig.gives_restrict (config : CommandConfig)
    (orderedEnv : Table.Ordered config.env) (orderedIni : Table.Ordered config.ini) :
    Gives lists keep (fun field => .ofJson (field.write config)) fields .standard
      (config.restrict keep) :=
  .of (Setting.restores_text _ lists) rfl <|
  .of (Setting.restores_text _ lists) rfl <|
  .of (Setting.restores_text _ lists) rfl <|
  .of (Setting.restores_word _ lists) rfl <|
  .of (Setting.restores_texts orderedEnv lists) rfl <|
  .of (Setting.restores_texts orderedIni lists) rfl <| .nil _

theorem InterpreterConfig.gives_restrict (config : InterpreterConfig)
    (ordered : Table.Ordered config.ini) :
    Gives lists keep (fun field => .ofJson (field.write config)) fields .standard
      (config.restrict keep) :=
  .of (Setting.restores_word _ lists) rfl <|
  .of (Setting.restores_word _ lists) rfl <|
  .of (Setting.restores_word _ lists) rfl <|
  .of (Setting.restores_word _ lists) rfl <|
  .of (Setting.restores_word _ lists) rfl <|
  .of (Setting.restores_word _ lists) rfl <|
  .of (Setting.restores_texts ordered lists) rfl <| .nil _

theorem ServeConfig.gives_restrict (config : ServeConfig) :
    Gives lists keep (fun field => .ofJson (field.write config)) fields .standard
      (config.restrict keep) :=
  .of (Setting.restores_address _ lists) rfl <|
  .of (Setting.restores_text _ lists) rfl <|
  .of (Setting.restores_word _ lists) rfl <|
  .of (Setting.restores_duration _ lists) rfl <|
  .of (Setting.restores_word _ lists) rfl <|
  .of (Setting.restores_bool _ lists) rfl <| .nil _

theorem LoggingConfig.gives_restrict (config : LoggingConfig) :
    Gives lists keep (fun field => .ofJson (field.write config)) fields .standard
      (config.restrict keep) :=
  .of (Setting.restores_text _ lists) rfl <|
  .of (Setting.restores_bool _ lists) rfl <| .nil _

end Restriction

@[simp]
theorem CapacityPolicy.isPlain_write (policy : CapacityPolicy) :
    (CapacityPolicy.setting.write policy).IsPlain :=
  Field.isPlain_write (by simp [fields, Field.of]) _ _

@[simp]
theorem ServerConstants.isPlain_write (constants : ServerConstants) :
    (ServerConstants.setting.write constants).IsPlain :=
  Field.isPlain_write (by simp [fields, Field.of]) _ _

@[simp]
theorem RequestConfig.isPlain_write (config : RequestConfig) :
    (RequestConfig.setting.write config).IsPlain :=
  Field.isPlain_write (by simp [fields, Field.of]) _ _

@[simp]
theorem CommandConfig.isPlain_write (config : CommandConfig) :
    (CommandConfig.setting.write config).IsPlain :=
  Field.isPlain_write (by simp [fields, Field.of]) _ _

@[simp]
theorem InterpreterConfig.isPlain_write (config : InterpreterConfig) :
    (InterpreterConfig.setting.write config).IsPlain :=
  Field.isPlain_write (by simp [fields, Field.of]) _ _

@[simp]
theorem ServeConfig.isPlain_write (config : ServeConfig) :
    (ServeConfig.setting.write config).IsPlain :=
  Field.isPlain_write (by simp [fields, Field.of]) _ _

@[simp]
theorem LoggingConfig.isPlain_write (config : LoggingConfig) :
    (LoggingConfig.setting.write config).IsPlain :=
  Field.isPlain_write (by simp [fields, Field.of]) _ _

namespace Config

variable (keepSection : String → Bool) (keepField : String → String → Bool) (config : Config)

/-- The kept fields of the kept sections, with standard values for all others. -/
def restrict : Config where
  buffer :=
    if keepSection "buffer" then config.buffer.restrict (keepField "buffer") else .standard
  serverInfo :=
    if keepSection "server_info" then config.serverInfo.restrict (keepField "server_info") else .standard
  request :=
    if keepSection "request" then config.request.restrict (keepField "request") else .standard
  command :=
    if keepSection "command" then config.command.restrict (keepField "command") else .standard
  interpreter :=
    if keepSection "interpreter" then config.interpreter.restrict (keepField "interpreter") else .standard
  serve :=
    if keepSection "serve" then config.serve.restrict (keepField "serve") else .standard
  logging :=
    if keepSection "logging" then config.logging.restrict (keepField "logging") else .standard

/-- What is left of a printed configuration when all but some sections, and in these all but some
    fields, are deleted. -/
def excerpt : Json :=
  match config.toJson.keepMembers keepSection with
  | .object sections =>
    .object (sections.map fun part => (part.1, part.2.keepMembers (keepField part.1)))
  | json => json

/-- Whether the tables of a configuration are in the order of their names. -/
structure IsOrdered : Prop where
  exports : Table.Ordered config.request.exports
  env : Table.Ordered config.command.env
  commandIni : Table.Ordered config.command.ini
  interpreterIni : Table.Ordered config.interpreter.ini

theorem excerpt_eq : config.excerpt keepSection keepField =
    .object ((fields.filter fun field => keepSection field.name).map
      fun field => (field.name, (field.write config).keepMembers (keepField field.name))) := by
  have sections : config.toJson.keepMembers keepSection = _ :=
    Field.keepMembers_writeSection fields config keepSection
  rw [excerpt, sections]
  simp only [List.map_map]
  rfl

variable {lists : ListSections} {config}

theorem gives_restrict (ordered : config.IsOrdered) :
    Gives lists keepSection
      (fun field => .ofJson ((field.write config).keepMembers (keepField field.name))) fields
      .standard (config.restrict keepSection keepField) :=
  .of (Field.read_keepMembers (CapacityPolicy.gives_restrict _ config.buffer) (by decide)) rfl <|
  .of (Field.read_keepMembers (ServerConstants.gives_restrict _ config.serverInfo) (by decide)) rfl <|
  .of (Field.read_keepMembers (RequestConfig.gives_restrict _ config.request ordered.exports) (by decide)) rfl <|
  .of (Field.read_keepMembers (CommandConfig.gives_restrict _ config.command ordered.env ordered.commandIni) (by decide)) rfl <|
  .of (Field.read_keepMembers (InterpreterConfig.gives_restrict _ config.interpreter ordered.interpreterIni) (by decide)) rfl <|
  .of (Field.read_keepMembers (ServeConfig.gives_restrict _ config.serve) (by decide)) rfl <|
  .of (Field.read_keepMembers (LoggingConfig.gives_restrict _ config.logging) (by decide)) rfl <| .nil _

theorem read_excerpt (ordered : config.IsOrdered) :
    Config.setting.read lists (.ofJson (config.excerpt keepSection keepField)) =
      some (config.restrict keepSection keepField) := by
  have read := Field.readSection_of_gives
    (@gives_restrict keepSection keepField config lists ordered) (by decide)
  rw [excerpt_eq, Document.ofJson, Document.ofJsonMembers_eq_map, List.map_map]
  exact read

theorem excerpt_all (config : Config) :
    config.excerpt (fun _ => true) (fun _ _ => true) = config.toJson := by
  have all : ∀ json : Json, json.keepMembers (fun _ => true) = json := fun json => by
    cases json <;> simp [Json.keepMembers]
  rw [excerpt_eq]
  have whole : fields.filter (fun _ => true) = fields := rfl
  simp only [all, whole]
  rfl

theorem isPlain_toJson (config : Config) : config.toJson.IsPlain := by
  refine Field.isPlain_write ?_ .standard config
  simp [fields, Field.of]

end Config

end ScriptBridge
