import ScriptBridge.CommandLine.Help
import ScriptBridge.CommandLine.Reading
import ScriptBridge.Request.Descriptor

/-!
# Invocations

What the program can be asked to do on its command line. Three options stand before or after the
name of the command; the one behind the name counts if both are given.
-/

namespace ScriptBridge

/-- What the program is asked to do. -/
inductive Task where
  | serve (script : Option String) (listen : Option SocketAddress)
  | request (script : String) (request : Request) (headers : List String)
  | command (publicDir : String) (arguments : List String)
  /-- Checks a configuration, and prints it if asked. -/
  | validate (print : Bool)
  | version
  deriving Repr, DecidableEq

/-- A task with the options that every task has. -/
structure Invocation where
  configPath : Option String
  logLevel : Option String
  jsonLogs : Bool
  task : Task
  deriving Repr, DecidableEq

/-- Why nothing is to be done. -/
inductive Refusal where
  | misuse
  | shows (text : String)
  deriving Repr, DecidableEq

namespace Invocation

def programName : String := "ember"

def programVersion : String := "0.1.0"

/-- The options that every task has. -/
def sharedOptions : List OptionSpec :=
  [{ OptionSpec.valued "config" (some 'c') .path 0 "CONFIG"
      "Path to configuration file (YAML, TOML or JSON)" with envName := some "EMBER_CONFIG" },
   .valued "log-level" (some 'l') .text 1 "LOG_LEVEL"
    "Log level (trace, debug, info, warn, error); overrides the config file",
   .bare "json-logs" none .flag 2 "Emit logs as JSON lines"]

def helpOption : OptionSpec :=
  .bare "help" (some 'h') .help 999 "Print help"

def versionOption : OptionSpec :=
  .bare "version" (some 'V') .version 999 "Print version"

/-- The line before the name of a command. -/
def topGrammar : Grammar where
  name := programName
  summary := "Embedded script interpreter bridge"
  options := sharedOptions ++ [helpOption, versionOption]
  operand := none

def commandGrammar (name summary : String) (options : List OptionSpec)
    (operand : Option OperandSpec) : Grammar :=
  ⟨name, summary, options ++ sharedOptions ++ [helpOption], operand⟩

/-- The line of `serve`. -/
def serveGrammar : Grammar :=
  commandGrammar "serve" "Serve one script over HTTP"
    [.valued "script" (some 's') .path 0 "SCRIPT" "Script executed for every request",
     .valued "listen" none .address 1 "LISTEN" "Listen address"]
    none

/-- The line of `request`. -/
def requestGrammar : Grammar :=
  commandGrammar "request" "Run a script once for a single request and print the raw response"
    [{ OptionSpec.valued "uri" (some 'u') .text 0 "URI" "Request URI, query included" with
        standard := some "/" },
     { OptionSpec.valued "method" (some 'X') .text 1 "METHOD" "HTTP method" with
        standard := some "GET" },
     .valued "data" (some 'd') .text 2 "DATA" "Request body",
     .valued "content-type" none .text 3 "CONTENT_TYPE" "Content type of the body",
     { OptionSpec.valued "header" (some 'H') .text 4 "HEADERS"
        "Request header as `Name: Value` (repeatable)" with role := .repeated }]
    (some ⟨"SCRIPT", .path, false, "Script to execute"⟩)

/-- The line of `command`. -/
def consoleGrammar : Grammar :=
  commandGrammar "command" "Run a console command through the entry script"
    [{ OptionSpec.valued "app-public" (some 'a') .path 0 "APP_PUBLIC"
        "Public directory of the application" with standard := some "public" }]
    (some ⟨"ARGS", .text, true, "Command line handed to the entry script"⟩)

/-- The line of `validate`. -/
def validateGrammar : Grammar :=
  commandGrammar "validate" "Validate configuration file"
    [.bare "print" none .flag 0 "Print the effective configuration as JSON"] none

/-- The line of `version`. -/
def versionGrammar : Grammar :=
  commandGrammar "version" "Show version information" [] none

def grammars : List Grammar :=
  [serveGrammar, requestGrammar, consoleGrammar, validateGrammar, versionGrammar]

def grammar? (name : String) : Option Grammar :=
  grammars.find? (·.name == name)

/-- The value of an option, or the one that counts when none is given. -/
def valueOr (grammar : Grammar) (name : String) (arguments : Arguments) : String :=
  match arguments.value? name with
  | some value => value
  | none => ((grammar.long? name).bind (·.standard)).getD ""

def taskOf (grammar : Grammar) (arguments : Arguments) : Option Task :=
  match grammar.name with
  | "serve" =>
    some (.serve (arguments.value? "script")
      ((arguments.value? "listen").bind SocketAddress.parse?))
  | "request" =>
    let request : Request :=
      { method := valueOr grammar "method" arguments
        uri := valueOr grammar "uri" arguments
        contentType := arguments.value? "content-type"
        body := (arguments.value? "data").map utf8 }
    some (.request (arguments.operands.headD "") request (arguments.values "header"))
  | "command" => some (.command (valueOr grammar "app-public" arguments) arguments.operands)
  | "validate" => some (.validate (arguments.has "print"))
  | "version" => some .version
  | _ => none

def helpCommand : HelpRow :=
  ⟨"help", "Print this message or the help of the given subcommand(s)"⟩

def topHelp (vars : Table String) : String :=
  let rows := grammars.map fun grammar => HelpRow.mk grammar.name grammar.summary
  Help.render vars programName (rows ++ [helpCommand]) topGrammar

def commandHelp (vars : Table String) (grammar : Grammar) : String :=
  Help.render vars (programName ++ " " ++ grammar.name) [] grammar

def helpHelp : String :=
  let operand := "[COMMAND]..."
  "\n\n".intercalate
    [helpCommand.summary, "Usage: " ++ programName ++ " help " ++ operand,
     "Arguments:\n" ++ Help.table [⟨operand, "Print help for the subcommand(s)"⟩]] ++ "\n"

/-- What is shown for the words behind `help`. -/
def helpFor (vars : Table String) : List String → Refusal
  | [] => .shows (topHelp vars)
  | [name] =>
    if name == helpCommand.name then .shows helpHelp
    else
      match grammar? name with
      | some grammar => .shows (commandHelp vars grammar)
      | none => .misuse
  | _ => .misuse

/-- What is shown when the reading of a line ends early. -/
def refusal (help : String) : Halt → Refusal
  | .misuse => .misuse
  | .help => .shows help
  | .version => .shows (programName ++ " " ++ programVersion ++ "\n")

def sharedValue? (name : String) (top command : Arguments) : Option String :=
  command.value? name <|> top.value? name <|> top.ambient.lookup name <|>
    command.ambient.lookup name

def readCommand (vars : Table String) (grammar : Grammar) (words : List String) :
    Except Halt Arguments := do
  let (reading, _) ← Reading.start.readWords grammar [] words
  reading.finish vars grammar

/-- The invocation of a command whose line follows that of the program. -/
def ofCommand (vars : Table String) (top : Reading) (grammar : Grammar) (words : List String) :
    Except Refusal Invocation := do
  let arguments ← (readCommand vars grammar words).mapError (refusal (commandHelp vars grammar))
  let above ← (top.finish vars topGrammar).mapError (refusal (topHelp vars))
  match taskOf grammar arguments with
  | none => .error .misuse
  | some task =>
    .ok
      { configPath := sharedValue? "config" above arguments
        logLevel := sharedValue? "log-level" above arguments
        jsonLogs := above.has "json-logs" || arguments.has "json-logs"
        task }

def read (vars : Table String) (words : List String) : Except Refusal Invocation :=
  let names := helpCommand.name :: grammars.map (·.name)
  match Reading.start.readWords topGrammar names words with
  | .error halt => .error (refusal (topHelp vars) halt)
  | .ok (_, none) => .error .misuse
  | .ok (top, some (name, rest)) =>
    match grammar? name with
    | some grammar => ofCommand vars top grammar rest
    | none => .error (helpFor vars rest)

end Invocation

end ScriptBridge
