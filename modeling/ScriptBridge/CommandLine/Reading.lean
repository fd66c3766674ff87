import ScriptBridge.CommandLine.Grammar
import ScriptBridge.Table
import ScriptBridge.Text.Cut

/-!
# Reading command lines

A line is read word by word. A value is checked when the next option or operand is met, or at the
end, so that of two things that end the reading the one that is met first counts.
-/

namespace ScriptBridge

/-- Why a line is not read to its end. -/
inductive Halt where
  /-- The line does not follow the grammar. -/
  | misuse
  | help
  | version
  deriving Repr, DecidableEq

/-- What was met last and is not checked yet. -/
inductive Pending where
  | option (spec : OptionSpec) (value : Option String)
  | operand (spec : OperandSpec) (value : String)
  deriving Repr, DecidableEq

/-- What was read of a line. -/
structure Reading where
  pending : Option Pending
  given : List (String × String)
  operands : List String
  /-- Whether only operands can follow. -/
  behind : Bool
  deriving Repr, DecidableEq

namespace Reading

/-- Nothing is read yet. -/
def start : Reading := ⟨none, [], [], false⟩

def has (name : String) (reading : Reading) : Bool :=
  reading.given.any (·.1 == name)

def record (spec : OptionSpec) (value : String) (reading : Reading) : Except Halt Reading :=
  if spec.role ≠ .repeated ∧ reading.has spec.name then .error .misuse
  else if spec.content.accepts value then
    .ok { reading with given := reading.given ++ [(spec.name, value)] }
  else .error .misuse

/-- Checks what was met last. -/
def flush (reading : Reading) : Except Halt Reading :=
  let rest := { reading with pending := none }
  match reading.pending with
  | none => .ok rest
  | some (.option _ none) => .error .misuse
  | some (.option spec (some value)) => rest.record spec value
  | some (.operand spec value) =>
    if spec.content.accepts value then .ok { rest with operands := rest.operands ++ [value] }
    else .error .misuse

/-- Whether the last option still needs a value. -/
def lacksValue (reading : Reading) : Bool :=
  match reading.pending with
  | some (.option _ none) => true
  | _ => false

/-- Reads an option that has no value. -/
def readBare (spec : OptionSpec) (reading : Reading) : Except Halt Reading := do
  let reading ← reading.flush
  match spec.role with
  | .help => .error .help
  | .version => .error .version
  | .flag | .single | .repeated => reading.record spec ""

/-- Reads an option that has a value, which may be attached to it. -/
def readValued (spec : OptionSpec) (attached : Option String) (reading : Reading) :
    Except Halt Reading := do
  let reading ← reading.flush
  match attached with
  | some value => reading.record spec value
  | none => .ok { reading with pending := some (.option spec none) }

/-- Reads the short options of one word. The first that has a value takes the rest of the word. -/
def readCluster (grammar : Grammar) : List Char → Reading → Except Halt Reading
  | [], reading => .ok reading
  | c :: rest, reading =>
    match grammar.short? c with
    | none => .error .misuse
    | some spec =>
      if spec.takesValue then
        match rest with
        | [] => reading.readValued spec none
        | '=' :: value => reading.readValued spec (some (String.ofList value))
        | value => reading.readValued spec (some (String.ofList value))
      else do readCluster grammar rest (← reading.readBare spec)

/-- Reads a long option, whose value may stand behind an equals sign. -/
def readLong (spec : OptionSpec) (attached : Option String) (reading : Reading) :
    Except Halt Reading :=
  if spec.takesValue then reading.readValued spec attached
  else
    match attached with
    | some _ => .error .misuse
    | none => reading.readBare spec

def readOperand (grammar : Grammar) (word : String) (reading : Reading) :
    Except Halt Reading := do
  match grammar.operand with
  | none => .error .misuse
  | some spec =>
    let reading ← reading.flush
    if spec.trailing then
      .ok { reading with operands := reading.operands ++ [word], behind := true }
    else if reading.operands.isEmpty then
      .ok { reading with pending := some (.operand spec word) }
    else .error .misuse

/-- Reads a word that is no option: a value, if one is needed, and else an operand. -/
def readPlain (grammar : Grammar) (word : String) (reading : Reading) : Except Halt Reading :=
  match reading.pending with
  | some (.option spec none) =>
    .ok { reading with pending := some (.option spec (some word)) }
  | _ => reading.readOperand grammar word

def readWord (grammar : Grammar) (word : String) (reading : Reading) : Except Halt Reading :=
  if reading.behind then reading.readOperand grammar word
  else
    match word.toList with
    | ['-', '-'] => .ok { reading with behind := true }
    | '-' :: '-' :: cs =>
      let (name, attached) := match cutFirst? '=' cs with
        | some (name, value) => (String.ofList name, some (String.ofList value))
        | none => (String.ofList cs, none)
      match grammar.long? name with
      | some spec => reading.readLong spec attached
      | none =>
        if grammar.takesAnything then reading.readPlain grammar word else .error .misuse
    | '-' :: c :: cs =>
      if grammar.takesAnything && (c :: cs).any fun c => (grammar.short? c).isNone then
        reading.readPlain grammar word
      else readCluster grammar (c :: cs) reading
    | _ => reading.readPlain grammar word

/-- Reads words up to one of some names: what was read, and the name with the words behind it. -/
def readWords (grammar : Grammar) (names : List String) :
    List String → Reading → Except Halt (Reading × Option (String × List String))
  | [], reading => .ok (reading, none)
  | word :: words, reading =>
    if !reading.behind && !reading.lacksValue && names.contains word then
      .ok (reading, some (word, words))
    else do readWords grammar names words (← reading.readWord grammar word)

end Reading

/-- What stood on a line. -/
structure Arguments where
  given : List (String × String)
  /-- Values that variables gave to options that were not on the line. -/
  ambient : List (String × String)
  operands : List String
  deriving Repr, DecidableEq

namespace Arguments

def value? (name : String) (arguments : Arguments) : Option String :=
  arguments.given.lookup name

def values (name : String) (arguments : Arguments) : List String :=
  (arguments.given.filter (·.1 == name)).map (·.2)

def has (name : String) (arguments : Arguments) : Bool :=
  (arguments.value? name).isSome

end Arguments

namespace Reading

/-- The value that a variable gives to an option that is not on the line. -/
def ambientValue? (vars : Table String) (reading : Reading) (spec : OptionSpec) :
    Option (OptionSpec × String) := do
  let value ← Table.get? (← spec.envName) vars
  if reading.has spec.name then none else some (spec, value)

/-- Ends the reading: takes values from variables and sees to it that an operand is there. -/
def finish (vars : Table String) (grammar : Grammar) (reading : Reading) :
    Except Halt Arguments := do
  let reading ← reading.flush
  let ambient := grammar.options.filterMap (reading.ambientValue? vars)
  if ambient.any fun (spec, value) => !spec.content.accepts value then .error .misuse
  else if grammar.operand.isSome && reading.operands.isEmpty then .error .misuse
  else .ok ⟨reading.given, ambient.map fun (spec, value) => (spec.name, value), reading.operands⟩

end Reading

end ScriptBridge
