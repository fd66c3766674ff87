import ScriptBridge.SocketAddress

/-!
# Grammars of command lines

What may stand on a command line: options, each by a long and perhaps a short name, and operands. A
grammar is data, from which a line is read and its help is written.
-/

namespace ScriptBridge

/-- Which values can be given. -/
inductive Content where
  | text
  /-- A path, which is not empty. -/
  | path
  | address
  deriving Repr, DecidableEq

def Content.accepts : Content → String → Bool
  | .text, _ => true
  | .path, value => !value.isEmpty
  | .address, value => (SocketAddress.parse? value).isSome

/-- What an option is for. -/
inductive OptionRole where
  /-- Stands alone and is given once at most. -/
  | flag
  /-- Has a value and is given once at most. -/
  | single
  | repeated
  /-- Asks for help instead of anything else. -/
  | help
  /-- Asks for the version instead of anything else. -/
  | version
  deriving Repr, DecidableEq

/-- An option. -/
structure OptionSpec where
  name : String
  short : Option Char
  role : OptionRole
  content : Content
  placeholder : String
  summary : String
  /-- The value that counts when none is given. -/
  standard : Option String
  /-- The variable that is looked at when no value is given. -/
  envName : Option String
  /-- Options of lower rank come first in the help. -/
  rank : Nat
  deriving Repr, DecidableEq

namespace OptionSpec

def takesValue (spec : OptionSpec) : Bool :=
  match spec.role with
  | .single | .repeated => true
  | .flag | .help | .version => false

/-- An option without a value. -/
def bare (name : String) (short : Option Char) (role : OptionRole) (rank : Nat)
    (summary : String) : OptionSpec :=
  ⟨name, short, role, .text, "", summary, none, none, rank⟩

def valued (name : String) (short : Option Char) (content : Content) (rank : Nat)
    (placeholder summary : String) : OptionSpec :=
  ⟨name, short, .single, content, placeholder, summary, none, none, rank⟩

end OptionSpec

/-- What stands on a line beside the options. -/
structure OperandSpec where
  placeholder : String
  content : Content
  /-- Whether everything from the first operand on is an operand, whatever it looks like. -/
  trailing : Bool
  summary : String
  deriving Repr, DecidableEq

/-- A command with its options and operands. -/
structure Grammar where
  name : String
  summary : String
  options : List OptionSpec
  operand : Option OperandSpec
  deriving Repr, DecidableEq

namespace Grammar

def long? (grammar : Grammar) (name : String) : Option OptionSpec :=
  grammar.options.find? (·.name == name)

def short? (grammar : Grammar) (c : Char) : Option OptionSpec :=
  grammar.options.find? (·.short == some c)

/-- Whether operands may look like options that there are not. -/
def takesAnything (grammar : Grammar) : Bool :=
  grammar.operand.any (·.trailing)

end Grammar

end ScriptBridge
