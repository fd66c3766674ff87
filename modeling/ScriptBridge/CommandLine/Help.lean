import ScriptBridge.CommandLine.Grammar
import ScriptBridge.Table
import ScriptBridge.Text.Cut

/-!
# Help

The help of a grammar: what the command is for, how it is used, and a table for each kind of thing
that may stand on its line.
-/

namespace ScriptBridge

/-- A row of a table of help. -/
structure HelpRow where
  name : String
  summary : String
  deriving Repr, DecidableEq

namespace Help

def blanks (n : Nat) : String :=
  String.ofList (List.replicate n ' ')

/-- A table of rows, with the summaries in a column beside the names. -/
def table (rows : List HelpRow) : String :=
  let width := rows.foldl (fun width row => max width row.name.length) 2
  "\n".intercalate (rows.map fun row =>
    "  " ++ row.name ++ blanks (width + 2 - row.name.length) ++ row.summary)

def optionName (spec : OptionSpec) : String :=
  let short := match spec.short with
    | some c => String.ofList ['-', c] ++ ", "
    | none => blanks 4
  let value := if spec.takesValue then " <" ++ spec.placeholder ++ ">" else ""
  short ++ "--" ++ spec.name ++ value

/-- What an option is for, with the variable and the standard value that stand in for its value. -/
def optionSummary (vars : Table String) (spec : OptionSpec) : String :=
  let ambient := spec.envName.map fun name =>
    " [env: " ++ name ++ "=" ++ (Table.get? name vars).getD "" ++ "]"
  let standard := spec.standard.map fun value => " [default: " ++ value ++ "]"
  spec.summary ++ ambient.getD "" ++ standard.getD ""

/-- What options of one rank are ordered by: the short name, small before large, or the long one. -/
def optionKey (spec : OptionSpec) : String :=
  match spec.short with
  | some c => String.ofList [c.toLower, if c.isLower then '0' else '1']
  | none => spec.name

def sorted (options : List OptionSpec) : List OptionSpec :=
  options.mergeSort fun a b =>
    a.rank < b.rank || (a.rank == b.rank && optionKey a ≤ optionKey b)

def optionRows (vars : Table String) (options : List OptionSpec) : List HelpRow :=
  (sorted options).map fun spec => ⟨optionName spec, optionSummary vars spec⟩

def operandName (spec : OperandSpec) : String :=
  "<" ++ spec.placeholder ++ ">" ++ if spec.trailing then "..." else ""

/-- The help of a command that is used as `usage`, with the commands that it has itself. -/
def render (vars : Table String) (usage : String) (commands : List HelpRow) (grammar : Grammar) :
    String :=
  let operand := grammar.operand.map operandName
  let line := [usage, "[OPTIONS]"] ++ operand.toList ++
    if commands.isEmpty then [] else ["<COMMAND>"]
  let sections :=
    (if commands.isEmpty then [] else ["Commands:\n" ++ table commands]) ++
    (grammar.operand.map fun spec =>
      "Arguments:\n" ++ table [⟨operandName spec, spec.summary⟩]).toList ++
    ["Options:\n" ++ table (optionRows vars grammar.options)]
  "\n\n".intercalate ([grammar.summary, "Usage: " ++ " ".intercalate line] ++ sections) ++ "\n"

end Help

end ScriptBridge
