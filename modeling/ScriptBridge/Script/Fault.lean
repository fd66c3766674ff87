import ScriptBridge.Fault
import ScriptBridge.Script.Datum
import ScriptBridge.Script.Position

/-!
# Faults of scripts

Why a script does not compile, and why it stops while it runs. Both are causes at a place; `message`
gives the wording of a cause.
-/

namespace ScriptBridge.Script

/-- Why a script does not compile. -/
inductive CompileCause where
  | expectedName
  | openText
  | longText (limit : Nat)
  | badEscape (written : String)
  | badChar (written : String)
  | badNumber (written : String)
  | badName (written : String)
  /-- A mark that other languages have, with advice. -/
  | foreignMark (advice : String)
  | expected (token purpose : String)
  | unexpected (token : String)
  | incomplete
  | reserved (word : String)
  | reservedMark (mark : String)
  | unknownOperator (mark : String)
  | outsideFunction (word : String)
  | outsideLoop
  | innerExport
  | expectedProperty
  | repeatedProperty (name : String)
  | constantValue
  | constantName (name : String)
  | notAssignable
  | notEquality
  | notCondition
  | notExpression (wanted : String)
  | mismatch (wanted given : String)
  | keyMismatch (container wanted given : String)
  | tooManyItems (limit : Nat)
  | tooManyEntries (limit : Nat)
  | tooDeep
  deriving Repr, DecidableEq

def CompileCause.message : CompileCause → String
  | .expectedName => "Expecting name of a variable"
  | .openText => "Open string is not terminated"
  | .longText limit => "Length of string exceeds the maximum limit (" ++ toString limit ++ ")"
  | .badEscape written => "Invalid escape sequence: '" ++ written ++ "'"
  | .badChar written => "Invalid character: '" ++ written ++ "'"
  | .badNumber written => "Invalid number: '" ++ written ++ "'"
  | .badName written => "Variable name is not proper: '" ++ written ++ "'"
  | .foreignMark advice => advice
  | .expected token purpose => "Expecting '" ++ token ++ "' " ++ purpose
  | .unexpected token => "Unexpected '" ++ token ++ "'"
  | .incomplete => "Script is incomplete"
  | .reserved word => "'" ++ word ++ "' is a reserved keyword"
  | .reservedMark mark => "'" ++ mark ++ "' is a reserved symbol"
  | .unknownOperator mark => "Unknown operator: '" ++ mark ++ "'"
  | .outsideFunction word => "'" ++ word ++ "' can only be used in functions"
  | .outsideLoop => "Break statement should only be used inside a loop"
  | .innerExport => "Export statement can only appear at global level"
  | .expectedProperty => "Expecting name of a property"
  | .repeatedProperty name => "Duplicated property for object map literal: " ++ name
  | .constantValue => "Cannot assign to a constant value"
  | .constantName name => "Cannot assign to constant " ++ name
  | .notAssignable => "Expression cannot be assigned to"
  | .notEquality => "Possibly a typo of '=='?"
  | .notCondition => "Expecting a boolean expression, not an assignment"
  | .notExpression wanted => "Expecting " ++ wanted ++ " expression"
  | .mismatch wanted given => "Expecting " ++ wanted ++ ", not " ++ given
  | .keyMismatch container wanted given =>
    container ++ " expects " ++ wanted ++ " index, not " ++ given
  | .tooManyItems limit =>
    "Size of array literal exceeds the maximum limit (" ++ toString limit ++ ")"
  | .tooManyEntries limit =>
    "Number of properties in object map literal exceeds the maximum limit (" ++ toString limit ++
      ")"
  | .tooDeep => "Expression exceeds maximum complexity"

/-- A cause at a place. -/
structure CompileFault where
  cause : CompileCause
  pos : Position
  deriving Repr, DecidableEq

def CompileFault.message (fault : CompileFault) : String :=
  fault.cause.message ++ " " ++ fault.pos.render

def CompileFault.toScriptFault (fault : CompileFault) : ScriptFault :=
  .compilation fault.message (some fault.pos.line) (some fault.pos.column)

/-- What can go wrong in arithmetic on integers of 64 bits. -/
inductive ArithmeticFault where
  | addition
  | subtraction
  | multiplication
  | division
  | divisionByZero
  | remainder
  deriving Repr, DecidableEq

def ArithmeticFault.message (a b : String) : ArithmeticFault → String
  | .addition => "Addition overflow: " ++ a ++ " + " ++ b
  | .subtraction => "Subtraction overflow: " ++ a ++ " - " ++ b
  | .multiplication => "Multiplication overflow: " ++ a ++ " * " ++ b
  | .division => "Division overflow: " ++ a ++ " / " ++ b
  | .divisionByZero => "Division by zero: " ++ a ++ " / " ++ b
  | .remainder => "Modulo division by zero or overflow: " ++ a ++ " % " ++ b

/-- A container that an index can be out of. -/
inductive Container where
  | array
  | text
  | bits
  deriving Repr, DecidableEq

def Container.boundsMessage (index : Int) (size : Nat) : Container → String
  | .array =>
    "Array index " ++ toString index ++ " out of bounds: " ++
      match size with
      | 0 => "array is empty"
      | 1 => "only 1 element in array"
      | n => "only " ++ toString n ++ " elements in array"
  | .text =>
    "String index " ++ toString index ++ " out of bounds: " ++
      match size with
      | 0 => "string is empty"
      | 1 => "only 1 character in string"
      | n => "only " ++ toString n ++ " characters in string"
  | .bits =>
    "Bit-field index " ++ toString index ++ " out of bounds: only " ++ toString size ++
      " bits in bit-field"

/-- Why a script stops. -/
inductive RunCause where
  | thrown (shown : String)
  | badStatus (code : Int)
  | badHandle (handle : String)
  | unknownVariable (name : String)
  | unknownFunction (name : String) (argumentTypes : List String)
  | unknownModule (name : String)
  /-- A fault of a module that was imported from a path, as it is shown. -/
  | inModule (path shown : String)
  | unknownProperty (name typeName : String)
  | unwritableProperty (name typeName valueType : String)
  | constant (name : String)
  | outOfBounds (container : Container) (index : Int) (size : Nat)
  | notIndexable (typeName keyType : String)
  | unwritableIndex (typeName keyType valueType : String)
  | wrongType (actual expected : String)
  | arithmetic (fault : ArithmeticFault) (left right : Int64)
  | negation (value : Int64)
  | notIterable
  | tooManyOperations
  | textTooLong
  | arrayTooLong
  | mapTooLarge
  deriving Repr, DecidableEq

def RunCause.message : RunCause → String
  | .thrown shown => if shown.isEmpty then "Runtime error" else "Runtime error: " ++ shown
  | .badStatus code => "Runtime error: invalid HTTP status code " ++ toString code
  | .badHandle handle => "Runtime error: invalid stream handle " ++ Text.quoted handle
  | .unknownVariable name => "Variable not found: " ++ name
  | .unknownFunction name argumentTypes =>
    "Function not found: " ++ name ++ " (" ++ String.intercalate ", " argumentTypes ++ ")"
  | .unknownModule name => "Module not found: " ++ name
  | .inModule path shown =>
    shown ++ " in module" ++ if path.isEmpty then "" else " '" ++ path ++ "'"
  | .unknownProperty name typeName =>
    "Unknown property '" ++ name ++ "' - a getter is not registered for type '" ++ typeName ++ "'"
  | .unwritableProperty name typeName valueType =>
    "No writable property '" ++ name ++ "' - a setter is not registered for type '" ++ typeName ++
      "' to handle '" ++ valueType ++ "'"
  | .constant name => "Cannot modify constant " ++ name
  | .outOfBounds container index size => container.boundsMessage index size
  | .notIndexable typeName keyType =>
    "Indexer unavailable: " ++ typeName ++ " [" ++ keyType ++ "]"
  | .unwritableIndex typeName keyType valueType =>
    "Indexer unavailable: " ++ typeName ++ " [" ++ keyType ++ "] = " ++ valueType
  | .wrongType actual expected =>
    "Data type incorrect: " ++ actual ++ " (expecting " ++ expected ++ ")"
  | .arithmetic fault left right =>
    fault.message (toString left.toInt) (toString right.toInt)
  | .negation value => "Negation overflow: -" ++ toString value.toInt
  | .notIterable => "For loop expects iterable type"
  | .tooManyOperations => "Too many operations"
  | .textTooLong => "Length of string too large"
  | .arrayTooLong => "Size of array/BLOB too large"
  | .mapTooLarge => "Size of object map too large"

/-- A cause at a place. -/
structure RunFault where
  cause : RunCause
  pos : Position
  deriving Repr, DecidableEq

def RunFault.message (fault : RunFault) : String :=
  fault.cause.message ++ " " ++ fault.pos.render

def RunFault.toScriptFault (fault : RunFault) : ScriptFault :=
  .runtime fault.message (some fault.pos.line)

end ScriptBridge.Script
