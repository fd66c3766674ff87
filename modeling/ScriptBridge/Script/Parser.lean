import ScriptBridge.Script.Allowance
import ScriptBridge.Script.Simplification
import ScriptBridge.Script.Token.Lexer

/-!
# Reading programs

`Program.compile` reads the tokens of a script as statements and simplifies them. Names that a
script declares are known while it is read, so that a constant cannot be assigned to; `break` is
refused outside of loops, and what certainly has the wrong type as a condition or as a key.
-/

namespace ScriptBridge.Script

/-- Where reading stands. -/
structure Cursor where
  lexemes : List Lexeme
  /-- The names declared so far, the last one first, and whether each is constant. -/
  declared : List (String × Bool)
  inLoop : Bool
  inBlock : Bool

/-- A reader of a part of a script, which an allowance limits. -/
abbrev Parse (α : Type) := ReaderT Allowance (StateT Cursor (Except CompileFault)) α

namespace Parse

def fail {α : Type} (cause : CompileCause) (pos : Position) : Parse α :=
  throw ⟨cause, pos⟩

def peek : Parse Lexeme := do
  match (← get).lexemes with
  | lexeme :: _ => pure lexeme
  | [] => pure ⟨.endOfScript, .first⟩

/-- Goes on to the token behind the next one. -/
def advance : Parse Unit :=
  modify fun cursor => { cursor with lexemes := cursor.lexemes.tail }

/-- Ends reading at a token that is none of those that could follow. -/
def refuse {α : Type} (lexeme : Lexeme) (cause : CompileCause) : Parse α :=
  match lexeme.token with
  | .bad fault => fail fault lexeme.pos
  | _ => fail cause lexeme.pos

def sees (mark : String) : Parse Bool := do
  pure ((← peek).token == .mark mark)

/-- Takes a mark if it is next. -/
def accept (mark : String) : Parse Bool := do
  if ← sees mark then
    advance
    pure true
  else pure false

def expect (mark purpose : String) : Parse Position := do
  let lexeme ← peek
  if lexeme.token == .mark mark then
    advance
    pure lexeme.pos
  else refuse lexeme (.expected mark purpose)

def declare (name : String) (constant : Bool) : Parse Unit :=
  modify fun cursor => { cursor with declared := (name, constant) :: cursor.declared }

/-- Reads a part in which declared names are forgotten at the end. -/
def within {α : Type} (inLoop : Bool) (part : Parse α) : Parse α := do
  let before ← get
  set { before with inLoop, inBlock := true }
  let result ← part
  modify fun cursor =>
    { before with lexemes := cursor.lexemes }
  pure result

def variableName : Parse String := do
  let lexeme ← peek
  match lexeme.token with
  | .name name =>
    advance
    pure name
  | .reserved word => fail (.reserved word) lexeme.pos
  | _ => refuse lexeme .expectedName

/-- Takes the name behind `as`, if it is next. -/
def label? : Parse (Option String) := do
  if ← accept "as" then do pure (some (← variableName))
  else pure none

/-- An operator between operands. -/
inductive Operator where
  | binary (op : BinaryOp)
  | connect (op : Connective)

def operator? : Token → Option (Operator × Nat)
  | .mark "||" => some (.connect .or, 1)
  | .mark "&&" => some (.connect .and, 2)
  | .mark "==" => some (.binary .equal, 3)
  | .mark "!=" => some (.binary .notEqual, 3)
  | .mark "<" => some (.binary .less, 4)
  | .mark "<=" => some (.binary .lessEqual, 4)
  | .mark ">" => some (.binary .greater, 4)
  | .mark ">=" => some (.binary .greaterEqual, 4)
  | .mark ".." => some (.binary .range, 5)
  | .mark "..=" => some (.binary .rangeInclusive, 5)
  | .mark "+" => some (.binary .add, 6)
  | .mark "-" => some (.binary .subtract, 6)
  | .mark "*" => some (.binary .multiply, 7)
  | .mark "/" => some (.binary .divide, 7)
  | .mark "%" => some (.binary .remainder, 7)
  | _ => none

/-- Refuses an expression that is certainly no truth value. -/
def checkBool (expr : Expr) : Parse Unit :=
  match expr.notBool? with
  | some given => fail (.mismatch "a boolean expression" given) expr.start
  | none => pure ()

/-- The expression of an operator and its operands. A comparison that can hold only for data of one
    type stands where its left operand starts. -/
def Operator.expr (op : Operator) (left right : Expr) (pos : Position) : Parse Expr :=
  match op with
  | .binary op => pure (.binary op left right (if op.defaultsToFalse then left.start else pos))
  | .connect op => do
    checkBool right
    checkBool left
    pure (.connect op left right pos)

/-- The operator of an assignment; a plain one has none. -/
def assignment? : Token → Option (Option BinaryOp)
  | .mark "=" => some none
  | .mark "+=" => some (some .add)
  | .mark "-=" => some (some .subtract)
  | .mark "*=" => some (some .multiply)
  | .mark "/=" => some (some .divide)
  | .mark "%=" => some (some .remainder)
  | _ => none

/-- The number with the other sign. An integer without one is a decimal. -/
def negated? : Expr → Option Datum
  | .literal (.int value) _ =>
    some ((Datum.ofInt? (-value.toInt)).getD (.decimal (.ofInt (-value.toInt))))
  | .literal (.decimal value) _ => some (.decimal value.negate)
  | _ => none

/-- The expression of an operator before its operand. Numbers take their signs at once. -/
def applySign (op : UnaryOp) (operand : Expr) (pos : Position) : Expr :=
  match op, negated? operand with
  | .minus, some value => .literal value pos
  | .plus, some _ => operand
  | op, _ => .unary op operand pos

/-- The place of the first method of some links. -/
def methodPos? : List Link → Option Position
  | [] => none
  | .method _ _ namePos _ :: _ => some namePos
  | _ :: rest => methodPos? rest

/-- The statement of an assignment, if its left side can be assigned to. -/
def assign (target : Expr) (op : Option BinaryOp) (value : Expr) (pos : Position) :
    Parse Stmt := do
  match target with
  | .name name namePos =>
    match (← get).declared.lookup name with
    | some true => fail (.constantName name) namePos
    | _ => pure (.assign name namePos [] op value pos)
  | .chain root links =>
    match methodPos? links, root with
    | some methodPos, _ => fail .notAssignable methodPos
    | none, .name name namePos => pure (.assign name namePos links op value pos)
    | none, root => fail .notAssignable root.pos
  | target =>
    if target.isConstant then fail .constantValue target.start
    else
      match target, op with
      | .connect .., none => fail .notEquality pos
      | target, _ => fail .notAssignable target.pos

def requireExpression : Parse Unit := do
  let lexeme ← peek
  if lexeme.token == .mark Token.openBlock then fail (.notExpression "a boolean") lexeme.pos

/-- A condition of a statement, which may not be something else for certain, nor be followed by an
    assignment. -/
def checkCondition (condition : Expr) : Parse Unit := do
  checkBool condition
  let lexeme ← peek
  match assignment? lexeme.token with
  | none => pure ()
  | some none => fail .notEquality lexeme.pos
  | some (some _) => fail .notCondition lexeme.pos

/-- Refuses something that a loop certainly cannot run through. -/
def checkIterable (items : Expr) : Parse Unit :=
  match items.notIterable? with
  | some given => fail (.mismatch "an iterable value" given) items.start
  | none => pure ()

/-- Refuses a key that certainly fits no datum such as the one that is written before it. -/
def checkKey (root key : Expr) : Parse Unit :=
  match root with
  | .map .. =>
    match key, key.notKey? with
    | .literal (.int _) _, _ => fail (.keyMismatch "Object map" "string" "a number") key.start
    | _, some given => fail (.keyMismatch "Object map" "string" given) key.start
    | _, none => pure ()
  | .array .. | .literal (.int _) _ | .literal (.text _) _ =>
    let container := "Array, string or bit-field"
    match key, key.notKey? with
    | .literal (.text _) _, _ => fail (.keyMismatch container "numeric" "a string") key.start
    | _, some given => fail (.keyMismatch container "integer" given) key.start
    | _, none => pure ()
  | _ => pure ()

def argumentsPurpose (function : String) : String :=
  "to close the arguments list of this function call '" ++ function ++ "'"

def separatorPurpose (function : String) : String :=
  "to separate the arguments to function call '" ++ function ++ "'"

/-- A comma between items, or the mark that ends them. Says whether it was a comma. -/
def separate (close closePurpose separatorPurpose : String) : Parse Bool := do
  let lexeme ← peek
  if lexeme.token == .mark "," then
    advance
    pure true
  else if lexeme.token == .mark close then pure false
  else if lexeme.token == .endOfScript then fail (.expected close closePurpose) lexeme.pos
  else refuse lexeme (.expected "," separatorPurpose)

/-- A comma between entries of a map, or the mark that ends it. -/
def separateEntries : Parse Unit := do
  let lexeme ← peek
  match lexeme.token with
  | .name _ =>
    fail (.expected "," "to separate the items of this object map literal") lexeme.pos
  | token =>
    if token == .mark "," then advance
    else if token == .mark Token.closeBlock then pure ()
    else refuse lexeme (.expected Token.closeBlock "to end this object map literal")

/-- Whether a statement is over: it ends itself, or a semicolon follows, or what it stands in ends.
    -/
def terminate (stmt : Stmt) (ending : Token) : Parse Unit := do
  let lexeme ← peek
  if lexeme.token == ending || stmt.endsItself then pure ()
  else if lexeme.token == .mark ";" then advance
  else refuse lexeme (.expected ";" "to terminate this statement")

def tooDeep {α : Type} : Parse α := do
  fail .tooDeep (← peek).pos

/-- Whether so many items are all that there may be; zero stands for no limit. -/
def isFull (limit count : Nat) : Bool :=
  limit != 0 && limit ≤ count

def mapKey : Parse String := do
  let lexeme ← peek
  match lexeme.token with
  | .name key | .text key =>
    advance
    pure key
  | .reserved word => fail (.reserved word) lexeme.pos
  | .endOfScript => fail (.expected Token.closeBlock "to end this object map literal") lexeme.pos
  | _ => refuse lexeme .expectedProperty

/-- Takes the name behind a point. Few words that are no names can be called there. -/
def linkName : Parse (String × Position) := do
  let lexeme ← peek
  match lexeme.token with
  | .name name =>
    advance
    pure (name, lexeme.pos)
  | .reserved word =>
    if Token.methodWords.contains word then
      advance
      let next ← peek
      if next.token == .mark "(" || next.token == .unit then pure (word, lexeme.pos)
      else fail (.reserved word) lexeme.pos
    else fail (.reserved word) lexeme.pos
  | .reservedMark mark => fail (.reservedMark mark) lexeme.pos
  | _ => fail .expectedProperty lexeme.pos

mutual

def expression : Nat → Parse Expr
  | 0 => tooDeep
  | n + 1 => do climb n 0 (← operand n)

/-- Reads operators that bind at least so tightly, and their right operands. -/
def climb : Nat → Nat → Expr → Parse Expr
  | 0, _, _ => tooDeep
  | n + 1, least, left => do
    let lexeme ← peek
    match lexeme.token, operator? lexeme.token with
    | .reservedMark mark, _ => fail (.unknownOperator mark) lexeme.pos
    | _, none => pure left
    | _, some (op, level) =>
      if level < least then pure left
      else do
        advance
        let right ← climb n (level + 1) (← operand n)
        climb n least (← op.expr left right lexeme.pos)

/-- Reads an operand with the operators before it and the links behind it. -/
def operand : Nat → Parse Expr
  | 0 => tooDeep
  | n + 1 => do
    let lexeme ← peek
    match lexeme.token with
    | .mark "-" => do
      advance
      pure (applySign .minus (← operand n) lexeme.pos)
    | .mark "+" => do
      advance
      pure (applySign .plus (← operand n) lexeme.pos)
    | .mark "!" => do
      advance
      pure (.unary .not (← operand n) lexeme.pos)
    | _ => do
      let root ← primary n
      match ← links n root [] with
      | [] => pure root
      | found => pure (.chain root found)

/-- Reads the links behind an expression, of which some were read, the last one first. -/
def links : Nat → Expr → List Link → Parse (List Link)
  | 0, _, _ => tooDeep
  | n + 1, root, found => do
    let mark ← peek
    if mark.token == .mark "[" then
      advance
      let key ← expression n
      if found.isEmpty then checkKey root key
      let _ ← expect "]" "for a matching [ in this index expression"
      links n root (.index key mark.pos :: found)
    else if mark.token == .mark "." then
      advance
      let (name, namePos) ← linkName
      match ← callArguments n name with
      | some args => links n root (.method name args namePos mark.pos :: found)
      | none => links n root (.property name namePos mark.pos :: found)
    else pure found.reverse

/-- Reads the arguments of a function, if there is a list of them. -/
def callArguments : Nat → String → Parse (Option (List Expr))
  | 0, _ => tooDeep
  | n + 1, function => do
    if (← peek).token == .unit then
      advance
      pure (some [])
    else if ← accept "(" then
      let lexeme ← peek
      if lexeme.token == .endOfScript then
        fail (.expected ")" (argumentsPurpose function)) lexeme.pos
      else do pure (some (← arguments n function []))
    else pure none

/-- Reads the arguments of a function behind the opening parenthesis. -/
def arguments : Nat → String → List Expr → Parse (List Expr)
  | 0, _, _ => tooDeep
  | n + 1, function, args => do
    if ← accept ")" then pure args.reverse
    else
      let arg ← expression n
      let _ ← separate ")" (argumentsPurpose function) (separatorPurpose function)
      arguments n function (arg :: args)

/-- Reads the items of an array behind the opening bracket. -/
def arrayItems : Nat → List Expr → Parse (List Expr)
  | 0, _ => tooDeep
  | n + 1, items => do
    let lexeme ← peek
    let limit := (← read).arraySize
    if isFull limit items.length then fail (.tooManyItems limit) lexeme.pos
    else if ← accept "]" then pure items.reverse
    else if lexeme.token == .endOfScript then
      fail (.expected "]" "to end this array literal") lexeme.pos
    else
      let item ← expression n
      let _ ← separate "]" "to end this array literal" "to separate the items of this array literal"
      arrayItems n (item :: items)

/-- Reads the entries of a map behind the opening mark. -/
def mapEntries : Nat → List (String × Expr) → Parse (List (String × Expr))
  | 0, _ => tooDeep
  | n + 1, entries => do
    if ← accept Token.closeBlock then pure entries.reverse
    else
      let lexeme ← peek
      let key ← mapKey
      if (entries.lookup key).isSome then fail (.repeatedProperty key) lexeme.pos
      else
        let _ ← expect ":" ("to follow the property '" ++ key ++ "' in this object map literal")
        let limit := (← read).mapSize
        if isFull limit entries.length then fail (.tooManyEntries limit) (← peek).pos
        else
          let item ← expression n
          separateEntries
          mapEntries n ((key, item) :: entries)

/-- Reads an operand without operators and links. -/
def primary : Nat → Parse Expr
  | 0 => tooDeep
  | n + 1 => do
    let lexeme ← peek
    let pos := lexeme.pos
    match lexeme.token with
    | .integer value => do
      advance
      pure (.literal (.int value) pos)
    | .decimal value => do
      advance
      pure (.literal (.decimal value) pos)
    | .char value => do
      advance
      pure (.literal (.char value) pos)
    | .text value => do
      advance
      pure (.literal (.text value) pos)
    | .unit => do
      advance
      pure (.nothing pos)
    | .name name => do
      advance
      if ← sees "::" then
        let (inner, member, memberPos) ← innerNames n
        pure (.member name inner member pos memberPos)
      else
        match ← callArguments n name with
        | some args => pure (.call name args pos)
        | none => pure (.name name pos)
    | .reserved word =>
      if Token.callableWords.contains word then do
        advance
        match ← callArguments n word with
        | some args => pure (.call word args pos)
        | none => fail (.reserved word) pos
      else if word == "this" then fail (.outsideFunction word) pos
      else fail (.reserved word) pos
    | .reservedMark mark => fail (.reservedMark mark) pos
    | .mark "true" => do
      advance
      pure (.literal (.bool true) pos)
    | .mark "false" => do
      advance
      pure (.literal (.bool false) pos)
    | .mark "(" => do
      advance
      if ← accept ")" then pure (.nothing pos)
      else
        let inner ← expression n
        let _ ← expect ")" "for a matching ( in this expression"
        pure inner
    | .mark "[" => do
      advance
      pure (.array (← arrayItems n []) pos)
    | .mark "if" => do pure (.block [← branch n] pos)
    | .mark "while" | .mark "loop" | .mark "for" => do pure (.block [← repetition n] pos)
    | .mark mark =>
      if mark == Token.openMap then do
        advance
        let entries ← mapEntries n []
        pure (.map (entries.map (·.1)) (entries.map (·.2)) pos)
      else if mark == Token.openBlock then do pure (.block (← block n) pos)
      else fail (.unexpected mark) pos
    | .endOfScript => fail .incomplete pos
    | .bad cause => fail cause pos

/-- Reads the names behind that of a module, each behind its mark: those of inner modules, and the
    last one with its place. -/
def innerNames : Nat → Parse (List String × String × Position)
  | 0 => tooDeep
  | n + 1 => do
    advance
    let pos := (← peek).pos
    let name ← variableName
    if ← sees "::" then
      let (inner, member, memberPos) ← innerNames n
      pure (name :: inner, member, memberPos)
    else pure ([], name, pos)

def block : Nat → Parse (List Stmt)
  | 0 => tooDeep
  | n + 1 => do
    let _ ← expect Token.openBlock "to start a statement block"
    within (← get).inLoop (blockBody n [])

/-- Reads statements up to the mark that closes their block. -/
def blockBody : Nat → List Stmt → Parse (List Stmt)
  | 0, _ => tooDeep
  | n + 1, stmts => do
    if ← accept Token.closeBlock then pure stmts.reverse
    else
      let lexeme ← peek
      if lexeme.token == .endOfScript then
        fail (.expected Token.closeBlock "to terminate this block") lexeme.pos
      else
        match ← statement n with
        | .noop => blockBody n stmts
        | stmt => do
          terminate stmt (.mark Token.closeBlock)
          blockBody n (stmt :: stmts)

def branch : Nat → Parse Stmt
  | 0 => tooDeep
  | n + 1 => do
    advance
    requireExpression
    let condition ← expression n
    checkCondition condition
    let yes ← block n
    if ← accept "else" then
      if ← sees "if" then pure (.branch condition yes [← branch n])
      else pure (.branch condition yes (← block n))
    else pure (.branch condition yes [])

def repetition : Nat → Parse Stmt
  | 0 => tooDeep
  | n + 1 => do
    let lexeme ← peek
    advance
    if lexeme.token == .mark "for" then
      let name ← variableName
      let _ ← expect "in" "after the iteration variable"
      requireExpression
      let items ← expression n
      checkIterable items
      let (pos, body) ← loopBody n (some name)
      pure (.forEach name items body pos)
    else if lexeme.token == .mark "while" then
      requireExpression
      let condition ← expression n
      checkCondition condition
      let (pos, body) ← loopBody n none
      pure (.repeat condition body pos)
    else
      let (pos, body) ← loopBody n none
      pure (.loop body pos)

/-- Reads the block of a loop, in which the variable of the loop is known, with its place. -/
def loopBody : Nat → Option String → Parse (Position × List Stmt)
  | 0, _ => tooDeep
  | n + 1, name => do
    let pos := (← peek).pos
    let body ← within true do
      match name with
      | some name => declare name false
      | none => pure ()
      block n
    pure (pos, body)

/-- Reads a statement. A semicolon alone is one that does nothing. -/
def statement : Nat → Parse Stmt
  | 0 => tooDeep
  | n + 1 => do
    let lexeme ← peek
    match lexeme.token with
    | .mark ";" => do
      advance
      pure .noop
    | .mark "if" => branch n
    | .mark "while" | .mark "loop" | .mark "for" => repetition n
    | .mark "break" => do
      if (← get).inLoop then
        advance
        pure (.leave ((← optionalExpression n true).getD (.nothing lexeme.pos)))
      else fail .outsideLoop lexeme.pos
    | .mark "continue" => do
      if (← get).inLoop then
        advance
        pure .skip
      else fail .outsideLoop lexeme.pos
    | .mark "return" => do
      advance
      match ← optionalExpression n (← get).inBlock with
      | some value => pure (.finishWith value)
      | none => pure .finish
    | .mark "throw" => do
      advance
      let value ← optionalExpression n (← get).inBlock
      pure (.throw (value.getD (.nothing lexeme.pos)) lexeme.pos)
    | .mark "let" => do
      advance
      declaration n false false
    | .mark "const" => do
      advance
      declaration n true false
    | .mark "import" => do
      advance
      let path ← expression n
      pure (.importModule path ((← label?).getD ""))
    | .mark "export" => do
      if (← get).inBlock then fail .innerExport lexeme.pos
      else
        advance
        exportation n
    | token =>
      if token == .mark Token.openBlock then do pure (.block (← block n))
      else do
        let target ← expression n
        let next ← peek
        match assignment? next.token with
        | none => pure (.expr target)
        | some op => do
          advance
          assign target op (← expression n) next.pos

/-- Reads an expression, unless the statement ends here. The mark that closes a block ends it within
    one. -/
def optionalExpression : Nat → Bool → Parse (Option Expr)
  | 0, _ => tooDeep
  | n + 1, inBlock => do
    let token := (← peek).token
    if token == .endOfScript || token == .mark ";" ||
        (inBlock && token == .mark Token.closeBlock) then
      pure none
    else do pure (some (← expression n))

/-- Reads a declaration behind its keyword. -/
def declaration : Nat → (constant exported : Bool) → Parse Stmt
  | 0, _, _ => tooDeep
  | n + 1, constant, exported => do
    let lexeme ← peek
    let name ← variableName
    let value ← if ← accept "=" then expression n else pure (.nothing lexeme.pos)
    declare name constant
    pure (.declare name value constant exported)

/-- Reads what is exported: a variable that is declared there, or one that was declared before. -/
def exportation : Nat → Parse Stmt
  | 0 => tooDeep
  | n + 1 => do
    if ← accept "let" then declaration n false true
    else if ← accept "const" then declaration n true true
    else
      let pos := (← peek).pos
      let name ← variableName
      pure (.exportName name ((← label?).getD name) pos)

end

def program : Nat → List Stmt → Parse Program
  | 0, _ => tooDeep
  | n + 1, stmts => do
    if (← peek).token == .endOfScript then pure stmts.reverse
    else
      match ← statement n with
      | .noop => program n stmts
      | stmt => do
        terminate stmt .endOfScript
        program n (stmt :: stmts)

end Parse

namespace Program

/-- How deep a program of some tokens is at most, and how often something can be changed in it. A
    token leads through a dozen readers at most. -/
def depthBound (lexemes : List Lexeme) : Nat :=
  16 * (lexemes.length + 1)

def parse (allowance : Allowance) (lexemes : List Lexeme) : Except CompileFault Program :=
  ((Parse.program (depthBound lexemes) []).run allowance).run' ⟨lexemes, [], false, false⟩

/-- The program of a script, in which texts, arrays and maps are within an allowance. -/
def compile (allowance : Allowance) (script : String) : Except CompileFault Program :=
  let lexemes := Lexeme.scan allowance.textSize script
  (parse allowance lexemes).map (simplify allowance (depthBound lexemes))

end Program

end ScriptBridge.Script
