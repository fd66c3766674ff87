import ScriptBridge.Script.Fault

/-!
# Tokens

The words of a script. Keywords and punctuation are marks; what is no token at all stands in the
sequence as the fault that it is, so that it is only reported when it is reached.
-/

namespace ScriptBridge.Script

/-- A token. -/
inductive Token where
  | name (spelling : String)
  | integer (value : Int64)
  | decimal (value : Decimal)
  | char (value : Char)
  | text (value : String)
  /-- Two parentheses without anything between them. -/
  | unit
  | mark (spelling : String)
  /-- A word that may name no variable. -/
  | reserved (word : String)
  /-- Punctuation without a meaning. -/
  | reservedMark (mark : String)
  | bad (cause : CompileCause)
  | endOfScript
  deriving Repr, DecidableEq

namespace Token

def openBlock : String := "\x7b"

def closeBlock : String := "\x7d"

def openMap : String := "#\x7b"

/-- Words with a meaning of their own, some of which only in larger programs than these. -/
def keywords : List String :=
  ["true", "false", "let", "const", "if", "else", "while", "loop", "for", "in", "break", "continue",
   "return", "throw", "_", "fn", "private", "switch", "do", "until", "import", "export", "as", "try",
   "catch"]

/-- Functions whose names name nothing else. -/
def callableWords : List String :=
  ["print", "debug", "type_of", "eval", "Fn", "call", "curry", "is_shared", "is_def_var",
   "is_def_fn"]

def methodWords : List String :=
  ["type_of", "call", "curry", "is_shared"]

/-- Words without a meaning that are no names either. -/
def reservedWords : List String :=
  ["this", "var", "static", "match", "case", "default", "new", "use", "with", "module", "package",
   "public", "protected", "super", "shared", "sync", "async", "await", "yield", "go", "goto", "exit",
   "spawn", "thread", "void", "null", "nil", "is"]

/-- Punctuation with a meaning; of two marks that fit the longer one comes first. -/
def marks : List String :=
  ["..=", "..", "==", "!=", "<=", ">=", "&&", "||", "+=", "-=", "*=", "/=", "%=", "::", openMap, "(",
   ")", "[", "]", openBlock, closeBlock, ",", ";", ":", ".", "+", "-", "*", "/", "%", "<", ">", "=", "!"]

/-- Punctuation without a meaning, the longer marks first. -/
def reservedMarks : List String :=
  ["...", "++", "--", "#!", "!.", "<|", "|>", "#", "~", "@", "$", "?"]

/-- Punctuation of other languages, with what to write instead. -/
def foreignMarks : List (String × String) :=
  [("===", "'===' is not a valid operator. This is not JavaScript! Should it be '=='?"),
   ("!==", "'!==' is not a valid operator. This is not JavaScript! Should it be '!='?"),
   ("::<", "'::<>' is not a valid symbol. This is not Rust! Should it be '::'?"),
   ("->", "'->' is not a valid symbol. This is not C or C++!"),
   ("<-", "'<-' is not a valid symbol. This is not Go! Should it be '<='?"),
   (":=",
    "':=' is not a valid assignment operator. This is not Go or Pascal! Should it be simply '='?"),
   ("(*", "'(* .. *)' is not a valid comment format. This is not Pascal! Should it be '/* .. */'?"),
   ("*)", "'(* .. *)' is not a valid comment format. This is not Pascal! Should it be '/* .. */'?")]

/-- The punctuation that a token can be, of which the longest that fits is taken. -/
def symbols : List (String × Token) :=
  foreignMarks.map (fun (symbol, advice) => (symbol, .bad (.foreignMark advice))) ++
    reservedMarks.map (fun symbol => (symbol, .reservedMark symbol)) ++ [("()", .unit)] ++
    marks.map fun symbol => (symbol, .mark symbol)

/-- Marks and words behind which a minus belongs to the number that follows it. -/
def signMarks : List String :=
  [";", ":", ",", openBlock, "(", "[", "..", "..=", "+", "-", "*", "/", "%", "+=", "-=", "*=", "/=",
   "%=", "=", "==", "!=", "<", "<=", ">", ">=", "&&", "||", "!", "if", "while", "in", "return",
   "throw"]

/-- Whether a minus behind a token belongs to the number that follows it. -/
def allowsSign : Token → Bool
  | .mark symbol => signMarks.contains symbol
  | _ => false

/-- Whether a word has a letter before its first digit, which a name needs. -/
def isProper (word : List Char) : Bool :=
  ((word.dropWhile (· == '_')).head?.map Char.isAlpha).getD false

def ofWord (word : List Char) : Token :=
  let spelling := String.ofList word
  if keywords.contains spelling then .mark spelling
  else if reservedWords.contains spelling || callableWords.contains spelling then .reserved spelling
  else if isProper word then .name spelling
  else .bad (.badName spelling)

end Token

/-- A token at a place. -/
structure Lexeme where
  token : Token
  pos : Position
  deriving Repr, DecidableEq

end ScriptBridge.Script
