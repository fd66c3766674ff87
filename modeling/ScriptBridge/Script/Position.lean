/-!
# Positions

Where something stands in a script: lines and characters of a line count from 1.
-/

namespace ScriptBridge.Script

/-- A place in a script. -/
structure Position where
  line : Nat
  column : Nat
  deriving Repr, DecidableEq, Inhabited

namespace Position

/-- The place of the first character. -/
def first : Position := ⟨1, 1⟩

/-- The place so many characters to the right. -/
def right (pos : Position) (n : Nat) : Position := ⟨pos.line, pos.column + n⟩

/-- The first place of the next line. -/
def newLine (pos : Position) : Position := ⟨pos.line + 1, 1⟩

/-- The place behind a character. -/
def next (pos : Position) (c : Char) : Position :=
  if c = '\n' then pos.newLine else pos.right 1

def render (pos : Position) : String :=
  "(line " ++ toString pos.line ++ ", position " ++ toString pos.column ++ ")"

end Position

end ScriptBridge.Script
