import ScriptBridge.Text.Blank
import ScriptBridge.Text.CodePoint

/-!
# Places in YAML text

A cursor is what is left of a text, with the line and the column that it stands in, because blocks
are told by their columns and keys by their lines. There are five characters that end a line, and a
carriage return before a line feed ends one line with it.
-/

namespace ScriptBridge.Yaml

def isPrintable (c : Char) : Bool :=
  let n := c.toNat
  n == 0x09 || n == 0x0A || n == 0x0D || (0x20 ≤ n && n ≤ 0x7E) || n == 0x85 ||
    (0xA0 ≤ n && n ≤ 0xFFFD) || 0x10000 ≤ n

def isBreak (c : Char) : Bool :=
  c == '\n' || c == '\r' || c == '\u0085' || c == '\u2028' || c == '\u2029'

/-- Whether a blank, a line end or the end of the text comes first. -/
def atGap : List Char → Bool
  | [] => true
  | c :: _ => Text.isLineBlank c || isBreak c

/-- Whether a character comes first. -/
def startsWith (c : Char) : List Char → Bool
  | [] => false
  | d :: _ => c == d

/-- A place in a text. -/
structure Place where
  /-- How many bytes are before it. -/
  index : Nat
  line : Nat
  column : Nat
  deriving Repr, DecidableEq

/-- A place and the characters behind it. -/
structure Cursor extends Place where
  rest : List Char

namespace Cursor

def start (cs : List Char) : Cursor :=
  ⟨⟨0, 0, 0⟩, cs⟩

def byteSize (cs : List Char) : Nat :=
  cs.foldl (fun size c => size + c.utf8Size) 0

def skip (n : Nat) (cur : Cursor) : Cursor :=
  ⟨⟨cur.index + byteSize (cur.rest.take n), cur.line, cur.column + n⟩, cur.rest.drop n⟩

def next (cur : Cursor) : Cursor :=
  cur.skip 1

/-- Passes a line end of so many characters. -/
def newLine (width : Nat) (cur : Cursor) : Cursor :=
  ⟨⟨cur.index + byteSize (cur.rest.take width), cur.line + 1, 0⟩, cur.rest.drop width⟩

/-- Passes a line end: what stands for it in a scalar, and the place behind it. -/
def passBreak (cur : Cursor) : Char × Cursor :=
  match cur.rest with
  | '\r' :: '\n' :: _ => ('\n', cur.newLine 2)
  | '\u2028' :: _ => ('\u2028', cur.newLine 1)
  | '\u2029' :: _ => ('\u2029', cur.newLine 1)
  | _ => ('\n', cur.newLine 1)

/-- Passes the characters before the next line end. -/
def skipLine (cur : Cursor) : Cursor :=
  cur.skip (cur.rest.takeWhile (!isBreak ·)).length

/-- Whether three characters that separate documents start the line. -/
def atMarker (marker : List Char) (cur : Cursor) : Bool :=
  cur.column == 0 && marker.isPrefixOf cur.rest && atGap (cur.rest.drop 3)

/-- Whether a document starts here with a line of its own. -/
def atDocumentStart (cur : Cursor) : Bool :=
  cur.atMarker ['-', '-', '-']

/-- Whether a document ends here with a line of its own. -/
def atDocumentEnd (cur : Cursor) : Bool :=
  cur.atMarker ['.', '.', '.']

def atSeparator (cur : Cursor) : Bool :=
  cur.atDocumentStart || cur.atDocumentEnd

end Cursor

end ScriptBridge.Yaml
