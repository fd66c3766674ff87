/-!
# Blanks and words

The Unicode `White_Space` class, trimming by it, and the words that it separates.
-/

namespace ScriptBridge.Text

/-- A character of the Unicode class `White_Space`. -/
def isBlank (c : Char) : Bool :=
  ('\t' ≤ c && c ≤ '\r') || c == ' ' || c == '\u0085' || c == '\u00A0' || c == '\u1680' ||
    ('\u2000' ≤ c && c ≤ '\u200A') || c == '\u2028' || c == '\u2029' || c == '\u202F' ||
    c == '\u205F' || c == '\u3000'

/-- The characters between the outermost ones that satisfy `p`. -/
def trimChars (p : Char → Bool) (cs : List Char) : List Char :=
  ((cs.dropWhile p).reverse.dropWhile p).reverse

/-- The text without the blanks around it. -/
def trim (s : String) : String :=
  String.ofList (trimChars isBlank s.toList)

/-- The text without the spaces in front of it; other blanks stay. -/
def trimLeadingSpaces (s : String) : String :=
  String.ofList (s.toList.dropWhile (· == ' '))

/-- Puts a word before others, unless it is empty. -/
def consWord (word : List Char) (words : List (List Char)) : List (List Char) :=
  if word.isEmpty then words else word :: words

/-- The word that the text starts in, possibly empty, and the words behind it. -/
def leadingWord : List Char → List Char × List (List Char)
  | [] => ([], [])
  | c :: rest =>
    let (word, words) := leadingWord rest
    if isBlank c then ([], consWord word words) else (c :: word, words)

/-- The maximal runs without blanks. -/
def wordsOf (cs : List Char) : List (List Char) :=
  let (word, words) := leadingWord cs
  consWord word words

def words (s : String) : List String :=
  (wordsOf s.toList).map String.ofList

def hasBlank (s : String) : Bool :=
  s.toList.any isBlank

end ScriptBridge.Text
