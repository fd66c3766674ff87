/-!
# UTF-8

Octets and the text they stand for. `encode` writes a text, `decodeLossy` reads any octets and puts
one replacement character for each maximal invalid run, and `decode?` accepts only what `encode`
writes.
-/

namespace ScriptBridge

abbrev Bytes := List UInt8

namespace Utf8

def encodeChars (cs : List Char) : Bytes :=
  cs.flatMap String.utf8EncodeChar

def encode (s : String) : Bytes :=
  encodeChars s.toList

/-- Stands for octets that are not UTF-8. -/
def replacement : Char := '\uFFFD'

/-- Where a reader stands between two octets. -/
inductive Scan where
  | between
  /-- Inside a character: its bits so far, the octets still owed, and the least and greatest octet
      that may come next. -/
  | within (code owed : Nat) (low high : UInt8)
  deriving Repr, DecidableEq

/-- Reads an octet between characters: the characters it settles, and where the reader stands. -/
def Scan.first (b : UInt8) : List Char × Scan :=
  if b < 0x80 then ([Char.ofNat b.toNat], .between)
  else if b < 0xC2 then ([replacement], .between)
  else if b ≤ 0xDF then ([], .within (b.toNat - 0xC0) 1 0x80 0xBF)
  else if b = 0xE0 then ([], .within 0 2 0xA0 0xBF)
  else if b = 0xED then ([], .within 0xD 2 0x80 0x9F)
  else if b ≤ 0xEF then ([], .within (b.toNat - 0xE0) 2 0x80 0xBF)
  else if b = 0xF0 then ([], .within 0 3 0x90 0xBF)
  else if b ≤ 0xF3 then ([], .within (b.toNat - 0xF0) 3 0x80 0xBF)
  else if b = 0xF4 then ([], .within 4 3 0x80 0x8F)
  else ([replacement], .between)

/-- Reads an octet. One that cannot go on a character closes it as invalid and starts anew. -/
def Scan.next : Scan → UInt8 → List Char × Scan
  | .between, b => first b
  | .within code owed low high, b =>
    if low ≤ b ∧ b ≤ high then
      let code := code * 64 + (b.toNat - 0x80)
      if owed ≤ 1 then ([Char.ofNat code], .between)
      else ([], .within code (owed - 1) 0x80 0xBF)
    else
      let (settled, scan) := first b
      (replacement :: settled, scan)

def Scan.run : Scan → Bytes → List Char
  | .between, [] => []
  | .within .., [] => [replacement]
  | scan, b :: rest =>
    let (settled, scan) := scan.next b
    settled ++ scan.run rest

def decodeChars (bytes : Bytes) : List Char :=
  Scan.between.run bytes

/-- The text of any octets: each maximal invalid run becomes one replacement character. -/
def decodeLossy (bytes : Bytes) : String :=
  String.ofList (decodeChars bytes)

def decode? (bytes : Bytes) : Option String :=
  let text := decodeLossy bytes
  if encode text = bytes then some text else none

def isValid (bytes : Bytes) : Bool :=
  (decode? bytes).isSome

end Utf8

abbrev utf8 (s : String) : Bytes := Utf8.encode s

end ScriptBridge
