/-!
# Code points

Digits of a base up to sixteen, and the characters that code points stand for.
-/

namespace ScriptBridge.Text

def isLineBlank (c : Char) : Bool :=
  c == ' ' || c == '\t'

def digitOf? (base : Nat) (c : Char) : Option Nat :=
  let value :=
    if '0' ≤ c ∧ c ≤ '9' then c.toNat - 48
    else if 'a' ≤ c ∧ c ≤ 'f' then c.toNat - 87
    else if 'A' ≤ c ∧ c ≤ 'F' then c.toNat - 55
    else base
  if value < base then some value else none

/-- The number that at least one digit of a base writes. -/
def readRadix? (base : Nat) (digits : List Char) : Option Nat :=
  if digits.isEmpty then none
  else
    digits.foldlM (fun n c => (digitOf? base c).map fun d => n * base + d) 0

def hexNumber? (cs : List Char) : Option Nat :=
  readRadix? 16 cs

/-- The character of a code point, if it is one. -/
def charOf? (n : Nat) : Option Char :=
  if n < 0xD800 ∨ (0xDFFF < n ∧ n < 0x110000) then some (Char.ofNat n) else none

end ScriptBridge.Text
