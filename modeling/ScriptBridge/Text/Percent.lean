import ScriptBridge.Text.Cut
import ScriptBridge.Text.Utf8

/-!
# Url-encoded pairs

Names and values of a url-encoded text: `&` stands between pairs, the first `=` of a pair ends its
name, `+` is a space, and `%` with two hexadecimal digits is an octet. A `%` without them stays as
it is.
-/

namespace ScriptBridge.UrlEncoded

/-- The value of a hexadecimal digit of either case. -/
def hexValue? (b : UInt8) : Option UInt8 :=
  if 48 ≤ b ∧ b ≤ 57 then some (b - 48)
  else if 65 ≤ b ∧ b ≤ 70 then some (b - 55)
  else if 97 ≤ b ∧ b ≤ 102 then some (b - 87)
  else none

def hexOctet? (a b : UInt8) : Option UInt8 := do
  let high ← hexValue? a
  let low ← hexValue? b
  some (high * 16 + low)

def unescape : Bytes → Bytes
  | 37 :: a :: b :: rest =>
    match hexOctet? a b with
    | some octet => octet :: unescape rest
    | none => 37 :: unescape (a :: b :: rest)
  | 43 :: rest => 32 :: unescape rest
  | b :: rest => b :: unescape rest
  | [] => []

/-- The name and the value of a piece between `&`. -/
def pairOf (piece : Bytes) : String × String :=
  let (name, value) := (cutFirst? 61 piece).getD (piece, [])
  (Utf8.decodeLossy (unescape name), Utf8.decodeLossy (unescape value))

/-- The pairs of a text in order; empty pieces hold none. -/
def pairs (bytes : Bytes) : List (String × String) :=
  ((cutAll 38 bytes).filter (!·.isEmpty)).map pairOf

def hexDigit (n : UInt8) : UInt8 :=
  if n < 10 then 48 + n else 55 + n

/-- Every octet as `%` and two digits. -/
def escape : Bytes → Bytes
  | [] => []
  | b :: rest => 37 :: hexDigit (b / 16) :: hexDigit (b % 16) :: escape rest

end ScriptBridge.UrlEncoded
