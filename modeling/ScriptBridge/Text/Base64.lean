/-!
# Base 64

The standard alphabet with padding. Three octets become four letters; a last group of one or two
octets is padded with `=`. Reading accepts exactly what writing produces: padding is required, the
bits that a last letter has left over are zero, and nothing else may stand between.
-/

namespace ScriptBridge.Base64

def letter (n : Nat) : UInt8 :=
  if n < 26 then UInt8.ofNat (65 + n)
  else if n < 52 then UInt8.ofNat (97 + (n - 26))
  else if n < 62 then UInt8.ofNat (48 + (n - 52))
  else if n = 62 then 43
  else 47

def number? (b : UInt8) : Option Nat :=
  let n := b.toNat
  if 65 ≤ n ∧ n ≤ 90 then some (n - 65)
  else if 97 ≤ n ∧ n ≤ 122 then some (n - 97 + 26)
  else if 48 ≤ n ∧ n ≤ 57 then some (n - 48 + 52)
  else if n = 43 then some 62
  else if n = 47 then some 63
  else none

/-- Fills a last group. -/
def padding : UInt8 := 61

def encode : List UInt8 → List UInt8
  | a :: b :: c :: rest =>
    let n := a.toNat * 65536 + b.toNat * 256 + c.toNat
    letter (n / 262144) :: letter (n / 4096 % 64) :: letter (n / 64 % 64) :: letter (n % 64) ::
      encode rest
  | [a, b] =>
    let n := a.toNat * 65536 + b.toNat * 256
    [letter (n / 262144), letter (n / 4096 % 64), letter (n / 64 % 64), padding]
  | [a] =>
    let n := a.toNat * 65536
    [letter (n / 262144), letter (n / 4096 % 64), padding, padding]
  | [] => []

/-- Reads a last group that is padded. -/
def decodeLast? (a b c d : UInt8) : Option (List UInt8) := do
  if d ≠ padding then none
  let m ← number? a
  let n ← number? b
  if c = padding then
    if n % 16 ≠ 0 then none
    some [UInt8.ofNat (m * 4 + n / 16)]
  else
    let o ← number? c
    if o % 4 ≠ 0 then none
    some [UInt8.ofNat (m * 4 + n / 16), UInt8.ofNat (n % 16 * 16 + o / 4)]

def decodeGroup? (a b c d : UInt8) : Option (List UInt8) := do
  let m ← number? a
  let n ← number? b
  let o ← number? c
  let p ← number? d
  some [UInt8.ofNat (m * 4 + n / 16), UInt8.ofNat (n % 16 * 16 + o / 4),
    UInt8.ofNat (o % 4 * 64 + p)]

/-- Reads what `encode` writes and nothing else. -/
def decode? : List UInt8 → Option (List UInt8)
  | [] => some []
  | [a, b, c, d] => decodeGroup? a b c d <|> decodeLast? a b c d
  | a :: b :: c :: d :: rest => do
    let group ← decodeGroup? a b c d
    let octets ← decode? rest
    some (group ++ octets)
  | _ => none

end ScriptBridge.Base64
