import ScriptBridge.Text.CodePoint

/-!
# Socket addresses

Addresses that a host listens on: four octets or eight groups, and a port. Reading accepts every
usual spelling; writing gives one text for each address, with the longest run of zero groups left
out.
-/

namespace ScriptBridge

/-- An address of version 4. -/
structure Ipv4 where
  a : UInt8
  b : UInt8
  c : UInt8
  d : UInt8
  deriving Repr, DecidableEq

/-- An address of version 6: eight groups. -/
structure Ipv6 where
  groups : List UInt16
  size_eq : groups.length = 8
  deriving Repr, DecidableEq

/-- An address and a port. -/
inductive SocketAddress where
  | v4 (address : Ipv4) (port : UInt16)
  | v6 (address : Ipv6) (scope : UInt32) (port : UInt16)
  deriving Repr, DecidableEq

/-- The wording of a text that is no address. -/
def SocketAddress.faultMessage : String := "invalid socket address syntax"

namespace SocketAddress

def spanDigits (base : Nat) (cs : List Char) : List Nat × List Char :=
  let isDigit := fun c => (Text.digitOf? base c).isSome
  ((cs.takeWhile isDigit).filterMap (Text.digitOf? base), cs.dropWhile isDigit)

/-- Reads a number up to `limit`. `width` bounds its digits, if given; without `zeros` it has no
    leading zero. -/
def readNumber (base limit : Nat) (width : Option Nat) (zeros : Bool) (cs : List Char) :
    Option (Nat × List Char) :=
  match spanDigits base cs with
  | ([], _) => none
  | (digits, rest) =>
    let n := digits.foldl (fun n d => n * base + d) 0
    if limit < n then none
    else if width.any (· < digits.length) then none
    else if !zeros && digits.head? == some 0 && 1 < digits.length then none
    else some (n, rest)

def readChar (c : Char) : List Char → Option (List Char)
  | [] => none
  | d :: rest => if d = c then some rest else none

/-- Reads an octet without leading zeros. -/
def readOctet (cs : List Char) : Option (UInt8 × List Char) :=
  (readNumber 10 255 (some 3) false cs).map fun (n, rest) => (UInt8.ofNat n, rest)

def readIpv4 (cs : List Char) : Option (Ipv4 × List Char) := do
  let (a, cs) ← readOctet cs
  let cs ← readChar '.' cs
  let (b, cs) ← readOctet cs
  let cs ← readChar '.' cs
  let (c, cs) ← readOctet cs
  let cs ← readChar '.' cs
  let (d, cs) ← readOctet cs
  some (⟨a, b, c, d⟩, cs)

def groupOf (high low : UInt8) : UInt16 :=
  UInt16.ofNat (high.toNat * 256 + low.toNat)

/-- Groups that were read, whether the last two came from octets, and the rest. -/
structure Groups where
  groups : List UInt16
  octets : Bool
  rest : List Char

/-- Reads up to `room` groups with colons between them; octets may stand for the last two. `first`
    tells that no colon comes first. -/
def readGroups (first : Bool) : Nat → List Char → Groups
  | 0, cs => ⟨[], false, cs⟩
  | room + 1, cs =>
    match if first then some cs else readChar ':' cs with
    | none => ⟨[], false, cs⟩
    | some behind =>
      match if 0 < room then readIpv4 behind else none with
      | some (ip, rest) => ⟨[groupOf ip.a ip.b, groupOf ip.c ip.d], true, rest⟩
      | none =>
        match readNumber 16 65535 (some 4) true behind with
        | none => ⟨[], false, cs⟩
        | some (n, rest) =>
          let more := readGroups false room rest
          ⟨UInt16.ofNat n :: more.groups, more.octets, more.rest⟩

/-- The address of some groups, if they are eight. -/
def ofGroups? (groups : List UInt16) : Option Ipv6 :=
  if h : groups.length = 8 then some ⟨groups, h⟩ else none

/-- Reads eight groups, or fewer around a double colon. -/
def readIpv6 (cs : List Char) : Option (Ipv6 × List Char) := do
  let front := readGroups true 8 cs
  if front.groups.length = 8 then
    let ip ← ofGroups? front.groups
    some (ip, front.rest)
  else if front.octets then none
  else
    let rest ← readChar ':' front.rest
    let rest ← readChar ':' rest
    let back := readGroups true (7 - front.groups.length) rest
    let missing := 8 - front.groups.length - back.groups.length
    let ip ← ofGroups? (front.groups ++ List.replicate missing 0 ++ back.groups)
    some (ip, back.rest)

/-- Reads a port behind its colon. -/
def readPort (cs : List Char) : Option (UInt16 × List Char) := do
  let cs ← readChar ':' cs
  let (n, rest) ← readNumber 10 65535 none true cs
  some (UInt16.ofNat n, rest)

/-- Reads a scope behind its percent sign, if there is one. -/
def readScope : List Char → Option (UInt32 × List Char)
  | '%' :: cs => do
    let (n, rest) ← readNumber 10 4294967295 none true cs
    some (UInt32.ofNat n, rest)
  | cs => some (0, cs)

/-- Reads an address of version 4 and a port. -/
def parseV4? (cs : List Char) : Option SocketAddress := do
  let (ip, cs) ← readIpv4 cs
  let (port, rest) ← readPort cs
  if rest.isEmpty then some (.v4 ip port) else none

/-- Reads an address of version 6 in brackets and a port. -/
def parseV6? (cs : List Char) : Option SocketAddress := do
  let cs ← readChar '[' cs
  let (ip, cs) ← readIpv6 cs
  let (scope, cs) ← readScope cs
  let cs ← readChar ']' cs
  let (port, rest) ← readPort cs
  if rest.isEmpty then some (.v6 ip scope port) else none

def parse? (s : String) : Option SocketAddress :=
  parseV4? s.toList <|> parseV6? s.toList

def renderIpv4 (ip : Ipv4) : String :=
  ".".intercalate ([ip.a, ip.b, ip.c, ip.d].map fun octet => toString octet.toNat)

def renderGroups (groups : List UInt16) : String :=
  ":".intercalate (groups.map fun group => String.ofList (Nat.toDigits 16 group.toNat))

def zeroRun (groups : List UInt16) : Nat :=
  (groups.takeWhile (· == 0)).length

/-- Where the longest run of zeros starts and how long it is; of equal runs, the first. -/
def longestRun (groups : List UInt16) : Nat × Nat :=
  (List.range groups.length).foldl
    (fun best i =>
      let run := zeroRun (groups.drop i)
      if best.2 < run then (i, run) else best)
    (0, 0)

/-- The text of eight groups. Octets that stand behind six marking groups are written as octets. -/
def renderIpv6 (ip : Ipv6) : String :=
  match ip.groups with
  | [0, 0, 0, 0, 0, 0xFFFF, g, h] =>
    let octets := [g.toNat / 256, g.toNat % 256, h.toNat / 256, h.toNat % 256]
    "::ffff:" ++ ".".intercalate (octets.map toString)
  | groups =>
    let (start, run) := longestRun groups
    if 1 < run then
      renderGroups (groups.take start) ++ "::" ++ renderGroups (groups.drop (start + run))
    else renderGroups groups

def render : SocketAddress → String
  | .v4 ip port => renderIpv4 ip ++ ":" ++ toString port.toNat
  | .v6 ip scope port =>
    let scopeText := if scope = 0 then "" else "%" ++ toString scope.toNat
    "[" ++ renderIpv6 ip ++ scopeText ++ "]:" ++ toString port.toNat

def port : SocketAddress → UInt16
  | .v4 _ port | .v6 _ _ port => port

/-- The address without its port, as text. -/
def host : SocketAddress → String
  | .v4 ip _ => renderIpv4 ip
  | .v6 ip _ _ => renderIpv6 ip

end SocketAddress

end ScriptBridge
