import ScriptBridge.Cookie.Header
import ScriptBridge.Text.Numeral

/-!
# Cookie jar

The cookies that responses have set. Storing a `Set-Cookie` text puts in its cookie, or takes it out
when a `Max-Age` attribute is zero or less.
-/

namespace ScriptBridge

/-- The cookies of a client. -/
structure CookieJar where
  cookies : Table String
  deriving Repr, DecidableEq

/-- What a `Set-Cookie` text asks for. -/
structure SetCookie where
  name : String
  value : String
  expired : Bool
  deriving Repr, DecidableEq

namespace SetCookie

/-- The age that an attribute gives, if it is a `Max-Age` of 64 bits. -/
def maxAge? (part : String) : Option Int := do
  let (key, age) ← Text.cutFirst? '=' (Text.trim part)
  if Text.eqIgnoreAsciiCase (Text.trim key) "max-age" then
    (Numeral.readInt64 (Text.trim age)).toOption
  else none

def expires (part : String) : Bool :=
  match maxAge? part with
  | some age => age ≤ 0
  | none => false

/-- Reads a `Set-Cookie` text. It sets nothing without a name. -/
def parse (text : String) : Option SetCookie :=
  match Text.cutAll ';' text with
  | [] => none
  | pair :: parts => do
    let (name, value) ← Text.cutFirst? '=' pair
    let name := Text.trim name
    if name.isEmpty then none
    else some ⟨name, Text.trim value, parts.any expires⟩

end SetCookie

namespace CookieJar

/-- No cookies. -/
def empty : CookieJar := ⟨.empty⟩

/-- Does what a `Set-Cookie` text asks for. -/
def store (jar : CookieJar) (text : String) : CookieJar :=
  match SetCookie.parse text with
  | none => jar
  | some set =>
    if set.expired then ⟨Table.erase set.name jar.cookies⟩
    else ⟨Table.insert set.name set.value jar.cookies⟩

/-- Stores texts one after the other. -/
def storeAll (jar : CookieJar) (texts : List String) : CookieJar :=
  texts.foldl store jar

/-- The header that sends the cookies; none without cookies. -/
def header? (jar : CookieJar) : Option String :=
  if jar.cookies.isEmpty then none else some (Cookie.render jar.cookies)

def get? (jar : CookieJar) (name : String) : Option String :=
  Table.get? name jar.cookies

def size (jar : CookieJar) : Nat :=
  jar.cookies.length

end CookieJar

end ScriptBridge
