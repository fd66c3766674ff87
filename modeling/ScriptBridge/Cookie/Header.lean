import ScriptBridge.Table
import ScriptBridge.Text.Cut
import ScriptBridge.Text.Blank

/-!
# Cookies of a request

The cookies in a `Cookie` header: pairs between semicolons, the name before the first `=` and the
value behind it. Spaces in front of a pair do not count, pieces without `=` are left out, and the
last pair of a name counts.
-/

namespace ScriptBridge.Cookie

def parse (header : String) : Table String :=
  Table.ofPairs <|
    (Text.cutAll ';' header).filterMap fun segment =>
      Text.cutFirst? '=' (Text.trimLeadingSpaces segment)

def render (cookies : Table String) : String :=
  "; ".intercalate (cookies.map fun (name, value) => name ++ "=" ++ value)

end ScriptBridge.Cookie
