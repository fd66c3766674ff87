import ScriptBridge.Request.Descriptor
import ScriptBridge.Value

/-!
# Server information

The table that a script finds under `_SERVER`: what the request says and what the host says about
itself.
-/

namespace ScriptBridge

/-- What a host says about itself. -/
structure ServerConstants where
  scriptName : String
  selfPath : String
  protocol : String
  serverName : String
  serverPort : UInt16
  remoteAddr : String
  scheme : String
  httpHost : String
  https : String
  userAgent : String
  deriving Repr, DecidableEq

namespace ServerConstants

def standard : ServerConstants where
  scriptName := "/mobile_boot.php"
  selfPath := "/mobile_boot.php"
  protocol := "HTTP/1.1"
  serverName := "127.0.0.1"
  serverPort := 80
  remoteAddr := "127.0.0.1"
  scheme := "http"
  httpHost := "127.0.0.1"
  https := "off"
  userAgent := "PHPNative/1.0"

end ServerConstants

def serverInfo (request : Request) (constants : ServerConstants) (time : Int64) : Table Value :=
  Table.ofPairs [
    ("REQUEST_METHOD", .str request.method),
    ("REQUEST_URI", .str request.uri),
    ("QUERY_STRING", .str request.query),
    ("SCRIPT_NAME", .str constants.scriptName),
    ("SCRIPT_FILENAME", .str constants.scriptName),
    ("SERVER_PROTOCOL", .str constants.protocol),
    ("SERVER_NAME", .str constants.serverName),
    ("SERVER_PORT", .str (toString constants.serverPort.toNat)),
    ("REMOTE_ADDR", .str constants.remoteAddr),
    ("PHP_SELF", .str constants.selfPath),
    ("REQUEST_SCHEME", .str constants.scheme),
    ("HTTP_HOST", .str constants.httpHost),
    ("HTTPS", .str constants.https),
    ("HTTP_USER_AGENT", .str constants.userAgent),
    ("REQUEST_TIME", .int time)]

end ScriptBridge
