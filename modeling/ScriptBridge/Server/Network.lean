import ScriptBridge.SocketAddress

/-!
# Networks

What a machine lets a server do with addresses: which of them it can listen on, and whether clients
reach it there.
-/

namespace ScriptBridge

/-- Why an address cannot be used. -/
inductive NetworkFault where
  | permissionDenied
  | addressNotAvailable
  | unreachable
  deriving Repr, DecidableEq

def NetworkFault.message : NetworkFault → String
  | .permissionDenied => "Permission denied (os error 13)"
  | .addressNotAvailable => "Cannot assign requested address (os error 99)"
  | .unreachable => "Network is unreachable (os error 101)"

/-- What a machine lets a server do. -/
structure Network where
  /-- Whether ports below 1024 may be used. -/
  privilegedPorts : Bool
  reachable : Bool
  deriving Repr, DecidableEq

namespace Network

/-- The network of a machine without any interface that is up, for a user without privileges. -/
def isolated : Network := ⟨false, false⟩

/-- Whether an address of version 6 can be listened on without an interface that has it: the
    wildcard and the addresses of version 4 in it. -/
def isUnbound (ip : Ipv6) : Bool :=
  ip.groups.all (· == 0) || ip.groups.take 6 == [0, 0, 0, 0, 0, 0xFFFF]

def bindFault? (network : Network) (address : SocketAddress) : Option NetworkFault :=
  let port := address.port
  if !network.privilegedPorts && 0 < port && port < 1024 then some .permissionDenied
  else
    match address with
    | .v4 .. => none
    | .v6 ip .. => if isUnbound ip then none else some .addressNotAvailable

/-- Why a client does not reach a server. -/
def connectFault? (network : Network) : Option NetworkFault :=
  if network.reachable then none else some .unreachable

end Network

end ScriptBridge
