import TwoPhaseLocking.Protocol.Error

/-!
The network a host is on: no peer can be reached, so every connection attempt fails with the
same fault of the system; listening works on any port no one holds yet.
-/
namespace TwoPhaseLocking

inductive ConnectFault where
  | unreachable
  | refused
  deriving DecidableEq, Repr, Inhabited

def ConnectFault.text : ConnectFault → String
  | .unreachable => "Network is unreachable (os error 101)"
  | .refused => "Connection refused (os error 111)"

/-- The network: how connection attempts fail, and the ports already held. -/
structure Network where
  fault : ConnectFault := .unreachable
  held : List Nat := []
  deriving DecidableEq, Repr, Inhabited

namespace Network

def addressInUse : String := "Address already in use (os error 98)"

def lookupFailure : String := "failed to lookup address information: Name or service not known"

/-- Whether a text is a dotted quad of numbers below 256. -/
def isDottedQuad (s : String) : Bool :=
  match s.splitOn "." with
  | [a, b, c, d] => [a, b, c, d].all fun p =>
    !p.isEmpty && p.length ≤ 3 && p.all Char.isDigit && p.toNat! < 256
  | _ => false

def resolve (host : String) : Except String String :=
  if host = "localhost" then .ok "127.0.0.1"
  else if isDottedQuad host then .ok host
  else .error lookupFailure

/-- Tries to connect to `host:port`; the attempt fails. -/
def connect (n : Network) (host : String) (port : Nat) : ProtocolError :=
  match resolve host with
  | .ok _ => .connect s!"{host}:{port}" n.fault.text
  | .error e => .connect s!"{host}:{port}" e

/-- Tries to connect to a socket address that needs no lookup; the attempt fails. -/
def connectAddress (n : Network) (address : String) : ProtocolError := .connect address n.fault.text

def reachable (_ : Network) (_ : String) : Bool := false

/-- Starts listening on `host:port`, which is then held; gives the local address. -/
def listen (n : Network) (host : String) (port : Nat) : Except String (String × Network) := do
  let ip ← resolve host
  if n.held.contains port then throw addressInUse
  pure (s!"{ip}:{port}", { n with held := n.held ++ [port] })

theorem listen_held (n : Network) (host ip : String) (port : Nat) (h : port ∈ n.held)
    (hr : resolve host = .ok ip) : n.listen host port = .error addressInUse := by
  simp [listen, hr, h, bind, Except.bind, throw, throwThe, MonadExceptOf.throw]

end Network
end TwoPhaseLocking
