import TwoPhaseLocking.Transaction.Id

/-!
Errors of the remote lock protocol: transport failures (I/O, connect, timeout), a refusal
to bind an unknown site, a line that is no frame, an error frame from the other side, and a
frame of the wrong kind.
-/
namespace TwoPhaseLocking

/-- What can go wrong on a protocol call. -/
inductive ProtocolError where
  | io (message : String)
  | connect (address message : String)
  | siteNotRegistered (site : SiteId)
  | timeout (operation : String) (ms : Nat)
  | malformed (message : String)
  | remote (code message : String)
  | unexpected (operation response : String)
  deriving DecidableEq, Repr, Inhabited

namespace ProtocolError

def code : ProtocolError → String
  | io .. => "E100"
  | connect .. => "E101"
  | siteNotRegistered .. => "E102"
  | timeout .. => "E103"
  | malformed .. => "E104"
  | remote .. => "E105"
  | unexpected .. => "E106"

def kindName : ProtocolError → String
  | io .. => "Io"
  | connect .. => "Connect"
  | siteNotRegistered .. => "SiteNotRegistered"
  | timeout .. => "Timeout"
  | malformed .. => "Malformed"
  | remote .. => "Remote"
  | unexpected .. => "UnexpectedResponse"

def message : ProtocolError → String
  | io m => s!"I/O error: {m}"
  | connect a m => s!"Failed to connect to {a}: {m}"
  | siteNotRegistered s => s!"Site {s} is not registered with the coordinator"
  | timeout o ms => s!"'{o}' timed out after {ms}ms"
  | malformed m => s!"Malformed message: {m}"
  | remote c m => s!"Remote error [{c}]: {m}"
  | unexpected o r => s!"Unexpected response to '{o}': {r}"

/-- Whether the call failed in transport, so that the other side may not have seen it. -/
def isTransportFailure : ProtocolError → Bool
  | io .. | connect .. | timeout .. => true
  | _ => false

end ProtocolError
end TwoPhaseLocking
