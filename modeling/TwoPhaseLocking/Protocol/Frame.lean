import TwoPhaseLocking.Json.Writer
import TwoPhaseLocking.Protocol.Error
import TwoPhaseLocking.Transaction.Operation
import TwoPhaseLocking.Text.Debug

/-!
Frames of the remote lock protocol and their JSON form: one JSON object on one line, its kind in
the field `type`, then its own fields in a fixed order.
-/
namespace TwoPhaseLocking

inductive Request where
  | registerSite
  | bindSite (site : SiteId) (address : String)
  | requestLock (op : Operation)
  | releaseLock (tx : TxId)
  | abort
  | unblock
  | write
  deriving DecidableEq, Repr, Inhabited

inductive Response where
  | siteId (site : SiteId)
  | granted (granted : Bool)
  | ack
  | error (code message : String)
  deriving DecidableEq, Repr, Inhabited

namespace Request

/-- The name of a request, which is also its `type`. -/
def name : Request → String
  | registerSite => "register_site"
  | bindSite .. => "bind_site"
  | requestLock .. => "request_lock"
  | releaseLock .. => "release_lock"
  | abort => "abort"
  | unblock => "unblock"
  | write => "write"

def names : List String :=
  ["register_site", "bind_site", "request_lock", "release_lock", "abort", "unblock", "write"]

end Request

namespace Response

def names : List String := ["site_id", "granted", "ack", "error"]

def ofError (e : ProtocolError) : Response := error e.code e.message

/-- An error frame becomes the remote error it reports; other frames stay. -/
def toResult : Response → Except ProtocolError Response
  | error c m => .error (.remote c m)
  | r => .ok r

/-- The debugging view of a response: `Ack`, `SiteId { site_id: 7 }`, ... -/
def debugText : Response → String
  | siteId s => "SiteId \x7b site_id: " ++ toString s ++ " \x7d"
  | granted b => "Granted \x7b granted: " ++ (if b then "true" else "false") ++ " \x7d"
  | ack => "Ack"
  | error c m => "Error \x7b code: " ++ Text.debugQuote c ++ ", message: " ++ Text.debugQuote m ++ " \x7d"

end Response

namespace Operator

def toJson (o : Operator) : Json := .str o.wireName

end Operator

namespace Operation

/-- The JSON form of an operation kind: `"read"`, `"write"` or
`{"compute": {"operand1", "operator", "operand2"}}`. -/
def kindJson : OpKind → Json
  | .read => .str "read"
  | .write => .str "write"
  | .compute e => .obj [("compute", .obj [("operand1", .str e.lhs), ("operator", e.op.toJson),
      ("operand2", .str e.rhs)])]

/-- The JSON form of an operation: `transaction_id`, `item`, `kind`. -/
def toJson (o : Operation) : Json :=
  .obj [("transaction_id", .nat o.tx), ("item", .str o.item), ("kind", kindJson o.kind)]

end Operation

namespace Lock

/-- The JSON form of a lock: `lock_type`, `item`, `owner`. -/
def toJson (l : Lock) : Json :=
  .obj [("lock_type", .str l.mode.wireName), ("item", .str l.item), ("owner", .nat l.owner)]

end Lock

namespace Request

def toJson (r : Request) : Json :=
  let tag := ("type", Json.str r.name)
  match r with
  | bindSite s a => .obj [tag, ("site_id", .nat s), ("address", .str a)]
  | requestLock o => .obj [tag, ("operation", o.toJson)]
  | releaseLock t => .obj [tag, ("transaction_id", .nat t)]
  | _ => .obj [tag]

def encode (r : Request) : String := r.toJson.compact ++ "\n"

end Request

namespace Response

def name : Response → String
  | siteId .. => "site_id"
  | granted .. => "granted"
  | ack => "ack"
  | error .. => "error"

def toJson (r : Response) : Json :=
  let tag := ("type", Json.str r.name)
  match r with
  | siteId s => .obj [tag, ("site_id", .nat s)]
  | granted b => .obj [tag, ("granted", .bool b)]
  | ack => .obj [tag]
  | error c m => .obj [tag, ("code", .str c), ("message", .str m)]

def encode (r : Response) : String := r.toJson.compact ++ "\n"

end Response
end TwoPhaseLocking
