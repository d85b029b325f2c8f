import TwoPhaseLocking.Protocol.Decode
import TwoPhaseLocking.Site.Control
import TwoPhaseLocking.Text.Blank
import TwoPhaseLocking.Text.Lines

/-!
The line transport between the sites and the coordinator. A server answers each line that is
not blank with one response line, in order; a client writes the request's line and reads the
first line that comes back, an error frame becoming the remote error it carries.
-/
namespace TwoPhaseLocking
namespace Net

variable {σ ε : Type}

/-! ### Servers -/

/-- The answer to one received line: the handler's response to the request it holds, or the
error frame of the reader's refusal. -/
def answerLine (handle : σ → Request → Response × σ) (st : σ) (line : String) : Response × σ :=
  match Request.decode line with
  | .ok r => handle st r
  | .error m => (.ofError (.malformed m), st)

/-- The answers to the lines of a connection, in order; a blank line gets none. -/
def answerLines (handle : σ → Request → Response × σ) : σ → List String → List Response × σ
  | st, [] => ([], st)
  | st, line :: rest =>
    if (Text.trimString line).isEmpty then answerLines handle st rest
    else
      let (r, st₁) := answerLine handle st line
      let (rs, st₂) := answerLines handle st₁ rest
      (r :: rs, st₂)

/-- What a server writes back on a connection that brought `text`, and its state after. -/
def serve (handle : σ → Request → Response × σ) (st : σ) (text : String) : String × σ :=
  let (rs, st') := answerLines handle st (Text.linesOf text)
  (String.join (rs.map Response.encode), st')

/-! ### Clients -/

def firstLine : List Char → List Char
  | [] => []
  | c :: rest => if c = '\n' then ['\n'] else c :: firstLine rest

/-- One call on the server at `address` that answers with `handle`: the request's line goes
out, the server answers what it reads, and the first line that comes back is read as a
response. An error frame comes back as the remote error it carries. -/
def exchange (handle : σ → Request → Response × σ) (st : σ) (address : String) (r : Request) :
    Except ProtocolError Response × σ :=
  let (out, st') := serve handle st r.encode
  if out.isEmpty then
    (.error (.malformed s!"{address} closed the connection without answering '{r.name}'"), st')
  else
    match Response.decode (String.ofList (firstLine out.toList)) with
    | .ok resp => (resp.toResult, st')
    | .error m => (.error (.malformed m), st')

def unexpected (r : Request) (resp : Response) : ProtocolError := .unexpected r.name resp.debugText

def expectAck (r : Request) : Response → Except ProtocolError Unit
  | .ack => .ok ()
  | other => .error (unexpected r other)

/-! ### Calls on the coordinator -/

inductive CoordinatorCall where
  | registerSite
  | bindSite (site : SiteId) (address : String)
  | requestLock (op : Operation)
  | releaseLock (tx : TxId)
  deriving DecidableEq, Repr

inductive CallValue where
  | siteId (site : SiteId)
  | granted (granted : Bool)
  | done
  deriving DecidableEq, Repr

namespace CoordinatorCall

def request : CoordinatorCall → Request
  | registerSite => .registerSite
  | bindSite s a => .bindSite s a
  | requestLock o => .requestLock o
  | releaseLock t => .releaseLock t

def isRegister : CoordinatorCall → Bool
  | registerSite => true
  | _ => false

/-- What the client makes of the response to a call. -/
def reply (c : CoordinatorCall) (resp : Response) : Except ProtocolError CallValue :=
  match c, resp with
  | registerSite, .siteId s => .ok (.siteId s)
  | requestLock _, .granted g => .ok (.granted g)
  | bindSite .., resp | releaseLock _, resp => (expectAck c.request resp).map fun _ => .done
  | _, resp => .error (unexpected c.request resp)

/-- The call made in process, on the coordinator itself; `connect` makes the endpoint of a
site bound by address. -/
def perform (c : CoordinatorCall) (connect : String → ε) (co : Coordinator ε) :
    Except ProtocolError CallValue × Coordinator ε × List (Notice ε) :=
  match c with
  | registerSite => let (s, co') := co.register; (.ok (.siteId s), co', [])
  | bindSite s a =>
    match co.bind s (connect a) with
    | .ok co' => (.ok .done, co', [])
    | .error e => (.error e, co, [])
  | requestLock o => let (g, co') := co.request o; (.ok (.granted g), co', [])
  | releaseLock t => let (_, co', ns) := co.release t; (.ok .done, co', ns)

end CoordinatorCall

/-- The coordinator's server, with the notices it has sent so far. -/
def coordinatorServer (connect : String → ε) (st : Coordinator ε × List (Notice ε)) (r : Request) :
    Response × Coordinator ε × List (Notice ε) :=
  let (resp, co', ns) := st.1.handle connect r
  (resp, co', st.2 ++ ns)

namespace CoordinatorCall

/-- The call made by a client of the coordinator's server at `address`. -/
def send (c : CoordinatorCall) (connect : String → ε) (address : String) (co : Coordinator ε) :
    Except ProtocolError CallValue × Coordinator ε × List (Notice ε) :=
  let (resp, co', ns) := exchange (coordinatorServer connect) (co, []) address c.request
  (resp >>= c.reply, co', ns)

end CoordinatorCall

/-- Calls made one after another, each by `call`: their values, the coordinator after them, and
the notices they sent, in order. -/
def runCalls
    (call : CoordinatorCall → Coordinator ε → Except ProtocolError CallValue × Coordinator ε × List (Notice ε))
    (co : Coordinator ε) : List CoordinatorCall →
      List (Except ProtocolError CallValue) × Coordinator ε × List (Notice ε)
  | [] => ([], co, [])
  | c :: cs =>
    let (v, co₁, ns₁) := call c co
    let (vs, co₂, ns₂) := runCalls call co₁ cs
    (v :: vs, co₂, ns₁ ++ ns₂)

end Net

/-! ### Calls on a site -/

namespace SiteCall

def request : SiteCall → Request
  | .abort => .abort
  | .unblock => .unblock
  | .write => .write

/-- The call made in process: the site's control carries it out, and it succeeds. -/
def perform (k : SiteCall) (c : SiteControl) : Except ProtocolError Unit × SiteControl :=
  (.ok (), c.receive k)

/-- The call made by a client of the site's server at `address`. -/
def send (k : SiteCall) (address : String) (c : SiteControl) : Except ProtocolError Unit × SiteControl :=
  let (resp, c') := Net.exchange SiteControl.handle c address k.request
  (resp >>= Net.expectAck k.request, c')

end SiteCall

def Request.siteCall? : Request → Option SiteCall
  | .abort => some .abort
  | .unblock => some .unblock
  | .write => some .write
  | _ => none

end TwoPhaseLocking
