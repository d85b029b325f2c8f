import TwoPhaseLocking.Net.Link
import TwoPhaseLocking.Site.Control

/-!
A session over the line transport: a coordinator server, site servers started on demand and
stand-in servers. On this network no connection gets through, so every client call fails with
the connection fault and the address it tried; calls made in process do not touch the network.
-/
namespace TwoPhaseLocking
namespace Net

/-- How a stand-in server answers the one line it reads. -/
inductive FakeMode where
  /-- Writes this text verbatim. -/
  | reply (text : String)
  /-- Closes the connection. -/
  | close
  /-- Never answers. -/
  | silent
  deriving DecidableEq, Repr, Inhabited

inductive Step where
  | register
  | request (o : Operation)
  | release (tx : TxId)
  /-- Starts a server for the site and binds the site to it at the coordinator. -/
  | startSite (site : SiteId)
  /-- Binds the site to an address where no one listens. -/
  | bindDead (site : SiteId)
  | setSiteState (site : SiteId) (state : SiteState)
  | siteState (site : SiteId)
  | check
  | stats
  /-- Sends raw lines to the coordinator, or to a site's server. -/
  | raw (site : Option SiteId) (lines : List String)
  | siteCall (site : SiteId) (r : Request)
  | fake (mode : FakeMode)
  | fakeCall (k : Nat) (r : Request)
  | deadCall (r : Request)
  deriving Repr, Inhabited

inductive Reply where
  | siteId (site : SiteId)
  | granted (g : Bool)
  | ok
  | failed (e : ProtocolError)
  | done
  | control (c : SiteControl)
  | resolution (r : Option Resolution)
  | stats (s : CoordinatorStats)
  | lines (ls : List String)
  | fake (k : Nat)
  deriving Repr, Inhabited

def coordinatorAddress : String := "<coordinator>"

def siteAddress (s : SiteId) : String := s!"<site {s}>"

def fakeAddress (k : Nat) : String := s!"<fake {k}>"

def deadAddress : String := "<dead>"

structure Session where
  coordinator : Coordinator String := {}
  network : Network := {}
  /-- The site servers started, by site. -/
  sites : List SiteControl := []
  /-- The stand-in servers started, in order. -/
  fakes : List FakeMode := []
  deriving Inhabited

namespace Session

def site? (ss : Session) (s : SiteId) : Option SiteControl := ss.sites.find? (·.site = s)

def setSite (ss : Session) (c : SiteControl) : Session :=
  { ss with sites := ss.sites.map fun k => if k.site = c.site then c else k }

/-- A client call to `address`: the connection cannot be made. -/
def callOver (ss : Session) (address : String) : Reply × Session :=
  (.failed (ss.network.connectAddress address), ss)

/-- Runs one step; a failure of the whole session is an error. -/
def step (ss : Session) : Step → Except String (Reply × Session)
  | .register | .request _ | .release _ | .bindDead _ => .ok (ss.callOver coordinatorAddress)
  | .startSite s =>
    let ss := if (ss.site? s).isSome then ss else { ss with sites := ss.sites ++ [SiteControl.new s] }
    .ok (ss.callOver coordinatorAddress)
  | .setSiteState s st =>
    match ss.site? s with
    | some c => .ok (.done, ss.setSite { c with state := st })
    | none => .error s!"site {s} has no server"
  | .siteState s =>
    match ss.site? s with
    | some c => .ok (.control c, ss)
    | none => .error s!"site {s} has no server"
  | .check =>
    let (r, c, _) := ss.coordinator.check
    .ok (.resolution r, { ss with coordinator := c })
  | .stats => .ok (.stats ss.coordinator.stats, ss)
  | .raw _ _ => .error ss.network.fault.text
  | .siteCall s _ =>
    if (ss.site? s).isNone then .error s!"site {s} has no server"
    else .ok (ss.callOver (siteAddress s))
  | .fake m => .ok (.fake ss.fakes.length, { ss with fakes := ss.fakes ++ [m] })
  | .fakeCall k _ =>
    if k < ss.fakes.length then
      .ok (ss.callOver (fakeAddress k))
    else .error s!"no fake server {k}"
  | .deadCall _ => .ok (ss.callOver deadAddress)

/-- Runs steps in order, stopping at the first failure of the whole session. -/
def run (ss : Session) : List Step → Except String (List Reply × Session)
  | [] => .ok ([], ss)
  | s :: rest => do
    let (r, ss) ← ss.step s
    let (rs, ss) ← run ss rest
    pure (r :: rs, ss)

theorem step_register (ss : Session) :
    ss.step .register = .ok (.failed (.connect coordinatorAddress ss.network.fault.text), ss) := rfl

end Session
end Net
end TwoPhaseLocking
