import TwoPhaseLocking.Site.Control
import TwoPhaseLocking.Store

/-!
The shared state of a cluster run: the time, the coordinator, the control block of every site,
the item store and the log of calls on sites. A call lands on the site's control block at once,
and a site it turns from blocked to running is woken.
-/
namespace TwoPhaseLocking

/-- A call the coordinator made on a site, with the time it was made. -/
structure SiteEvent where
  time : Nat
  site : SiteId
  call : SiteCall
  deriving DecidableEq, Repr, Inhabited

/-- Everything the sites and the coordinator share. -/
structure World where
  now : Nat := 0
  /-- Sites are bound in process, so an endpoint carries nothing beyond the site id. -/
  coord : Coordinator Unit := {}
  controls : List SiteControl := []
  store : Store := {}
  /-- Calls made on sites, newest first. -/
  log : List SiteEvent := []
  /-- Sites woken since the scheduler last looked, oldest first. -/
  woken : List SiteId := []

namespace World

def control (w : World) (s : SiteId) : SiteControl :=
  (w.controls.find? (·.site = s)).getD (SiteControl.new s)

def setControl (w : World) (c : SiteControl) : World :=
  { w with controls := w.controls.map fun d => if d.site = c.site then c else d }

def setState (w : World) (s : SiteId) (st : SiteState) : World :=
  w.setControl { w.control s with state := st }

/-- Reads and clears a site's abort flag. -/
def takeAbort (w : World) (s : SiteId) : Bool × World :=
  let (b, c) := (w.control s).takeAbort
  (b, w.setControl c)

/-- Makes a call on a site: logs it, applies it to the site's control block, and wakes the
site if the call ended its wait for a lock. -/
def deliver (w : World) (s : SiteId) (k : SiteCall) : World :=
  let c := w.control s
  let c' := c.receive k
  let w := { w with log := ⟨w.now, s, k⟩ :: w.log }
  let w := w.setControl c'
  if c.state = .blocked ∧ c'.state ≠ .blocked then { w with woken := w.woken ++ [s] } else w

def deliverAll (w : World) (ns : List (Notice Unit)) : World :=
  ns.foldl (fun w n => w.deliver n.site n.call) w

def request (w : World) (o : Operation) : Bool × World :=
  let (g, c) := w.coord.request o
  (g, { w with coord := c })

/-- Releases a transaction at the coordinator and delivers the resulting calls; gives the
sites whose operations were granted. -/
def release (w : World) (tx : TxId) : List SiteId × World :=
  let (sites, c, ns) := w.coord.release tx
  (sites, { w with coord := c }.deliverAll ns)

/-- Runs a deadlock check at the coordinator and delivers the resulting calls. -/
def check (w : World) : Option Resolution × World :=
  let (r, c, ns) := w.coord.check
  (r, { w with coord := c }.deliverAll ns)

/-- Makes a call on a site through the coordinator's registry; a site that is not bound is
refused. -/
def notify (w : World) (s : SiteId) (k : SiteCall) : Except ProtocolError World :=
  match w.coord.endpoint? s with
  | some _ => .ok (w.deliver s k)
  | none => .error (.siteNotRegistered s)

theorem log_deliver (w : World) (s : SiteId) (k : SiteCall) :
    (w.deliver s k).log = ⟨w.now, s, k⟩ :: w.log := by
  simp only [deliver]; split <;> rfl

end World
end TwoPhaseLocking
