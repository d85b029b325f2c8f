import TwoPhaseLocking.Cluster.World

/-!
Scripted interventions in a cluster run: at a given time, a lock request or a release on
behalf of a transaction from outside the sites, a write straight into the store, a deadlock
check, or a call on a site through the coordinator's registry. Each gives the answer the
coordinator or the store gives.
-/
namespace TwoPhaseLocking

/-- An intervention from outside the sites. -/
inductive Action where
  | request (o : Operation)
  | release (tx : TxId)
  /-- Writes into the store, whatever budget of calls it has left. -/
  | storeWrite (item : String) (value : Int)
  | check
  | notify (site : SiteId) (call : SiteCall)
  deriving DecidableEq, Repr, Inhabited

inductive ActionResult where
  | granted (g : Bool)
  /-- The sites whose waiting operations the release granted, ascending. -/
  | released (sites : List SiteId)
  | stored
  | checked (r : Option Resolution)
  | notified (r : Except ProtocolError Unit)
  deriving Inhabited

namespace Action

def perform (a : Action) (w : World) : ActionResult × World :=
  match a with
  | .request o => let (g, w) := w.request o; (.granted g, w)
  | .release tx => let (sites, w) := w.release tx; (.released sites, w)
  | .storeWrite item v => (.stored, { w with store := w.store.put item v })
  | .check => let (r, w) := w.check; (.checked r, w)
  | .notify s k =>
    match w.notify s k with
    | .ok w => (.notified (.ok ()), w)
    | .error e => (.notified (.error e), w)

@[simp] theorem perform_storeWrite (item : String) (v : Int) (w : World) :
    (storeWrite item v).perform w = (.stored, { w with store := w.store.put item v }) := rfl

end Action
end TwoPhaseLocking
