import TwoPhaseLocking.System.Basic

/-!
Lock requests that fail on the way. Over a network a request can be lost before it reaches the
coordinator, or its answer can be lost after the coordinator has granted or queued the lock.
Either way the agent's call ends in a transport error: the agent turns its site running and
ends the transaction as failed, without releasing what the coordinator holds for it.
-/
namespace TwoPhaseLocking

/-- Where a lock request fails: before the coordinator saw it, or after it answered. -/
inductive RequestFault where
  | lost
  | unanswered
  deriving DecidableEq, Repr

namespace Proc

/-- The agent of site `s` whose lock request fails; `none` unless the agent is asking for a
lock. -/
def failRequest (s : SiteId) (p : Proc) (w : World) (k : RequestFault) : Option (Proc × World) :=
  match p.phase with
  | .request f =>
    match f.rest with
    | o :: _ =>
      let w := match k with
        | .lost => w
        | .unanswered => (w.request o).2
      some ({ p with phase := .next, report := p.report.record f.tx.id .failed },
        w.setState s .running)
    | [] => none
  | _ => none

end Proc

namespace System

inductive FaultyStep : System → Option Transaction → System → Prop
  /-- A step of the run without faults. -/
  | step {sys sys' : System} {c : Option Transaction} : Step sys c sys' → FaultyStep sys c sys'
  /-- The lock request of the agent of a site fails. -/
  | fail {sys : System} {s : SiteId} {k : RequestFault} {p : Proc} {w : World}
      (hs : s ∈ sys.sites) (h : (sys.procs s).failRequest s sys.world k = some (p, w)) :
      FaultyStep sys none { sys with world := w, procs := sys.setProc s p }

/-- A run in which lock requests may fail, with the transactions whose commits finished. -/
inductive FaultyRun : System → List Transaction → System → Prop
  | refl (sys : System) : FaultyRun sys [] sys
  | tail {sys sys' sys'' : System} {C : List Transaction} {c : Option Transaction} :
      FaultyRun sys C sys' → FaultyStep sys' c sys'' → FaultyRun sys (C ++ c.toList) sys''

end System
end TwoPhaseLocking
