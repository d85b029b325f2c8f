import TwoPhaseLocking.Deadlock.Graph

/-!
Resolving a deadlock: build the wait-for graph of the lock table, and when the search finds a
back edge `h → w`, abort `w` (the waiter that closed the cycle).
-/
namespace TwoPhaseLocking

/-- The outcome of a check that found a cycle. -/
structure Resolution where
  victim : TxId
  victimSite : SiteId
  /-- Sites whose waiting operations the abort granted, ascending. -/
  unblocked : List SiteId
  deriving DecidableEq, Repr, Inhabited

namespace LockTable

/-- Looks for a cycle and aborts its victim. -/
def resolveDeadlock (t : LockTable) : Option Resolution × LockTable :=
  match (WaitGraph.ofTable t).findCycle? with
  | none => (none, t)
  | some (_, victim) =>
    let (t', sites) := t.abort victim
    (some ⟨victim, siteOf victim, sites⟩, t')

end LockTable
end TwoPhaseLocking
