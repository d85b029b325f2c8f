import TwoPhaseLocking.Site.Agent

/-!
The sites and the coordinator under every interleaving. An agent's steps are its accesses to
shared state; the coordinator runs each request, release and deadlock check as one critical
section, and its calls on sites are delivered one at a time in any order. A run records each
transaction whose commit finished, in the order the commits finished.
-/
namespace TwoPhaseLocking

/-- Where the agent of a site stands, between two accesses to shared state. -/
inductive Phase where
  /-- Takes the next transaction and drops a stale abort request, or goes idle. -/
  | next
  /-- Turns the site running before the first operation. -/
  | begin (f : InFlight)
  /-- Reads and clears the abort flag before the next operation, or before the commit. -/
  | check (f : InFlight)
  /-- Marks the site blocked before asking for the lock of the next operation. -/
  | block (f : InFlight)
  /-- Asks the coordinator for the lock of the next operation. -/
  | request (f : InFlight)
  /-- The lock came with the answer; turns the site running. -/
  | granted (f : InFlight)
  /-- Waits until the site is no longer blocked. -/
  | wait (f : InFlight)
  /-- Reads and clears the abort flag after the lock came. -/
  | recheck (f : InFlight)
  /-- Runs the next operation. -/
  | execute (f : InFlight)
  /-- Writes the staged values still to write, in item order. -/
  | commit (f : InFlight) (rest : List (String × Int))
  /-- Releases the transaction's locks, then notes how it ended. -/
  | release (f : InFlight) (o : Outcome)
  /-- Marks the site aborting. -/
  | abandon (f : InFlight)
  /-- Turns the site running again and notes the abort. -/
  | abandoned (f : InFlight)
  /-- No transaction is left. -/
  | idle
  deriving Repr, Inhabited

/-- The agent of a site: the transactions not yet started, where it stands, and how the
transactions so far ended. -/
structure Proc where
  queue : List Transaction
  phase : Phase := .next
  report : SiteReport
  deriving Repr, Inhabited

namespace Proc

/-- The next step of the agent of site `s`: the agent and the shared state after it, the notices
the coordinator sends because of it, and the transaction whose commit it finished. `none` while
the agent waits for its site to be unblocked, and once it is idle. -/
def step (s : SiteId) (p : Proc) (w : World) :
    Option (Proc × World × List (Notice Unit) × Option Transaction) :=
  match p.phase with
  | .next =>
    match p.queue with
    | [] => some ({ p with phase := .idle }, w.setState s .idle, [], none)
    | t :: ts => some ({ p with queue := ts, phase := .begin ⟨t, t.ops, {}, false⟩ },
        (w.takeAbort s).2, [], none)
  | .begin f => some ({ p with phase := .check f }, w.setState s .running, [], none)
  | .check f =>
    let (abort, w) := w.takeAbort s
    let phase : Phase :=
      if abort then .abandon f
      else match f.rest with
        | [] => .commit f f.staging.toCommit.entries
        | o :: _ => if o.requiresLock then .block f else .execute f
    some ({ p with phase := phase }, w, [], none)
  | .block f => some ({ p with phase := .request f }, w.setState s .blocked, [], none)
  | .request f =>
    match f.rest with
    | o :: _ =>
      let (g, w) := w.request o
      some ({ p with phase := if g then .granted f else .wait f }, w, [], none)
    | [] => none
  | .granted f => some ({ p with phase := .recheck f }, w.setState s .running, [], none)
  | .wait f =>
    if (w.control s).state = .blocked then none
    else some ({ p with phase := .recheck f }, w, [], none)
  | .recheck f =>
    let (abort, w) := w.takeAbort s
    some ({ p with phase := if abort then .abandon f else .execute f }, w, [], none)
  | .execute f =>
    match f.rest with
    | o :: more =>
      match f.staging.execute f.tx.id o w.store with
      | .ok (st, store) =>
        some ({ p with phase := .check { f with rest := more, staging := st } },
          { w with store := store }, [], none)
      | .error _ => some ({ p with phase := .release f .failed }, w, [], none)
    | [] => none
  | .commit f rest =>
    match rest with
    | [] => some ({ p with phase := .release f .committed }, w, [], some f.tx)
    | (k, v) :: more =>
      match w.store.write k v with
      | .ok store => some ({ p with phase := .commit f more }, { w with store := store }, [], none)
      | .error _ => some ({ p with phase := .release f .failed }, w, [], none)
  | .release f o =>
    let (_, c, ns) := w.coord.release f.tx.id
    some ({ p with phase := .next, report := p.report.record f.tx.id o }, { w with coord := c },
      ns, none)
  | .abandon f => some ({ p with phase := .abandoned f }, w.setState s .aborting, [], none)
  | .abandoned f =>
    some ({ p with phase := .next, report := p.report.record f.tx.id .aborted },
      w.setState s .running, [], none)
  | .idle => none

end Proc

/-- Site agents sharing one coordinator and one store, with the notices the coordinator sent
and that have not reached their sites yet. -/
structure System where
  world : World
  sites : List SiteId
  procs : SiteId → Proc
  pending : List (Notice Unit) := []

namespace System

def setProc (sys : System) (s : SiteId) (p : Proc) : SiteId → Proc :=
  fun s' => if s' = s then p else sys.procs s'

/-- One step of a run, with the transaction whose commit it finished, if any. -/
inductive Step : System → Option Transaction → System → Prop
  /-- The agent of a site takes its next step. -/
  | agent {sys : System} {s : SiteId} {p : Proc} {w : World} {ns : List (Notice Unit)}
      {c : Option Transaction} (hs : s ∈ sys.sites)
      (h : (sys.procs s).step s sys.world = some (p, w, ns, c)) :
      Step sys c { sys with world := w, procs := sys.setProc s p, pending := sys.pending ++ ns }
  /-- A pending notice reaches its site. -/
  | deliver {sys : System} (before after : List (Notice Unit)) (n : Notice Unit)
      (h : sys.pending = before ++ n :: after) :
      Step sys none
        { sys with world := sys.world.deliver n.site n.call, pending := before ++ after }
  /-- The coordinator runs a deadlock check. -/
  | check (sys : System) :
      Step sys none
        { sys with world := { sys.world with coord := sys.world.coord.check.2.1 },
                   pending := sys.pending ++ sys.world.coord.check.2.2 }

/-- A run, with the transactions whose commits finished, in the order they finished. -/
inductive Run : System → List Transaction → System → Prop
  | refl (sys : System) : Run sys [] sys
  | tail {sys sys' sys'' : System} {C : List Transaction} {c : Option Transaction} :
      Run sys C sys' → Step sys' c sys'' → Run sys (C ++ c.toList) sys''

end System
end TwoPhaseLocking
