import TwoPhaseLocking.Cluster.World
import TwoPhaseLocking.Transaction.Run

/-!
The agent of a site: it runs the site's transactions one after another under the coordinator's
locks, checking for an abort before each operation and before the commit. An execution or
storage error fails the transaction and releases its locks; a lock request that cannot reach
the coordinator fails it without a release.
-/
namespace TwoPhaseLocking

structure AgentSettings where
  /-- The pause after each executed operation, in milliseconds; 0 means none. -/
  delay : Nat := 100
  /-- How often a blocked agent notes that it still waits, in milliseconds. -/
  heartbeat : Nat := 1000
  deriving DecidableEq, Repr, Inhabited

inductive Outcome where
  | committed
  | aborted
  | failed
  deriving DecidableEq, Repr, Inhabited

/-- The transactions of one site by how they ended, each list in running order. -/
structure SiteReport where
  site : SiteId
  committed : List TxId := []
  aborted : List TxId := []
  failed : List TxId := []
  deriving DecidableEq, Repr, Inhabited

namespace SiteReport

def record (r : SiteReport) (tx : TxId) : Outcome → SiteReport
  | .committed => { r with committed := r.committed ++ [tx] }
  | .aborted => { r with aborted := r.aborted ++ [tx] }
  | .failed => { r with failed := r.failed ++ [tx] }

def total (r : SiteReport) : Nat := r.committed.length + r.aborted.length + r.failed.length

/-- `site S: C committed, A aborted, F failed`. -/
def toText (r : SiteReport) : String :=
  s!"site {r.site}: {r.committed.length} committed, {r.aborted.length} aborted, {r.failed.length} failed"

@[simp] theorem total_record (r : SiteReport) (tx : TxId) (o : Outcome) :
    (r.record tx o).total = r.total + 1 := by
  cases o <;> simp [record, total] <;> omega

end SiteReport

/-- Faults a site is set up with: its first lock requests do not reach the coordinator, and
its releases may time out, leaving its locks held. -/
structure SiteFaults where
  failingRequests : Nat := 0
  releaseFails : Bool := false
  deriving DecidableEq, Repr, Inhabited

/-- The transaction an agent is running: the operations still to run and the staged values. -/
structure InFlight where
  tx : Transaction
  rest : List Operation
  staging : Staging := {}
  /-- The agent waits for the lock of the first operation of `rest`. -/
  waiting : Bool := false
  deriving Repr, Inhabited

/-- Why an agent stopped running. -/
inductive Pause where
  /-- It sleeps until the given time. -/
  | sleep (wake : Nat)
  /-- It waits for its site to leave the blocked state, and notes at the given time that it
  still waits. -/
  | wait (beat : Nat)
  /-- It has no transaction left. -/
  | finished
  deriving DecidableEq, Repr, Inhabited

structure Agent where
  site : SiteId
  settings : AgentSettings := {}
  faults : SiteFaults := {}
  /-- Transactions not yet started. -/
  queue : List Transaction
  current : Option InFlight := none
  report : SiteReport := { site := site }
  /-- The time the agent ran out of transactions. -/
  finishedAt : Option Nat := none
  deriving Repr, Inhabited

namespace Agent

def finish (a : Agent) (o : Outcome) : Agent :=
  match a.current with
  | some f => { a with current := none, report := a.report.record f.tx.id o }
  | none => a

/-- Releases a transaction's locks; a site whose releases time out keeps them. -/
def release (a : Agent) (tx : TxId) (w : World) : World :=
  if a.faults.releaseFails then w else (w.release tx).2

/-- An upper bound on the turns of one run: two per operation and two per transaction. -/
def work (a : Agent) : Nat :=
  (a.queue.map fun t => 2 * t.ops.length + 2).foldr (· + ·) 0 +
    (match a.current with | some f => 2 * f.rest.length + 2 | none => 0) + 2

/-- Runs the agent until it pauses. `locked` says that the first operation left already has
its lock (it was just granted, or the wait for it ended). -/
def proceed : Nat → Agent → World → Bool → Agent × World × Pause
  | 0, a, w, _ => (a, w, .finished)
  | fuel + 1, a, w, locked =>
    match a.current with
    | none =>
      match a.queue with
      | [] => ({ a with finishedAt := some w.now }, w.setState a.site .idle, .finished)
      | t :: rest =>
        let w := (w.takeAbort a.site).2.setState a.site .running
        proceed fuel { a with queue := rest, current := some ⟨t, t.ops, {}, false⟩ } w false
    | some f =>
      let (abort, w) := w.takeAbort a.site
      if abort then
        proceed fuel (a.finish .aborted) (w.setState a.site .running) false
      else
        match f.rest with
        | [] =>
          let (s, r) := f.staging.commit w.store
          let w := a.release f.tx.id { w with store := s }
          match r with
          | .ok _ => proceed fuel (a.finish .committed) w false
          | .error _ => proceed fuel (a.finish .failed) w false
        | o :: more =>
          if o.requiresLock && !locked then
            let w := w.setState a.site .blocked
            match a.faults.failingRequests with
            | n + 1 =>
              let a := { a with faults := { a.faults with failingRequests := n } }
              proceed fuel (a.finish .failed) (w.setState a.site .running) false
            | 0 =>
              let (g, w) := w.request o
              if g then proceed fuel a (w.setState a.site .running) true
              else
                ({ a with current := some { f with waiting := true } }, w,
                  .wait (w.now + a.settings.heartbeat))
          else
            match f.staging.execute f.tx.id o w.store with
            | .error _ => proceed fuel (a.finish .failed) (a.release f.tx.id w) false
            | .ok (st, s) =>
              let a := { a with current := some { f with rest := more, staging := st } }
              let w := { w with store := s }
              if a.settings.delay = 0 then proceed fuel a w false
              else (a, w, .sleep (w.now + a.settings.delay))

/-- Starts or resumes the agent and runs it until it pauses. An agent that waits for a lock
and whose site is still blocked waits on, noting the time of its next heartbeat. -/
def resume (a : Agent) (w : World) : Agent × World × Pause :=
  match a.current with
  | some f =>
    if f.waiting then
      if (w.control a.site).state = .blocked then (a, w, .wait (w.now + a.settings.heartbeat))
      else proceed a.work { a with current := some { f with waiting := false } } w true
    else proceed a.work a w false
  | none => proceed a.work a w false

end Agent
end TwoPhaseLocking
