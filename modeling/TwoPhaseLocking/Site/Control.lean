import TwoPhaseLocking.Coordinator

/-!
The control block of a site: its state (running, blocked on a lock, aborting, idle) and a flag
that asks the running transaction to abort. The coordinator's calls act on it: `unblock` wakes
a blocked site and leaves any other state alone, `abort` raises the flag and then unblocks, and
`write` changes nothing.
-/
namespace TwoPhaseLocking

/-- What a site is doing. -/
inductive SiteState where
  | running
  | blocked
  | aborting
  | idle
  deriving DecidableEq, Repr, Inhabited

def SiteState.name : SiteState → String
  | .running => "running"
  | .blocked => "blocked"
  | .aborting => "aborting"
  | .idle => "idle"

structure SiteControl where
  site : SiteId
  state : SiteState := .running
  abortRequested : Bool := false
  deriving DecidableEq, Repr, Inhabited

namespace SiteControl

def new (s : SiteId) : SiteControl := { site := s }

def requestAbort (c : SiteControl) : SiteControl := { c with abortRequested := true }

def takeAbort (c : SiteControl) : Bool × SiteControl := (c.abortRequested, { c with abortRequested := false })

/-- Turns a blocked site to running; says whether it was blocked. -/
def releaseBlock (c : SiteControl) : Bool × SiteControl :=
  if c.state = .blocked then (true, { c with state := .running }) else (false, c)

def receive (c : SiteControl) : SiteCall → SiteControl
  | .abort => (c.requestAbort.releaseBlock).2
  | .unblock => c.releaseBlock.2
  | .write => c

/-- Answers a request frame: calls on a site are acknowledged, anything else is not served. -/
def handle (c : SiteControl) (r : Request) : Response × SiteControl :=
  match r with
  | .abort => (.ack, c.receive .abort)
  | .unblock => (.ack, c.receive .unblock)
  | .write => (.ack, c.receive .write)
  | other => (Coordinator.notServed other "site", c)

@[simp] theorem receive_abort_flag (c : SiteControl) : (c.receive .abort).abortRequested = true := by
  simp only [receive, requestAbort, releaseBlock]; by_cases h : c.state = .blocked <;> simp [h]

end SiteControl
end TwoPhaseLocking
