import TwoPhaseLocking.Deadlock.Resolve
import TwoPhaseLocking.Protocol.Frame

/-!
The coordinator: the lock table, the site ids it has handed out, the sites it can reach, and
its counts. It grants, queues and releases locks and aborts deadlock victims, returning the
calls on bound sites as notices in the order they are sent; `ε` is how a site is reached.
-/
namespace TwoPhaseLocking

/-- A call the coordinator makes on a site. -/
inductive SiteCall where
  | abort
  | unblock
  | write
  deriving DecidableEq, Repr, Inhabited

def SiteCall.name : SiteCall → String
  | .abort => "abort"
  | .unblock => "unblock"
  | .write => "write"

/-- A call to deliver to a bound site, through its endpoint. -/
structure Notice (ε : Type) where
  site : SiteId
  endpoint : ε
  call : SiteCall

structure CoordinatorStats where
  registered : Nat
  bound : Nat
  deadlocksFound : Nat
  checksRun : Nat
  deriving DecidableEq, Repr

/-- The coordinator's state; `ε` is how a bound site is reached. -/
structure Coordinator (ε : Type) where
  table : LockTable := {}
  /-- The id the next registered site gets; ids start at 1. -/
  nextSite : Nat := 1
  deadlocksFound : Nat := 0
  checksRun : Nat := 0
  /-- The bound sites, by ascending id. -/
  sites : List (SiteId × ε) := []

namespace Coordinator

variable {ε : Type}

/-- Hands out the next site id. -/
def register (c : Coordinator ε) : SiteId × Coordinator ε :=
  (c.nextSite, { c with nextSite := c.nextSite + 1 })

/-- Puts `(s, e)` into a list of bound sites, replacing an entry for `s`. -/
def bindEntry (s : SiteId) (e : ε) : List (SiteId × ε) → List (SiteId × ε)
  | [] => [(s, e)]
  | (t, f) :: rest =>
    if s < t then (s, e) :: (t, f) :: rest
    else if s = t then (s, e) :: rest
    else (t, f) :: bindEntry s e rest

/-- Binds a registered site to an endpoint; an id not handed out is refused. -/
def bind (c : Coordinator ε) (s : SiteId) (e : ε) : Except ProtocolError (Coordinator ε) :=
  if 1 ≤ s ∧ s < c.nextSite then .ok { c with sites := bindEntry s e c.sites }
  else .error (.siteNotRegistered s)

/-- Unbinds a site; says whether it was bound. -/
def unbind (c : Coordinator ε) (s : SiteId) : Bool × Coordinator ε :=
  ((c.sites.find? (·.1 = s)).isSome, { c with sites := c.sites.filter (·.1 != s) })

def siteIds (c : Coordinator ε) : List SiteId := c.sites.map (·.1)

def endpoint? (c : Coordinator ε) (s : SiteId) : Option ε := (c.sites.find? (·.1 = s)).map (·.2)

/-- The notices for calls on sites, skipping sites that are not bound. -/
def notices (c : Coordinator ε) (calls : List (SiteId × SiteCall)) : List (Notice ε) :=
  calls.filterMap fun (s, k) => (c.endpoint? s).map fun e => ⟨s, e, k⟩

/-- Asks for a lock; a refused request (a compute) counts as not granted. -/
def request (c : Coordinator ε) (o : Operation) : Bool × Coordinator ε :=
  match c.table.request o with
  | .ok (g, t) => (g, { c with table := t })
  | .error _ => (false, c)

/-- Releases a transaction's locks; gives the sites whose operations were granted, and the
notices: `write` then `unblock` to each. -/
def release (c : Coordinator ε) (tx : TxId) : List SiteId × Coordinator ε × List (Notice ε) :=
  let (t, sites) := c.table.release tx
  let c' := { c with table := t }
  (sites, c', c'.notices (sites.flatMap fun s => [(s, .write), (s, .unblock)]))

/-- Runs a deadlock check; on a deadlock, the notices `abort` to the victim's site and
`unblock` to each site the abort granted. -/
def check (c : Coordinator ε) : Option Resolution × Coordinator ε × List (Notice ε) :=
  let c1 := { c with checksRun := c.checksRun + 1 }
  match c1.table.resolveDeadlock with
  | (none, _) => (none, c1, [])
  | (some r, t) =>
    let c2 := { c1 with table := t, deadlocksFound := c1.deadlocksFound + 1 }
    (some r, c2, c2.notices ((r.victimSite, .abort) :: r.unblocked.map (·, .unblock)))

def stats (c : Coordinator ε) : CoordinatorStats :=
  ⟨c.nextSite - 1, c.sites.length, c.deadlocksFound, c.checksRun⟩

def notServed (r : Request) (by_ : String) : Response :=
  .ofError (.malformed s!"'{r.name}' is not served by the {by_}")

/-- Answers a request frame; `connect` makes the endpoint of a site bound by address. -/
def handle (c : Coordinator ε) (connect : String → ε) (r : Request) :
    Response × Coordinator ε × List (Notice ε) :=
  match r with
  | .registerSite => let (s, c') := c.register; (.siteId s, c', [])
  | .bindSite s a =>
    match c.bind s (connect a) with
    | .ok c' => (.ack, c', [])
    | .error e => (.ofError e, c, [])
  | .requestLock o => let (g, c') := c.request o; (.granted g, c', [])
  | .releaseLock t => let (_, c', ns) := c.release t; (.ack, c', ns)
  | other => (notServed other "coordinator", c, [])

end Coordinator
end TwoPhaseLocking
