import TwoPhaseLocking.ItemMap
import TwoPhaseLocking.IdSet
import TwoPhaseLocking.Transaction.Operation

/-!
The lock table of the coordinator: the locks granted on each item and the operations waiting
for it, head first. A request is granted when the locks held on the item allow it, and queued
otherwise; a release frees one item at a time and then considers only that item's head.
-/
namespace TwoPhaseLocking

/-- Granted locks and waiting operations, per item. -/
structure LockTable where
  held : ItemMap (List Lock) := .empty
  queues : ItemMap (List Operation) := .empty
  deriving Repr, Inhabited, DecidableEq

namespace LockTable

def empty : LockTable := {}

def holders (t : LockTable) (item : String) : List Lock := (t.held.get? item).getD []

/-- The operations waiting for an item, head first. -/
def queue (t : LockTable) (item : String) : List Operation := (t.queues.get? item).getD []

/-- Whether a lock may be granted now; read/write is refused as a request on every item. -/
def check (t : LockTable) (l : Lock) : Except LockError Bool :=
  match l.mode with
  | .readWrite => .error (.invalidMode l.item l.owner l.mode)
  | .read => .ok ((t.holders l.item).all fun h => h.owner = l.owner || !h.mode.isExclusive)
  | .write => .ok ((t.holders l.item).all fun h => h.owner = l.owner)

/-- Whether a lock may be granted now; a refused check counts as no. -/
def allows (t : LockTable) (l : Lock) : Bool :=
  match t.check l with
  | .ok b => b
  | .error _ => false

/-- Upgrades the lock its owner holds on the item, or appends it. -/
def addLock (held : List Lock) (l : Lock) : List Lock :=
  match held.find? (·.owner = l.owner) with
  | some _ => held.map fun h => if h.owner = l.owner then h.upgrade l.mode else h
  | none => held ++ [l]

def grant (t : LockTable) (l : Lock) : LockTable :=
  { t with held := t.held.insert l.item (addLock (t.holders l.item) l) }

def enqueue (t : LockTable) (o : Operation) : LockTable :=
  { t with queues := t.queues.insert o.item (t.queue o.item ++ [o]) }

/-- Asks for the lock an operation needs: `true` when granted, `false` when queued. -/
def request (t : LockTable) (o : Operation) : Except LockError (Bool × LockTable) :=
  match o.lock? with
  | none => .error (.notLockable o.tx o.kind.name)
  | some l => if t.allows l then .ok (true, t.grant l) else .ok (false, t.enqueue o)

/-- Grants the head of an item's queue if it is allowed now; gives the site of its transaction. -/
def promoteHead (t : LockTable) (item : String) : LockTable × Option SiteId :=
  match t.queue item with
  | [] => (t, none)
  | o :: rest =>
    match o.lock? with
    | none => (t, none)
    | some l =>
      if t.allows l then
        let t' := { t with queues := t.queues.set item (if rest.isEmpty then none else some rest) }
        (t'.grant l, some (siteOf o.tx))
      else (t, none)

def dropHolder (t : LockTable) (item : String) (tx : TxId) : LockTable :=
  let rest := (t.holders item).filter (·.owner != tx)
  { t with held := t.held.set item (if rest.isEmpty then none else some rest) }

def locksOf (t : LockTable) (tx : TxId) : List Lock :=
  t.held.values.flatten.filter (·.owner = tx)

def lockOf? (t : LockTable) (tx : TxId) (item : String) : Option Lock :=
  (t.holders item).find? (·.owner = tx)

def queuedOf (t : LockTable) (tx : TxId) : List Operation :=
  t.queues.values.flatten.filter (·.tx = tx)

/-- One step of a release: drops the lock's item for `tx`, then tries that item's head. -/
def releaseStep (tx : TxId) (acc : LockTable × List SiteId) (l : Lock) : LockTable × List SiteId :=
  let (t, sites) := acc
  match (t.dropHolder l.item tx).promoteHead l.item with
  | (t', some s) => (t', IdSet.insert s sites)
  | (t', none) => (t', sites)

/-- Releases every lock of a transaction; gives the sites whose waiting operations were
granted, ascending. -/
def release (t : LockTable) (tx : TxId) : LockTable × List SiteId :=
  (t.locksOf tx).foldl (releaseStep tx) (t, [])

def removeBlocked (t : LockTable) (tx : TxId) : LockTable :=
  { t with queues := t.queues.filterMap fun _ q =>
      let q' := q.filter (·.tx != tx)
      if q'.isEmpty then none else some q' }

/-- Drops the queued operations of a transaction, then releases its locks. -/
def abort (t : LockTable) (tx : TxId) : LockTable × List SiteId :=
  (t.removeBlocked tx).release tx

def lockCount (t : LockTable) : Nat := t.held.values.flatten.length

def waitingCount (t : LockTable) : Nat := t.queues.values.flatten.length

def isEmpty (t : LockTable) : Bool := t.held.isEmpty && t.queues.isEmpty

/-- The table as text lines: `Lock Table`, the locks (or `[]`), `Queue Table`, the waiting
operations (or `[]`). -/
def lines (t : LockTable) : List String :=
  let locks := t.held.values.flatten.map Lock.toText
  let ops := t.queues.values.flatten.map Operation.toText
  ["Lock Table"] ++ (if t.held.isEmpty then ["[]"] else locks) ++
    ["Queue Table"] ++ (if t.queues.isEmpty then ["[]"] else ops)

end LockTable
end TwoPhaseLocking
