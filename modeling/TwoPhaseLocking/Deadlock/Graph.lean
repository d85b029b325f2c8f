import TwoPhaseLocking.Lock.Table

/-!
The wait-for graph: an edge `h → w` says that `h` holds a lock on an item `w` waits for. The
cycle search is a depth-first search from each vertex in ascending order that reports the first
back edge it meets.
-/
namespace TwoPhaseLocking

/-- A directed graph on transaction ids: each vertex with its successors, both ascending. -/
structure WaitGraph where
  adj : List (TxId × List TxId) := []
  deriving Repr, Inhabited, DecidableEq

namespace WaitGraph

/-- Updates the successor list of `v`, adding the vertex if it is new. -/
def modify (f : List TxId → List TxId) (v : TxId) : List (TxId × List TxId) → List (TxId × List TxId)
  | [] => [(v, f [])]
  | (u, s) :: rest =>
    if v < u then (v, f []) :: (u, s) :: rest
    else if v = u then (u, f s) :: rest
    else (u, s) :: modify f v rest

def addVertex (g : WaitGraph) (v : TxId) : WaitGraph := ⟨modify id v g.adj⟩

/-- Adds the edge `h → w`, and both vertices; a self edge adds nothing. -/
def addEdge (g : WaitGraph) (h w : TxId) : WaitGraph :=
  if h = w then g else ⟨modify (IdSet.insert w) h (g.addVertex w).adj⟩

def vertices (g : WaitGraph) : List TxId := g.adj.map (·.1)

def succ (g : WaitGraph) (v : TxId) : List TxId :=
  ((g.adj.find? (·.1 = v)).map (·.2)).getD []

/-- Every edge, ascending by source and then target. -/
def edges (g : WaitGraph) : List (TxId × TxId) := g.adj.flatMap fun (v, s) => s.map (v, ·)

def hasEdge (g : WaitGraph) (h w : TxId) : Bool := (g.succ h).contains w

def edgeCount (g : WaitGraph) : Nat := g.edges.length

def isEmpty (g : WaitGraph) : Bool := g.adj.isEmpty

mutual

/-- Searches from `v` with `path` the vertices on the search path and `done` the finished
ones: gives the first back edge, or the finished vertices afterwards. `fuel` bounds the depth
of the search, and the number of vertices is enough. -/
def visit (g : WaitGraph) (fuel : Nat) (v : TxId) (path done : List TxId) :
    Except (TxId × TxId) (List TxId) :=
  match fuel with
  | 0 => .ok done
  | fuel + 1 => visitSucc g fuel v (v :: path) done (g.succ v)
termination_by (fuel, 0)

/-- Follows the successors `ns` of `v` in order. -/
def visitSucc (g : WaitGraph) (fuel : Nat) (v : TxId) (path done : List TxId) :
    List TxId → Except (TxId × TxId) (List TxId)
  | [] => .ok (v :: done)
  | n :: ns =>
    if path.contains n then .error (v, n)
    else if done.contains n then visitSucc g fuel v path done ns
    else match visit g fuel n path done with
      | .error e => .error e
      | .ok done' => visitSucc g fuel v path done' ns
termination_by ns => (fuel, ns.length + 1)

end

/-- Starts a search from each vertex not yet finished, in order. -/
def searchFrom (g : WaitGraph) (done : List TxId) : List TxId → Option (TxId × TxId)
  | [] => none
  | v :: vs =>
    if done.contains v then g.searchFrom done vs
    else match g.visit g.adj.length v [] done with
      | .error e => some e
      | .ok done' => g.searchFrom done' vs

/-- The first back edge `(from, to)` of the search, if the graph has a cycle. -/
def findCycle? (g : WaitGraph) : Option (TxId × TxId) := g.searchFrom [] g.vertices

/-- The wait-for graph of a lock table: holders and waiters are vertices, and each holder of an
item points to each waiter of the item. -/
def ofTable (t : LockTable) : WaitGraph :=
  let g0 : WaitGraph := {}
  let g1 := t.held.values.flatten.foldl (fun g l => g.addVertex l.owner) g0
  let g2 := t.queues.values.flatten.foldl (fun g o => g.addVertex o.tx) g1
  t.held.entries.foldl (fun g (item, holders) =>
    holders.foldl (fun g h =>
      (t.queue item).foldl (fun g w => g.addEdge h.owner w.tx) g) g) g2

end WaitGraph
end TwoPhaseLocking
