import TwoPhaseLocking.Proofs.Deadlock.Cycle
import TwoPhaseLocking.Proofs.Deadlock.Detection

/-!
The cycle test on every graph that adding vertices and edges builds, the wait-for graph of a
lock table among them: such a graph is well formed and has no self loop, and the depth bound of
the search never cuts it short.
-/
namespace TwoPhaseLocking
namespace WaitGraph

open Relation

variable {g : WaitGraph}

/-- The graphs built from the empty one by adding vertices and edges, one call after another. -/
inductive Built : WaitGraph → Prop
  | empty : Built {}
  | addVertex {g : WaitGraph} (v : TxId) : Built g → Built (g.addVertex v)
  | addEdge {g : WaitGraph} (h w : TxId) : Built g → Built (g.addEdge h w)

theorem wellFormed_of_built (hg : g.Built) : g.WellFormed := by
  induction hg with
  | empty => exact wellFormed_empty
  | addVertex v _ ih => exact ih.addVertex v
  | addEdge h w _ ih => exact ih.addEdge h w

theorem hasEdge_eq_true_iff {u w : TxId} : g.hasEdge u w = true ↔ g.Edge u w := by
  simp [hasEdge, Edge]

/-- Adding an edge from a vertex to itself does nothing, so no built graph has a self loop. -/
theorem Built.not_edge_self (hg : g.Built) (v : TxId) : ¬ g.Edge v v := by
  induction hg with
  | empty => simp [Edge, succ]
  | addVertex u hb ih =>
    rw [Edge, succ_addVertex (wellFormed_of_built hb)]
    exact ih
  | addEdge a b hb ih =>
    intro hv
    rcases mem_succ_addEdge_cases (wellFormed_of_built hb) hv with hv | ⟨-, -, hne⟩
    · exact ih hv
    · exact hne rfl

theorem built_foldl {α : Type} {F : WaitGraph → α → WaitGraph}
    (hF : ∀ g x, g.Built → (F g x).Built) : ∀ (l : List α) {g : WaitGraph}, g.Built →
      (l.foldl F g).Built
  | [], _, hg => hg
  | x :: l, g, hg => built_foldl hF l (hF g x hg)

/-- The wait-for graph of a lock table is built by adding vertices and edges. -/
theorem built_ofTable (t : LockTable) : (ofTable t).Built := by
  have hvertices := built_foldl (fun g (o : Operation) hg => Built.addVertex o.tx hg)
    t.queues.values.flatten
    (built_foldl (fun g (l : Lock) hg => Built.addVertex l.owner hg) t.held.values.flatten
      Built.empty)
  refine built_foldl (fun g e hg => ?_) _ hvertices
  exact built_foldl (fun g h hg => built_foldl (fun g w hg => Built.addEdge h.owner w.tx hg)
    (t.queue e.1) hg) e.2 hg

/-! ### The depth bound -/

/-- Following the successors `ns` gives the same result with a larger depth bound, when the
searches from them do. -/
theorem visitSucc_add_fuel {fuel k : Nat} {v : TxId} {path : List TxId}
    (hvisit : ∀ n done, n ∈ g.vertices → n ∉ path →
      g.visit (fuel + k) n path done = g.visit fuel n path done) :
    ∀ (ns done : List TxId), (∀ n ∈ ns, n ∈ g.vertices) →
      g.visitSucc (fuel + k) v path done ns = g.visitSucc fuel v path done ns
  | [], done, _ => by simp only [visitSucc]
  | n :: ns, done, hns => by
    have hns' : ∀ m ∈ ns, m ∈ g.vertices := fun m hm => hns m (List.mem_cons_of_mem _ hm)
    simp only [visitSucc]
    by_cases hp : path.contains n
    · simp only [hp, if_true]
    · by_cases hd : done.contains n
      · simp only [hp, hd, if_true, Bool.false_eq_true, if_false]
        exact visitSucc_add_fuel hvisit ns done hns'
      · simp only [hp, hd, Bool.false_eq_true, if_false]
        rw [hvisit n done (hns n List.mem_cons_self) (by simpa using hp)]
        cases g.visit fuel n path done with
        | error e => rfl
        | ok done' => exact visitSucc_add_fuel hvisit ns done' hns'

/-- A search from a vertex off the path, with a bound that leaves room for a path of all the
vertices, gives the same result with any larger bound: the bound is never reached. -/
theorem visit_add_fuel (h : g.WellFormed) : ∀ (fuel k : Nat) (v : TxId) (path done : List TxId),
    v ∈ g.vertices → v ∉ path → path.Nodup → (∀ u ∈ path, u ∈ g.vertices) →
    g.vertices.length ≤ path.length + fuel →
    g.visit (fuel + k) v path done = g.visit fuel v path done
  | 0, _, v, path, _, hv, hvp, hpn, hpV, hlen => by
    have := length_lt_of_not_mem hpn hpV hv hvp
    omega
  | fuel + 1, k, v, path, done, hv, hvp, hpn, hpV, hlen => by
    have hpV' : ∀ u ∈ v :: path, u ∈ g.vertices := fun u hu => by
      rcases List.mem_cons.mp hu with rfl | hu
      · exact hv
      · exact hpV u hu
    rw [show fuel + 1 + k = fuel + k + 1 by omega, visit, visit]
    -- each nested search starts one step deeper, from a vertex that is not on the path
    exact visitSucc_add_fuel
      (fun n done hn hnp => visit_add_fuel h fuel k n (v :: path) done hn hnp
        (List.nodup_cons.mpr ⟨hvp, hpn⟩) hpV' (by simp only [List.length_cons]; omega))
      (g.succ v) done fun n hn => succ_subset_vertices h hn

/-- The searches the cycle test starts give the same result with any larger depth bound. -/
theorem visit_root_add_fuel (h : g.WellFormed) {v : TxId} (hv : v ∈ g.vertices)
    (done : List TxId) (k : Nat) :
    g.visit (g.adj.length + k) v [] done = g.visit g.adj.length v [] done :=
  visit_add_fuel h _ k v [] done hv List.not_mem_nil List.nodup_nil (fun _ hu => absurd hu
    List.not_mem_nil) (by simp [vertices])

/-! ### The cycle test -/

/-- On a graph built by adding vertices and edges, the cycle test is sound and complete: its
searches are never cut short by the depth bound, it finds nothing exactly when the graph has
no cycle, a reported pair `(u, v)` is an edge with a path back from `v` to `u`, and no vertex
has an edge to itself. -/
theorem Built.findCycle?_correct (hg : g.Built) :
    (∀ v ∈ g.vertices, ∀ (done : List TxId) (k : Nat),
      g.visit (g.adj.length + k) v [] done = g.visit g.adj.length v [] done) ∧
    (g.findCycle? = none ↔ ∀ v, ¬ TransGen g.Edge v v) ∧
    (∀ u v, g.findCycle? = some (u, v) → g.hasEdge u v = true ∧ ReflTransGen g.Edge v u) ∧
    ∀ v, g.hasEdge v v = false := by
  have h := wellFormed_of_built hg
  refine ⟨fun v hv => visit_root_add_fuel h hv, findCycle?_eq_none_iff h, fun u v hc => ?_,
    fun v => ?_⟩
  · obtain ⟨huv, hvu⟩ := findCycle?_backEdge hc
    exact ⟨hasEdge_eq_true_iff.mpr huv, hvu⟩
  · cases hv : g.hasEdge v v with
    | false => rfl
    | true => exact absurd (hasEdge_eq_true_iff.mp hv) (hg.not_edge_self v)

/-- A lone vertex first, then the cycle `5 → 7 → 9 → 5`, which the search from the first
vertex does not reach. -/
theorem cycle_behind_lone_vertex_tested :
    ∃ g : WaitGraph, g.Built ∧ g.vertices = [1, 5, 7, 9] ∧
      (∀ v ∈ g.vertices, ∀ (done : List TxId) (k : Nat),
        g.visit (g.adj.length + k) v [] done = g.visit g.adj.length v [] done) ∧
      (g.findCycle? = none ↔ ∀ v, ¬ TransGen g.Edge v v) ∧
      (∀ u v, g.findCycle? = some (u, v) → g.hasEdge u v = true ∧ ReflTransGen g.Edge v u) ∧
      ∀ v, g.hasEdge v v = false :=
  have hg := Built.addEdge 9 5 (Built.addEdge 7 9 (Built.addEdge 5 7 (Built.addVertex 1
    Built.empty)))
  ⟨_, hg, rfl, Built.findCycle?_correct hg⟩

end WaitGraph
end TwoPhaseLocking
