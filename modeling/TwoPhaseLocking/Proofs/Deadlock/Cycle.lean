import Mathlib.Logic.Relation
import TwoPhaseLocking.Proofs.Deadlock.Search

/-!
The cycle search reports exactly the graphs with a cycle: a back edge it reports closes a cycle
(`findCycle?_backEdge`), and a vertex on a cycle makes it report one
(`findCycle?_isSome_of_cycle`).
-/
namespace TwoPhaseLocking
namespace WaitGraph

open Relation

variable {g : WaitGraph}

/-- `u → w` is an edge of the graph. -/
def Edge (g : WaitGraph) (u w : TxId) : Prop := w ∈ g.succ u

theorem mem_vertices_of_transGen (h : g.WellFormed) {v w : TxId} (hvw : TransGen g.Edge v w) :
    w ∈ g.vertices := by
  obtain ⟨u, -, huw⟩ := TransGen.tail'_iff.mp hvw
  exact succ_subset_vertices h huw

/-! ### A back edge closes a cycle -/

/-- The edge `u → v` closes a cycle: `v` reaches `u`. -/
def ClosesCycle (g : WaitGraph) (e : TxId × TxId) : Prop :=
  g.Edge e.1 e.2 ∧ ReflTransGen g.Edge e.2 e.1

/-- Following the successors `ns` of `v`, when every vertex on the path reaches `v`: a back edge
reported there closes a cycle. -/
theorem visitSucc_backEdge {fuel : Nat} {v : TxId} {path : List TxId}
    (hpath : ∀ x ∈ path, ReflTransGen g.Edge x v)
    (hvisit : ∀ n done e, n ∈ g.succ v → g.visit fuel n path done = .error e → g.ClosesCycle e) :
    ∀ (ns done : List TxId) (e : TxId × TxId), g.visitSucc fuel v path done ns = .error e →
      (∀ n ∈ ns, n ∈ g.succ v) → g.ClosesCycle e
  | [], done, e, hv, _ => by
    rw [visitSucc] at hv
    cases hv
  | n :: ns, done, e, hv, hns => by
    have hn : n ∈ g.succ v := hns n List.mem_cons_self
    have hns' : ∀ m ∈ ns, m ∈ g.succ v := fun m hm => hns m (List.mem_cons_of_mem _ hm)
    rw [visitSucc] at hv
    split at hv
    · -- `n` is on the path: the edge `v → n` goes back to a vertex that reaches `v`
      rename_i hp
      cases hv
      exact ⟨hn, hpath n (by simpa using hp)⟩
    · split at hv
      · exact visitSucc_backEdge hpath hvisit ns done e hv hns'
      · split at hv
        · rename_i e' hv'
          obtain rfl := Except.error.inj hv
          exact hvisit n done e' hn hv'
        · exact visitSucc_backEdge hpath hvisit ns _ e hv hns'

/-- A search from `v`, when every vertex on the path reaches `v`, reports only back edges that
close a cycle. -/
theorem visit_backEdge : ∀ (fuel : Nat) (v : TxId) (path done : List TxId) (e : TxId × TxId),
    (∀ x ∈ path, ReflTransGen g.Edge x v) → g.visit fuel v path done = .error e → g.ClosesCycle e
  | 0, _, _, _, _, _, hv => by
    rw [visit] at hv
    cases hv
  | fuel + 1, v, path, done, e, hpath, hv => by
    rw [visit] at hv
    -- `v` joins the path; each vertex on it still reaches the successor searched next
    have hpath' : ∀ x ∈ v :: path, ReflTransGen g.Edge x v := by
      intro x hx
      rcases List.mem_cons.mp hx with rfl | hx
      · exact ReflTransGen.refl
      · exact hpath x hx
    exact visitSucc_backEdge hpath'
      (fun n done e hn hvn => visit_backEdge fuel n (v :: path) done e
        (fun x hx => (hpath' x hx).tail hn) hvn)
      (g.succ v) done e hv fun _ hn => hn

theorem searchFrom_backEdge : ∀ (vs done : List TxId) (e : TxId × TxId),
    g.searchFrom done vs = some e → g.ClosesCycle e
  | [], _, _, hs => by
    rw [searchFrom] at hs
    cases hs
  | v :: vs, done, e, hs => by
    rw [searchFrom] at hs
    split at hs
    · exact searchFrom_backEdge vs done e hs
    · split at hs
      · rename_i e' hv
        obtain rfl := Option.some.inj hs
        exact visit_backEdge _ v [] done e' (fun _ hx => absurd hx List.not_mem_nil) hv
      · exact searchFrom_backEdge vs _ e hs

/-- The back edge `u → v` the search reports closes a cycle through `v`. -/
theorem findCycle?_backEdge {u v : TxId} (h : g.findCycle? = some (u, v)) :
    g.Edge u v ∧ ReflTransGen g.Edge v u :=
  searchFrom_backEdge _ _ _ h

theorem transGen_of_findCycle? {u v : TxId} (h : g.findCycle? = some (u, v)) :
    TransGen g.Edge v v :=
  have hb := findCycle?_backEdge h
  TransGen.tail' hb.2 hb.1

/-! ### A cycle is found -/

/-- If a vertex lies on a cycle, the search reports a back edge. -/
theorem findCycle?_isSome_of_cycle (h : g.WellFormed) {v : TxId} (hv : TransGen g.Edge v v) :
    g.findCycle?.isSome := by
  classical
  -- the vertices reachable from `v` each have a predecessor among them
  refine findCycle?_isSome_of_supported h
    (D := g.vertices.filter fun w => TransGen g.Edge v w) ?_ ?_
  · exact List.ne_nil_of_mem
      (List.mem_filter.mpr ⟨mem_vertices_of_transGen h hv, decide_eq_true hv⟩)
  · intro w hw
    have hvw : TransGen g.Edge v w := of_decide_eq_true (List.mem_filter.mp hw).2
    obtain ⟨u, hvu, huw⟩ := TransGen.tail'_iff.mp hvw
    have hvu' : TransGen g.Edge v u := by
      rcases reflTransGen_iff_eq_or_transGen.mp hvu with rfl | hvu
      · exact hv
      · exact hvu
    exact ⟨u, List.mem_filter.mpr ⟨mem_vertices_of_transGen h hvu', decide_eq_true hvu'⟩, huw⟩

/-- The search reports no back edge exactly when the graph has no cycle. -/
theorem findCycle?_eq_none_iff (h : g.WellFormed) :
    g.findCycle? = none ↔ ∀ v, ¬ TransGen g.Edge v v := by
  constructor
  · intro hn v hv
    have := findCycle?_isSome_of_cycle h hv
    rw [hn] at this
    cases this
  · intro hacyc
    cases hc : g.findCycle? with
    | none => rfl
    | some e => exact absurd (transGen_of_findCycle? hc) (hacyc e.2)

end WaitGraph
end TwoPhaseLocking
