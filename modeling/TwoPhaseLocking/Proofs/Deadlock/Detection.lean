import TwoPhaseLocking.Deadlock.Resolve
import TwoPhaseLocking.Proofs.Deadlock.Search
import TwoPhaseLocking.Proofs.Lock.Table

/-!
What the deadlock check sees: a set of transactions each waiting for an item another member
holds is a set the cycle search cannot miss. The graph has no edge between two waiters, so a
transaction blocked only by an earlier waiter of its queue can stay stuck undetected.
-/
namespace TwoPhaseLocking
namespace WaitGraph

variable {g g₁ g₂ g₃ : WaitGraph}

/-- `g'` is well formed and has every edge of `g`. -/
structure Extends (g g' : WaitGraph) : Prop where
  wellFormed : g'.WellFormed
  succ_sub : ∀ u, ∀ w ∈ g.succ u, w ∈ g'.succ u

theorem Extends.refl (h : g.WellFormed) : Extends g g := ⟨h, fun _ _ hw => hw⟩

theorem Extends.trans (h₁ : Extends g₁ g₂) (h₂ : Extends g₂ g₃) : Extends g₁ g₃ :=
  ⟨h₂.wellFormed, fun u w hw => h₂.succ_sub u w (h₁.succ_sub u w hw)⟩

theorem wellFormed_empty : ({} : WaitGraph).WellFormed :=
  ⟨List.Pairwise.nil, fun _ he => by cases he⟩

theorem extends_addVertex (h : g.WellFormed) (v : TxId) : Extends g (g.addVertex v) :=
  ⟨h.addVertex v, fun u w hw => by rw [succ_addVertex h]; exact hw⟩

theorem extends_addEdge (h : g.WellFormed) (a b : TxId) : Extends g (g.addEdge a b) := by
  refine ⟨h.addEdge a b, fun u w hw => ?_⟩
  rw [succ_addEdge h]
  split
  · rename_i hu
    obtain ⟨-, rfl⟩ := hu
    exact (IdSet.mem_insert _ _ _).mpr (.inr hw)
  · exact hw

theorem mem_succ_addEdge (h : g.WellFormed) {a b : TxId} (hab : a ≠ b) :
    b ∈ (g.addEdge a b).succ a := by
  rw [succ_addEdge h]
  simp [hab]

theorem mem_succ_addEdge_cases (h : g.WellFormed) {a b u w : TxId}
    (hw : w ∈ (g.addEdge a b).succ u) : w ∈ g.succ u ∨ (u = a ∧ w = b ∧ u ≠ w) := by
  rw [succ_addEdge h] at hw
  split at hw
  · rename_i hu
    obtain ⟨hab, rfl⟩ := hu
    rcases (IdSet.mem_insert _ _ _).mp hw with rfl | hw
    · exact .inr ⟨rfl, rfl, hab⟩
    · exact .inl hw
  · exact .inl hw

section Fold

variable {α : Type} {F : WaitGraph → α → WaitGraph}

theorem extends_foldl (hF : ∀ g x, g.WellFormed → Extends g (F g x)) :
    ∀ (l : List α) {g : WaitGraph}, g.WellFormed → Extends g (l.foldl F g)
  | [], _, h => .refl h
  | x :: l, g, h => (hF g x h).trans (extends_foldl hF l (hF g x h).wellFormed)

/-- An edge that the step for `x` always adds is in the result of a fold over a list
holding `x`. -/
theorem mem_succ_foldl (hF : ∀ g x, g.WellFormed → Extends g (F g x)) {u w : TxId} {x : α}
    (hx : ∀ g, g.WellFormed → w ∈ (F g x).succ u) :
    ∀ {l : List α}, x ∈ l → ∀ {g : WaitGraph}, g.WellFormed → w ∈ (l.foldl F g).succ u
  | y :: l, hmem, g, h => by
    rw [List.foldl_cons]
    rcases List.mem_cons.mp hmem with rfl | hmem
    · exact (extends_foldl hF l (hF g _ h).wellFormed).succ_sub u w (hx g h)
    · exact mem_succ_foldl hF hx hmem (hF g y h).wellFormed

theorem mem_succ_foldl_cases {P : α → TxId → TxId → Prop}
    (hF : ∀ g x, g.WellFormed → Extends g (F g x))
    (hnew : ∀ g x u w, g.WellFormed → w ∈ (F g x).succ u → w ∈ g.succ u ∨ P x u w) :
    ∀ (l : List α) {g : WaitGraph}, g.WellFormed → ∀ u w, w ∈ (l.foldl F g).succ u →
      w ∈ g.succ u ∨ ∃ x ∈ l, P x u w
  | [], _, _, _, _, hw => .inl hw
  | x :: l, g, h, u, w, hw => by
    rw [List.foldl_cons] at hw
    rcases mem_succ_foldl_cases hF hnew l (hF g x h).wellFormed u w hw with hw | ⟨y, hy, hp⟩
    · rcases hnew g x u w h hw with hw | hp
      · exact .inl hw
      · exact .inr ⟨x, List.mem_cons_self, hp⟩
    · exact .inr ⟨y, List.mem_cons_of_mem _ hy, hp⟩

theorem succ_foldl_addVertex (f : α → TxId) (l : List α) (hg : g.WellFormed) {u w : TxId}
    (hw : w ∈ (l.foldl (fun g x => g.addVertex (f x)) g).succ u) : w ∈ g.succ u := by
  rcases mem_succ_foldl_cases (P := fun _ _ _ => False) (fun _ _ hg => extends_addVertex hg _)
    (fun _ _ _ _ hg hw => .inl (by rwa [succ_addVertex hg] at hw)) l hg u w hw with hw | ⟨-, -, hf⟩
  · exact hw
  · exact hf.elim

end Fold

/-! ### The graph of a lock table -/

section OfTable

variable (t : LockTable)

theorem extends_ofTable_waiters (item : String) (h : Lock) (hg : g.WellFormed) :
    Extends g ((t.queue item).foldl (fun g w => g.addEdge h.owner w.tx) g) :=
  extends_foldl (fun _ _ hg => extends_addEdge hg _ _) _ hg

theorem extends_ofTable_holders (e : String × List Lock) (hg : g.WellFormed) :
    Extends g (e.2.foldl (fun g h => (t.queue e.1).foldl (fun g w => g.addEdge h.owner w.tx) g) g) :=
  extends_foldl (fun _ h hg => extends_ofTable_waiters t e.1 h hg) _ hg

theorem wellFormed_ofTable_vertices :
    (t.queues.values.flatten.foldl (fun (g : WaitGraph) (o : Operation) => g.addVertex o.tx)
      (t.held.values.flatten.foldl (fun (g : WaitGraph) (l : Lock) => g.addVertex l.owner)
        {})).WellFormed :=
  (extends_foldl (fun _ _ hg => extends_addVertex hg _) _
    (extends_foldl (fun _ _ hg => extends_addVertex hg _) _ wellFormed_empty).wellFormed).wellFormed

theorem wellFormed_ofTable : (ofTable t).WellFormed :=
  (extends_foldl (fun _ e hg => extends_ofTable_holders t e hg) _
    (wellFormed_ofTable_vertices t)).wellFormed

/-- Every holder of an item points to every other transaction waiting for it. -/
theorem mem_succ_ofTable {t : LockTable} {i : String} {l : Lock} {o : Operation}
    (hl : l ∈ t.holders i) (ho : o ∈ t.queue i) (hne : l.owner ≠ o.tx) :
    o.tx ∈ (ofTable t).succ l.owner := by
  obtain ⟨hs, he, hlhs⟩ := ItemMap.exists_entry_of_mem_getD hl
  have hwaiter : ∀ g : WaitGraph, g.WellFormed →
      o.tx ∈ ((t.queue i).foldl (fun g w => g.addEdge l.owner w.tx) g).succ l.owner :=
    fun _ hg => mem_succ_foldl (F := fun g (w : Operation) => g.addEdge l.owner w.tx)
      (fun _ _ hg => extends_addEdge hg _ _) (fun _ hg => mem_succ_addEdge hg hne) ho hg
  have hholder : ∀ g : WaitGraph, g.WellFormed →
      o.tx ∈ (hs.foldl (fun g h => (t.queue i).foldl (fun g w => g.addEdge h.owner w.tx) g)
        g).succ l.owner :=
    fun _ hg => mem_succ_foldl (x := l)
      (F := fun g (h : Lock) => (t.queue i).foldl (fun g (w : Operation) => g.addEdge h.owner w.tx) g)
      (fun _ h hg => extends_ofTable_waiters t i h hg) hwaiter hlhs hg
  exact mem_succ_foldl (x := (i, hs))
    (F := fun g (e : String × List Lock) =>
      e.2.foldl (fun g (h : Lock) => (t.queue e.1).foldl (fun g (w : Operation) => g.addEdge h.owner w.tx) g) g)
    (fun _ e hg => extends_ofTable_holders t e hg) hholder he (wellFormed_ofTable_vertices t)

/-- Every edge of the graph of a table goes from a holder of an item to another transaction
waiting for it. -/
theorem edge_ofTable {t : LockTable} {u w : TxId} (hw : w ∈ (ofTable t).succ u) :
    u ≠ w ∧ ∃ e ∈ t.held.entries, (∃ h ∈ e.2, h.owner = u) ∧ ∃ o ∈ t.queue e.1, o.tx = w := by
  -- the edges come from the innermost fold, one waiter at a time
  have hwaiters : ∀ (i : String) (h : Lock) (g : WaitGraph) (u w : TxId), g.WellFormed →
      w ∈ ((t.queue i).foldl (fun g w => g.addEdge h.owner w.tx) g).succ u →
      w ∈ g.succ u ∨ (u ≠ w ∧ u = h.owner ∧ ∃ o ∈ t.queue i, o.tx = w) := by
    intro i h g u w hg hw
    rcases mem_succ_foldl_cases (P := fun (o : Operation) u w => u = h.owner ∧ w = o.tx ∧ u ≠ w)
      (fun _ _ hg => extends_addEdge hg _ _) (fun _ _ _ _ hg hw => mem_succ_addEdge_cases hg hw)
      _ hg u w hw with hw | ⟨o, ho, rfl, rfl, hne⟩
    · exact .inl hw
    · exact .inr ⟨hne, rfl, o, ho, rfl⟩
  have hholders : ∀ (e : String × List Lock) (g : WaitGraph) (u w : TxId), g.WellFormed →
      w ∈ (e.2.foldl (fun g h => (t.queue e.1).foldl (fun g w => g.addEdge h.owner w.tx) g)
        g).succ u →
      w ∈ g.succ u ∨ (u ≠ w ∧ (∃ h ∈ e.2, h.owner = u) ∧ ∃ o ∈ t.queue e.1, o.tx = w) := by
    intro e g u w hg hw
    rcases mem_succ_foldl_cases
      (P := fun (h : Lock) u w => u ≠ w ∧ u = h.owner ∧ ∃ o ∈ t.queue e.1, o.tx = w)
      (fun _ h hg => extends_ofTable_waiters t e.1 h hg)
      (fun g h u w hg hw => hwaiters e.1 h g u w hg hw) _ hg u w hw with hw | ⟨h, hh, hne, rfl, ho⟩
    · exact .inl hw
    · exact .inr ⟨hne, ⟨h, hh, rfl⟩, ho⟩
  unfold ofTable at hw
  rcases mem_succ_foldl_cases
    (P := fun (e : String × List Lock) u w =>
      u ≠ w ∧ (∃ h ∈ e.2, h.owner = u) ∧ ∃ o ∈ t.queue e.1, o.tx = w)
    (fun _ e hg => extends_ofTable_holders t e hg) (fun g e u w hg hw => hholders e g u w hg hw)
    _ (wellFormed_ofTable_vertices t) u w hw with hw | ⟨e, he, hne, hp⟩
  · -- the vertices alone carry no edge
    have hg₁ : (t.held.values.flatten.foldl (fun (g : WaitGraph) (l : Lock) => g.addVertex l.owner)
        {}).WellFormed :=
      (extends_foldl (fun _ _ hg => extends_addVertex hg _) _ wellFormed_empty).wellFormed
    have hw₀ := succ_foldl_addVertex (fun l : Lock => l.owner) _ wellFormed_empty
      (succ_foldl_addVertex (fun o : Operation => o.tx) _ hg₁ hw)
    simp [succ] at hw₀
  · exact ⟨hne, e, he, hp⟩

/-- The victim a check picks waits for an item. -/
theorem victim_waits {t : LockTable} {u v : TxId} (h : (ofTable t).findCycle? = some (u, v)) :
    ∃ i, ∃ o ∈ t.queue i, o.tx = v := by
  obtain ⟨-, e, -, -, o, ho, hov⟩ := edge_ofTable (mem_succ_of_findCycle? h)
  exact ⟨e.1, o, ho, hov⟩

end OfTable

end WaitGraph

namespace LockTable

/-- A check either finds no cycle and changes nothing, or aborts the waiter that closes the first
back edge it finds: a transaction that waits for an item. -/
theorem resolveDeadlock_cases (t : LockTable) :
    t.resolveDeadlock = (none, t) ∨
      ∃ v, (∃ i, ∃ o ∈ t.queue i, o.tx = v) ∧
        t.resolveDeadlock = (some ⟨v, siteOf v, (t.abort v).2⟩, (t.abort v).1) := by
  unfold resolveDeadlock
  split
  · exact .inl rfl
  · rename_i u v h
    exact .inr ⟨v, WaitGraph.victim_waits h, rfl⟩

/-- If each member of a non-empty set of transactions waits for an item on which another member
holds a lock, the cycle search finds a back edge and the check aborts a victim. -/
theorem resolveDeadlock_isSome_of_waits_on_holders (t : LockTable) {D : List TxId} (hD : D ≠ [])
    (hwait : ∀ w ∈ D, ∃ i, ∃ o ∈ t.queue i, o.tx = w ∧
      ∃ l ∈ t.holders i, l.owner ∈ D ∧ l.owner ≠ w) :
    (WaitGraph.ofTable t).findCycle?.isSome ∧ t.resolveDeadlock.1.isSome := by
  have hsup : ∀ w ∈ D, ∃ u ∈ D, w ∈ (WaitGraph.ofTable t).succ u := by
    intro w hw
    obtain ⟨i, o, ho, rfl, l, hl, hlD, hne⟩ := hwait w hw
    exact ⟨l.owner, hlD, WaitGraph.mem_succ_ofTable hl ho hne⟩
  have hc := WaitGraph.findCycle?_isSome_of_supported (WaitGraph.wellFormed_ofTable t) hD hsup
  refine ⟨hc, ?_⟩
  obtain ⟨⟨u, v⟩, he⟩ := Option.isSome_iff_exists.mp hc
  unfold resolveDeadlock
  rw [he]
  rfl

/-- Two transactions each holding a write lock on the item the other waits for. -/
theorem crossed_writes_resolved :
    (resolveDeadlock
      ⟨⟨[("x", [⟨.write, "x", 10001⟩]), ("y", [⟨.write, "y", 20001⟩])]⟩,
        ⟨[("x", [⟨20001, "x", .write⟩]), ("y", [⟨10001, "y", .write⟩])]⟩⟩).1.isSome :=
  (resolveDeadlock_isSome_of_waits_on_holders _ (D := [10001, 20001]) (by simp) (by
    intro w hw
    simp only [List.mem_cons, List.not_mem_nil, or_false] at hw
    rcases hw with rfl | rfl
    · exact ⟨"y", ⟨10001, "y", .write⟩, by decide, rfl, ⟨.write, "y", 20001⟩, by decide,
        by decide, by decide⟩
    · exact ⟨"x", ⟨20001, "x", .write⟩, by decide, rfl, ⟨.write, "x", 10001⟩, by decide,
        by decide, by decide⟩)).2

/-- Transactions 10001 and 30001 read `x`, 20001 asks to write it and waits, 10001 asks to
upgrade and waits behind 20001, and 30001 releases. Only 10001 holds `x`, its upgrade waits
behind 20001, which waits for 10001: neither can ever be granted, each transaction has one
waiting operation, and every lock on `x` and every operation ahead of either waiter belongs to
the two. The graph has the single edge from 10001 to 20001, and the check finds nothing. -/
theorem upgrade_behind_waiting_writer_undetected :
    ∃ (t₁ t₂ t₃ t₄ t : LockTable) (D : List TxId),
      LockTable.empty.request ⟨10001, "x", .read⟩ = .ok (true, t₁) ∧
      t₁.request ⟨30001, "x", .read⟩ = .ok (true, t₂) ∧
      t₂.request ⟨20001, "x", .write⟩ = .ok (false, t₃) ∧
      t₃.request ⟨10001, "x", .write⟩ = .ok (false, t₄) ∧
      t₄.release 30001 = (t, []) ∧
      D ≠ [] ∧ (t.queues.values.flatten.map (·.tx)).Nodup ∧
      (∀ w ∈ D, ∃ i, ∃ o ∈ t.queue i, o.tx = w) ∧
      (∀ w ∈ D, ∀ i pre o post, t.queue i = pre ++ o :: post → o.tx = w →
        (∀ l ∈ t.holders i, l.owner ∈ D) ∧ ∀ o' ∈ pre, o'.tx ∈ D) ∧
      t.resolveDeadlock.1 = none := by
  refine ⟨_, _, _, _, ⟨⟨[("x", [⟨.read, "x", 10001⟩])]⟩,
    ⟨[("x", [⟨20001, "x", .write⟩, ⟨10001, "x", .write⟩])]⟩⟩, [10001, 20001],
    rfl, rfl, rfl, rfl, by decide, by simp, by decide, ?_, ?_, ?_⟩
  · intro w hw
    simp only [List.mem_cons, List.not_mem_nil, or_false] at hw
    refine ⟨"x", ?_⟩
    rcases hw with rfl | rfl <;> decide
  · -- every lock and every waiting operation of the table belongs to the two
    have hall : (∀ l ∈ [⟨.read, "x", 10001⟩], Lock.owner l ∈ [10001, 20001]) ∧
        ∀ o ∈ [⟨20001, "x", .write⟩, ⟨10001, "x", .write⟩], Operation.tx o ∈ [10001, 20001] := by
      decide
    intro w _ i pre o post hq _
    constructor
    · intro l hl
      obtain ⟨hs, he, hl⟩ := ItemMap.exists_entry_of_mem_getD hl
      simp only [List.mem_cons, List.not_mem_nil, or_false, Prod.mk.injEq] at he
      exact hall.1 l (he.2 ▸ hl)
    · intro o' ho'
      have ho'q : o' ∈ queue _ i := hq ▸ List.mem_append_left _ ho'
      obtain ⟨q, he, ho'⟩ := ItemMap.exists_entry_of_mem_getD ho'q
      simp only [List.mem_cons, List.not_mem_nil, or_false, Prod.mk.injEq] at he
      exact hall.2 o' (he.2 ▸ ho')
  · have hg : WaitGraph.ofTable ⟨⟨[("x", [⟨.read, "x", 10001⟩])]⟩,
        ⟨[("x", [⟨20001, "x", .write⟩, ⟨10001, "x", .write⟩])]⟩⟩ =
        ⟨[(10001, [20001]), (20001, [])]⟩ := by
      decide
    have hc : (WaitGraph.mk [(10001, [20001]), (20001, [])]).findCycle? = none := by
      simp [WaitGraph.findCycle?, WaitGraph.searchFrom, WaitGraph.visit, WaitGraph.visitSucc,
        WaitGraph.vertices, WaitGraph.succ]
    unfold resolveDeadlock
    rw [hg, hc]

end LockTable
end TwoPhaseLocking
