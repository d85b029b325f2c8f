import Mathlib.Data.Finset.Card
import TwoPhaseLocking.Proofs.Deadlock.Cycle
import TwoPhaseLocking.Proofs.Deadlock.Detection
import TwoPhaseLocking.Proofs.Lock.Release

/-!
What a deadlock check does. The wait-for graph has an edge exactly where one transaction blocks
another (`Blocks`), so a check finds nothing exactly when that relation is acyclic, and
otherwise aborts a victim on a cycle (`Reachable.resolveDeadlock_spec`). Each abort lowers the
number of waiting transactions, so repeated checks stop (`Reachable.resolveDeadlock_iterate`).
-/
namespace TwoPhaseLocking
namespace LockTable

open Relation

variable {t : LockTable} {u w : TxId}

/-- `h` blocks `w`: the two differ, and on some item `h` holds a lock while `w` waits. -/
def Blocks (t : LockTable) (h w : TxId) : Prop :=
  h ≠ w ∧ ∃ i, (∃ l ∈ t.holders i, l.owner = h) ∧ ∃ o ∈ t.queue i, o.tx = w

/-- The wait-for graph of a table has an edge exactly where one transaction blocks another. -/
theorem edge_ofTable_iff (ht : t.held.Sorted) : (WaitGraph.ofTable t).Edge u w ↔ t.Blocks u w := by
  constructor
  · intro hw
    obtain ⟨hne, e, he, ⟨l, hl, hown⟩, ho⟩ := WaitGraph.edge_ofTable hw
    have hl' : l ∈ t.holders e.1 := by
      unfold holders
      rw [ht.mem_entries_iff.mp he]
      exact hl
    exact ⟨hne, e.1, ⟨l, hl', hown⟩, ho⟩
  · rintro ⟨hne, i, ⟨l, hl, rfl⟩, o, ho, rfl⟩
    exact WaitGraph.mem_succ_ofTable hl ho hne

theorem transGen_edge_ofTable_iff (ht : t.held.Sorted) {v x : TxId} :
    TransGen (WaitGraph.ofTable t).Edge v x ↔ TransGen t.Blocks v x := by
  have hrel : (WaitGraph.ofTable t).Edge = t.Blocks := by
    funext u w
    exact propext (edge_ofTable_iff ht)
  rw [hrel]

theorem holds_and_waits_of_cycle {v : TxId} (hv : TransGen t.Blocks v v) :
    (∃ i, ∃ l ∈ t.holders i, l.owner = v) ∧ ∃ i, ∃ o ∈ t.queue i, o.tx = v := by
  -- the first edge of the cycle leaves `v` as a holder, the last one enters it as a waiter
  obtain ⟨x, ⟨-, i, hh, -⟩, -⟩ := TransGen.head'_iff.mp hv
  obtain ⟨y, -, -, j, -, hw⟩ := TransGen.tail'_iff.mp hv
  exact ⟨⟨i, hh⟩, ⟨j, hw⟩⟩

/-- A check that finds a deadlock aborts the waiter that closes the back edge of the search. -/
theorem resolveDeadlock_eq_some {r : Resolution} {t' : LockTable}
    (hr : t.resolveDeadlock = (some r, t')) :
    ∃ u, (WaitGraph.ofTable t).findCycle? = some (u, r.victim) ∧ r.victimSite = siteOf r.victim ∧
      (t', r.unblocked) = t.abort r.victim := by
  unfold resolveDeadlock at hr
  split at hr
  · cases hr
  · rename_i u v hs
    rcases hab : t.abort v with ⟨ta, sites⟩
    rw [hab] at hr
    obtain ⟨hvr, rfl⟩ := Prod.mk.inj hr
    obtain rfl := Option.some.inj hvr
    exact ⟨u, hs, rfl, hab.symm⟩

/-- A deadlock check finds nothing and changes nothing exactly when no transaction lies on a
cycle of the relation "holds a lock on an item the other waits for". When it finds a deadlock,
its victim lies on such a cycle (so it holds a lock and waits for an item), the check reports
the victim's site, the new table and the sites reported are those of the abort of the victim,
and afterwards the victim holds no lock and waits for nothing. -/
theorem Reachable.resolveDeadlock_spec (h : t.Reachable) :
    (t.resolveDeadlock = (none, t) ↔ ∀ v, ¬ TransGen t.Blocks v v) ∧
    ∀ r t', t.resolveDeadlock = (some r, t') →
      TransGen t.Blocks r.victim r.victim ∧
      ((∃ i, ∃ l ∈ t.holders i, l.owner = r.victim) ∧ ∃ i, ∃ o ∈ t.queue i, o.tx = r.victim) ∧
      r.victimSite = r.victim / 10000 ∧
      (t', r.unblocked) = t.abort r.victim ∧
      t'.HoldsNone r.victim ∧ t'.WaitsNone r.victim := by
  have hwf := h.wellFormed
  have hacyc := WaitGraph.findCycle?_eq_none_iff (WaitGraph.wellFormed_ofTable t)
  refine ⟨?_, fun r t' hr => ?_⟩
  · unfold resolveDeadlock
    split
    · rename_i hn
      simp only [true_iff]
      intro v hv
      exact (hacyc.mp hn) v ((transGen_edge_ofTable_iff hwf.heldSorted).mpr hv)
    · rename_i u v hs
      -- a back edge was found, so the relation has a cycle
      have hcyc := (transGen_edge_ofTable_iff hwf.heldSorted).mp (WaitGraph.transGen_of_findCycle? hs)
      simp only [Prod.mk.injEq, reduceCtorEq, false_and, false_iff, not_forall, not_not]
      exact ⟨v, hcyc⟩
  · obtain ⟨u, hs, hsite, hab⟩ := resolveDeadlock_eq_some hr
    have hcyc := (transGen_edge_ofTable_iff hwf.heldSorted).mp (WaitGraph.transGen_of_findCycle? hs)
    have hclear := abort_clears hwf r.victim
    rw [← congrArg Prod.fst hab] at hclear
    exact ⟨hcyc, holds_and_waits_of_cycle hcyc, hsite, hab, hclear⟩

/-- Transactions 10001 and 20001 each write an item and then wait to write the other's. -/
theorem crossed_writers_resolved_on_cycle :
    ∃ t : LockTable, t.Reachable ∧ t.queue "x" = [⟨20001, "x", .write⟩] ∧
      ((t.resolveDeadlock = (none, t) ↔ ∀ v, ¬ TransGen t.Blocks v v) ∧
      ∀ r t', t.resolveDeadlock = (some r, t') →
        TransGen t.Blocks r.victim r.victim ∧
        ((∃ i, ∃ l ∈ t.holders i, l.owner = r.victim) ∧ ∃ i, ∃ o ∈ t.queue i, o.tx = r.victim) ∧
        r.victimSite = r.victim / 10000 ∧
        (t', r.unblocked) = t.abort r.victim ∧
        t'.HoldsNone r.victim ∧ t'.WaitsNone r.victim) := by
  have r := Reachable.request (o := ⟨10001, "x", .write⟩) Reachable.empty rfl
  have r := Reachable.request (o := ⟨20001, "y", .write⟩) r rfl
  have r := Reachable.request (o := ⟨10001, "y", .write⟩) r rfl
  have r := Reachable.request (o := ⟨20001, "x", .write⟩) r rfl
  exact ⟨_, r, rfl, Reachable.resolveDeadlock_spec r⟩

/-! ### Repeated checks -/

def waiters (t : LockTable) : Finset TxId := (t.queues.values.flatten.map (·.tx)).toFinset

theorem mem_waiters_iff (hs : t.queues.Sorted) {x : TxId} :
    x ∈ t.waiters ↔ ∃ i, ∃ o ∈ t.queue i, o.tx = x := by
  simp only [waiters, List.mem_toFinset, List.mem_map, hs.mem_values_flatten_iff]
  constructor
  · rintro ⟨o, ⟨i, ho⟩, rfl⟩
    exact ⟨i, o, ho, rfl⟩
  · rintro ⟨i, o, ho, rfl⟩
    exact ⟨o, ⟨i, ho⟩, rfl⟩

theorem waiters_abort_subset (h : t.WellFormed) (v : TxId) :
    (t.abort v).1.waiters ⊆ t.waiters.erase v := by
  intro x hx
  obtain ⟨i, o, ho, rfl⟩ := (mem_waiters_iff (h.abort v).queuesSorted).mp hx
  -- the abort's release only takes operations out of the queues the purge left
  have ho' := (mem_queue_removeBlocked h).mp
    (mem_queue_of_mem_release (h.removeBlocked v).toCoherent ho)
  exact Finset.mem_erase.mpr ⟨ho'.2, (mem_waiters_iff h.queuesSorted).mpr ⟨i, o, ho'.1, rfl⟩⟩

/-- A check that aborts a victim lowers the number of waiting transactions. -/
theorem card_waiters_resolveDeadlock_lt (h : t.WellFormed) {r : Resolution} {t' : LockTable}
    (hr : t.resolveDeadlock = (some r, t')) : t'.waiters.card < t.waiters.card := by
  rcases resolveDeadlock_cases t with hn | ⟨v, ⟨i, o, ho, hov⟩, hs⟩
  · rw [hn] at hr
    cases hr
  · rw [hs] at hr
    obtain ⟨-, rfl⟩ := Prod.mk.inj hr
    have hv : v ∈ t.waiters := (mem_waiters_iff h.queuesSorted).mpr ⟨i, o, ho, hov⟩
    calc (t.abort v).1.waiters.card
        ≤ (t.waiters.erase v).card := Finset.card_le_card (waiters_abort_subset h v)
      _ < t.waiters.card := Finset.card_erase_lt_of_mem hv

/-- Checks run one after another, with no other call between them. Each check that finds a
deadlock lowers the number of waiting transactions; so, counted from a reachable table with `k`
waiting transactions, the checks find deadlocks some `n ≤ k` times in a row and then nothing. -/
theorem Reachable.resolveDeadlock_iterate (h : t.Reachable) :
    (∀ r t', t.resolveDeadlock = (some r, t') → t'.waiters.card < t.waiters.card) ∧
    ∃ n ≤ t.waiters.card,
      (∀ m < n, ((fun u : LockTable => u.resolveDeadlock.2)^[m] t).resolveDeadlock.1.isSome) ∧
      ((fun u : LockTable => u.resolveDeadlock.2)^[n] t).resolveDeadlock.1 = none := by
  refine ⟨fun r t' hr => card_waiters_resolveDeadlock_lt h.wellFormed hr, ?_⟩
  -- induction on the number of waiting transactions, which every abort lowers
  induction hk : t.waiters.card using Nat.strong_induction_on generalizing t with
  | _ k ih =>
    rcases resolveDeadlock_cases t with hn | ⟨v, -, hs⟩
    · exact ⟨0, Nat.zero_le _, fun m hm => absurd hm (Nat.not_lt_zero m), by simp [hn]⟩
    · have hlt := card_waiters_resolveDeadlock_lt h.wellFormed hs
      have hstep : t.resolveDeadlock.2 = (t.abort v).1 := by rw [hs]
      have hreach : (t.abort v).1.Reachable := hstep ▸ h.resolve
      obtain ⟨n, hn, hsome, hnone⟩ := ih _ (hk ▸ hlt) hreach rfl
      refine ⟨n + 1, by omega, fun m hm => ?_, ?_⟩
      · cases m with
        | zero => simp [hs]
        | succ m =>
          rw [Function.iterate_succ_apply, hstep]
          exact hsome m (by omega)
      · rw [Function.iterate_succ_apply, hstep]
        exact hnone

/-- The same crossed writers: one check aborts a victim, and the next finds nothing. -/
theorem crossed_writers_checks_stop :
    ∃ t : LockTable, t.Reachable ∧ t.queue "y" = [⟨10001, "y", .write⟩] ∧
      ((∀ r t', t.resolveDeadlock = (some r, t') → t'.waiters.card < t.waiters.card) ∧
      ∃ n ≤ t.waiters.card,
        (∀ m < n, ((fun u : LockTable => u.resolveDeadlock.2)^[m] t).resolveDeadlock.1.isSome) ∧
        ((fun u : LockTable => u.resolveDeadlock.2)^[n] t).resolveDeadlock.1 = none) := by
  have r := Reachable.request (o := ⟨10001, "x", .write⟩) Reachable.empty rfl
  have r := Reachable.request (o := ⟨20001, "y", .write⟩) r rfl
  have r := Reachable.request (o := ⟨10001, "y", .write⟩) r rfl
  have r := Reachable.request (o := ⟨20001, "x", .write⟩) r rfl
  exact ⟨_, r, rfl, Reachable.resolveDeadlock_iterate r⟩

end LockTable
end TwoPhaseLocking
