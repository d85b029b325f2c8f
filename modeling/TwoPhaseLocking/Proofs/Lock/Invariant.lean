import TwoPhaseLocking.Deadlock.Resolve
import TwoPhaseLocking.Proofs.Lock.Table

/-!
The representation invariant of the lock table, and every table reachable from the empty one
satisfying it (`LockTable.Reachable.wellFormed`). A release breaks one clause for a moment, that
an item with waiters has a holder, so the others form `Coherent`, which every operation keeps.
-/
namespace TwoPhaseLocking
namespace LockTable

/-- The locks held on item `i`: an exclusive lock shuts out every other transaction, a
transaction has at most one lock, and each lock is on `i`. -/
structure CoherentLocks (i : String) (ls : List Lock) : Prop where
  exclusive : ∀ l ∈ ls, l.mode.isExclusive = true → ∀ l' ∈ ls, l'.owner = l.owner
  oneLock : (ls.map (·.owner)).Nodup
  lockItem : ∀ l ∈ ls, l.item = i

/-- Every clause of the invariant but the one that ties waiters to holders. -/
structure Coherent (t : LockTable) : Prop where
  heldSorted : t.held.Sorted
  queuesSorted : t.queues.Sorted
  locks : ∀ i, CoherentLocks i (t.holders i)
  heldNonempty : ∀ i, t.held.get? i ≠ some []
  queuesNonempty : ∀ i, t.queues.get? i ≠ some []
  queued : ∀ i, ∀ o ∈ t.queue i, o.item = i ∧ (o.kind = .read ∨ o.kind = .write)

/-- The representation invariant of the lock table. -/
structure WellFormed (t : LockTable) : Prop extends Coherent t where
  waitersHeld : ∀ i, t.queue i ≠ [] → t.holders i ≠ []

variable {t : LockTable} {l : Lock} {o : Operation} {i j : String} {tx : TxId}

/-! ### The locks of one item -/

theorem CoherentLocks.filter {ls : List Lock} (h : CoherentLocks i ls) (p : Lock → Bool) :
    CoherentLocks i (ls.filter p) where
  exclusive a ha hex b hb := h.exclusive a ((List.mem_filter.mp ha).1) hex b ((List.mem_filter.mp hb).1)
  oneLock := (List.filter_sublist.map _).nodup h.oneLock
  lockItem a ha := h.lockItem a ((List.mem_filter.mp ha).1)

theorem CoherentLocks.addLock {ls : List Lock} (h : CoherentLocks i ls) (hi : l.item = i)
    (hallow : (l.mode = .read ∧ ∀ x ∈ ls, x.owner = l.owner ∨ x.mode.isExclusive = false) ∨
      (l.mode = .write ∧ ∀ x ∈ ls, x.owner = l.owner)) :
    CoherentLocks i (LockTable.addLock ls l) where
  exclusive a ha hex b hb := by
    -- an exclusive lock after the grant belongs to the requester
    have haown : a.owner = l.owner := by
      rcases mem_addLock ha with ⟨ha, hne⟩ | ⟨hown, -⟩
      · rcases hallow with ⟨-, hr⟩ | ⟨-, hw⟩
        · rcases hr a ha with hown | hfree
          · exact absurd hown hne
          · rw [hfree] at hex; cases hex
        · exact absurd (hw a ha) hne
      · exact hown
    rcases mem_addLock hb with ⟨hb, hbne⟩ | ⟨hbown, -⟩
    · exfalso
      rcases hallow with ⟨hmode, hr⟩ | ⟨-, hw⟩
      · rcases hr b hb with hbown | hbfree
        · exact hbne hbown
        -- a read request: the exclusive lock was there before, so `b` cannot share the item
        rcases mem_addLock ha with ⟨-, hne⟩ | ⟨-, rfl | ⟨a₀, ha₀, ha₀own, rfl⟩⟩
        · exact hne haown
        · rw [hmode] at hex; cases hex
        · rw [Lock.upgrade, hmode] at hex
          simp only [LockMode.isExclusive_upgraded_read] at hex
          exact hbne ((h.exclusive a₀ ha₀ hex b hb).trans ha₀own)
      · exact hbne (hw b hb)
    · exact hbown.trans haown.symm
  oneLock := by
    rw [owners_addLock]
    split
    · exact h.oneLock
    · rename_i hany
      refine List.nodup_append.mpr ⟨h.oneLock, by simp, ?_⟩
      intro a ha b hb
      obtain rfl := List.mem_singleton.mp hb
      obtain ⟨x, hx, rfl⟩ := List.mem_map.mp ha
      intro he
      exact hany (List.any_eq_true.mpr ⟨x, hx, by simp [he]⟩)
  lockItem a ha := by
    rcases mem_addLock ha with ⟨ha, -⟩ | ⟨-, rfl | ⟨a₀, ha₀, -, rfl⟩⟩
    · exact h.lockItem a ha
    · exact hi
    · exact h.lockItem a₀ ha₀

theorem allows_cases (h : t.allows l = true) :
    (l.mode = .read ∧ ∀ x ∈ t.holders l.item, x.owner = l.owner ∨ x.mode.isExclusive = false) ∨
      (l.mode = .write ∧ ∀ x ∈ t.holders l.item, x.owner = l.owner) := by
  cases hm : l.mode with
  | read => exact .inl ⟨rfl, (allows_read hm).mp h⟩
  | write => exact .inr ⟨rfl, (allows_write hm).mp h⟩
  | readWrite => simp [allows, check, hm] at h

/-! ### Each operation keeps the table coherent -/

theorem Coherent.grant (h : t.Coherent) (ha : t.allows l = true) : (t.grant l).Coherent where
  heldSorted := h.heldSorted.insert _ _
  queuesSorted := h.queuesSorted
  locks j := by
    rw [holders_grant]
    split
    · rename_i hj
      subst hj
      exact (h.locks l.item).addLock rfl (allows_cases ha)
    · exact h.locks j
  heldNonempty j := by
    simp only [LockTable.grant, ItemMap.get?_insert]
    split
    · simpa using addLock_ne_nil _ _
    · exact h.heldNonempty j
  queuesNonempty := h.queuesNonempty
  queued := h.queued

theorem Coherent.enqueue (h : t.Coherent) (hl : o.lock? = some l) : (t.enqueue o).Coherent where
  heldSorted := h.heldSorted
  queuesSorted := h.queuesSorted.insert _ _
  locks := h.locks
  heldNonempty := h.heldNonempty
  queuesNonempty j := by
    simp only [LockTable.enqueue, ItemMap.get?_insert]
    split
    · simp
    · exact h.queuesNonempty j
  queued j x hx := by
    rw [queue_enqueue] at hx
    split at hx
    · rename_i hj
      rcases List.mem_append.mp hx with hx | hx
      · exact h.queued j x hx
      · obtain rfl := List.mem_singleton.mp hx
        refine ⟨hj, ?_⟩
        rcases Operation.lock?_mode hl with ⟨-, hk⟩ | ⟨-, hk⟩
        · exact .inl hk
        · exact .inr hk
    · exact h.queued j x hx

theorem Coherent.dropHolder (h : t.Coherent) (i : String) (tx : TxId) :
    (t.dropHolder i tx).Coherent where
  heldSorted := h.heldSorted.set _ _
  queuesSorted := h.queuesSorted
  locks j := by
    rw [holders_dropHolder]
    split
    · exact (h.locks j).filter _
    · exact h.locks j
  heldNonempty j := by
    simp only [LockTable.dropHolder, ItemMap.get?_set]
    split
    · generalize List.filter _ _ = r
      cases r <;> simp
    · exact h.heldNonempty j
  queuesNonempty := h.queuesNonempty
  queued := h.queued

theorem Coherent.pop (h : t.Coherent) {rest : List Operation} (hq : t.queue i = o :: rest) :
    ({ t with queues := t.queues.set i (if rest.isEmpty then none else some rest) } :
      LockTable).Coherent where
  heldSorted := h.heldSorted
  queuesSorted := h.queuesSorted.set _ _
  locks := h.locks
  heldNonempty := h.heldNonempty
  queuesNonempty j := by
    simp only [ItemMap.get?_set]
    split
    · cases rest <;> simp
    · exact h.queuesNonempty j
  queued j x hx := by
    rw [queue_setQueue] at hx
    split at hx
    · rename_i hj
      subst hj
      cases rest with
      | nil => simp at hx
      | cons y ys => exact h.queued i x (by rw [hq]; exact List.mem_cons_of_mem _ hx)
    · exact h.queued j x hx

theorem Coherent.promoteHead (h : t.Coherent) (i : String) : (t.promoteHead i).1.Coherent := by
  rcases promoteHead_cases t i with ⟨hp, -⟩ | ⟨o, rest, l, hq, -, ha, hp⟩
  · rw [hp]; exact h
  · rw [hp]
    exact (h.pop hq).grant ha

theorem promoteHead_holders_ne (h : t.Coherent) (hj : j ≠ i) :
    (t.promoteHead i).1.holders j = t.holders j := by
  rcases promoteHead_cases t i with ⟨hp, -⟩ | ⟨o, rest, l, hq, hl, -, hp⟩
  · rw [hp]
  · rw [hp, holders_grant, holders_setQueue]
    have hli : l.item = i := by
      rw [Operation.lock?_item hl]
      exact (h.queued i o (by rw [hq]; exact List.mem_cons_self)).1
    simp [hli, Ne.symm hj]

theorem promoteHead_queue_ne (hj : j ≠ i) : (t.promoteHead i).1.queue j = t.queue j := by
  rcases promoteHead_cases t i with ⟨hp, -⟩ | ⟨o, rest, l, -, -, -, hp⟩
  · rw [hp]
  · rw [hp, queue_promoted]
    simp [Ne.symm hj]

theorem waitersHeld_promoteHead (h : t.Coherent) (i : String)
    (hq : (t.promoteHead i).1.queue i ≠ []) : (t.promoteHead i).1.holders i ≠ [] := by
  rcases promoteHead_cases t i with ⟨hp, hno⟩ | ⟨o, rest, l, hq', hl, -, hp⟩
  · rw [hp] at hq ⊢
    obtain ⟨o, rest, hqo⟩ := List.exists_cons_of_ne_nil hq
    have ho := h.queued i o (by rw [hqo]; exact List.mem_cons_self)
    obtain ⟨l, hl⟩ := Operation.lock?_of_kind ho.2
    have hli : l.item = i := (Operation.lock?_item hl).trans ho.1
    intro hnil
    -- a read or write on an item nobody holds would have been granted
    have hmode : l.mode ≠ .readWrite := by
      rcases Operation.lock?_mode hl with ⟨hm, -⟩ | ⟨hm, -⟩ <;> rw [hm] <;> simp
    have := allows_of_holders_nil (t := t) hmode (by rw [hli]; exact hnil)
    rw [hno o rest l hqo hl] at this
    cases this
  · rw [hp, holders_grant]
    have hli : l.item = i := by
      rw [Operation.lock?_item hl]
      exact (h.queued i o (by rw [hq']; exact List.mem_cons_self)).1
    simpa [hli] using addLock_ne_nil _ _

/-! ### Each operation keeps the invariant -/

theorem wellFormed_empty : (empty : LockTable).WellFormed where
  heldSorted := ItemMap.sorted_empty
  queuesSorted := ItemMap.sorted_empty
  locks _ := ⟨by simp [holders, empty], by simp [holders, empty], by simp [holders, empty]⟩
  heldNonempty _ := by simp [empty]
  queuesNonempty _ := by simp [empty]
  queued _ := by simp [queue, empty]
  waitersHeld _ := by simp [queue, empty]

theorem WellFormed.request (h : t.WellFormed) {g : Bool} {t' : LockTable}
    (hr : t.request o = .ok (g, t')) : t'.WellFormed := by
  unfold LockTable.request at hr
  split at hr
  · cases hr
  · rename_i l hl
    split at hr
    · rename_i ha
      obtain ⟨-, rfl⟩ := Prod.mk.inj (Except.ok.inj hr)
      refine ⟨h.toCoherent.grant ha, fun j hj => ?_⟩
      rw [queue_grant] at hj
      rw [holders_grant]
      split
      · exact addLock_ne_nil _ _
      · exact h.waitersHeld j hj
    · rename_i ha
      obtain ⟨-, rfl⟩ := Prod.mk.inj (Except.ok.inj hr)
      refine ⟨h.toCoherent.enqueue hl, fun j hj => ?_⟩
      rw [holders_enqueue]
      rw [queue_enqueue] at hj
      split at hj
      · rename_i hoj
        -- the request was refused, so the item has a holder
        intro hnil
        have hmode : l.mode ≠ .readWrite := by
          rcases Operation.lock?_mode hl with ⟨hm, -⟩ | ⟨hm, -⟩ <;> rw [hm] <;> simp
        have hli : l.item = j := (Operation.lock?_item hl).trans hoj
        exact ha (allows_of_holders_nil hmode (by rw [hli]; exact hnil))
      · exact h.waitersHeld j hj

/-- One step of a release: drop the transaction's locks on an item, then try that item's
queue head. -/
theorem WellFormed.dropPromote (h : t.WellFormed) (i : String) (tx : TxId) :
    ((t.dropHolder i tx).promoteHead i).1.WellFormed := by
  have hd := h.toCoherent.dropHolder i tx
  refine ⟨hd.promoteHead i, fun j hj => ?_⟩
  by_cases hji : j = i
  · subst hji
    exact waitersHeld_promoteHead hd j hj
  · rw [promoteHead_holders_ne hd hji, holders_dropHolder, if_neg (Ne.symm hji)]
    rw [promoteHead_queue_ne hji, queue_dropHolder] at hj
    exact h.waitersHeld j hj

theorem releaseStep_fst (tx : TxId) (acc : LockTable × List SiteId) (l : Lock) :
    (releaseStep tx acc l).1 = ((acc.1.dropHolder l.item tx).promoteHead l.item).1 := by
  obtain ⟨t, sites⟩ := acc
  simp only [releaseStep]
  split <;> rename_i heq <;> simp [heq]

theorem WellFormed.release (h : t.WellFormed) (tx : TxId) : (t.release tx).1.WellFormed := by
  unfold LockTable.release
  -- the release runs over a list of locks fixed before it starts; each step keeps the invariant
  suffices ∀ (ls : List Lock) (acc : LockTable × List SiteId), acc.1.WellFormed →
      (ls.foldl (releaseStep tx) acc).1.WellFormed from this _ _ h
  intro ls
  induction ls with
  | nil => intro acc hacc; exact hacc
  | cons l ls ih =>
    intro acc hacc
    rw [List.foldl_cons]
    apply ih
    rw [releaseStep_fst]
    exact hacc.dropPromote _ _

theorem WellFormed.removeBlocked (h : t.WellFormed) (tx : TxId) : (t.removeBlocked tx).WellFormed where
  heldSorted := h.heldSorted
  queuesSorted := h.queuesSorted.filterMap _
  locks := h.locks
  heldNonempty := h.heldNonempty
  queuesNonempty j := by
    simp only [LockTable.removeBlocked]
    rw [h.queuesSorted.get?_filterMap]
    cases t.queues.get? j with
    | none => simp
    | some q =>
      simp only [Option.bind_some]
      generalize q.filter (·.tx != tx) = r
      cases r <;> simp
  queued j x hx := by
    rw [queue_removeBlocked h.queuesSorted] at hx
    exact h.queued j x ((List.mem_filter.mp hx).1)
  waitersHeld j hj := by
    rw [queue_removeBlocked h.queuesSorted] at hj
    exact h.waitersHeld j fun hnil => hj (by simp [hnil])

theorem WellFormed.abort (h : t.WellFormed) (tx : TxId) : (t.abort tx).1.WellFormed :=
  (h.removeBlocked tx).release tx

theorem WellFormed.resolveDeadlock (h : t.WellFormed) : t.resolveDeadlock.2.WellFormed := by
  unfold LockTable.resolveDeadlock
  split
  · exact h
  · exact h.abort _

/-! ### Reachable tables -/

/-- The tables the coordinator can reach from the empty one: lock requests (a compute is refused
and changes nothing), releases, purges of a transaction's waiting operations, aborts and deadlock
checks, in any number and order. -/
inductive Reachable : LockTable → Prop
  | empty : Reachable .empty
  | request {t t' : LockTable} {o : Operation} {g : Bool} :
      Reachable t → t.request o = .ok (g, t') → Reachable t'
  | release {t : LockTable} (tx : TxId) : Reachable t → Reachable (t.release tx).1
  | removeBlocked {t : LockTable} (tx : TxId) : Reachable t → Reachable (t.removeBlocked tx)
  | abort {t : LockTable} (tx : TxId) : Reachable t → Reachable (t.abort tx).1
  | resolve {t : LockTable} : Reachable t → Reachable t.resolveDeadlock.2

/-- Every reachable lock table satisfies the representation invariant. -/
theorem Reachable.wellFormed (h : t.Reachable) : t.WellFormed := by
  induction h with
  | empty => exact wellFormed_empty
  | request _ hr ih => exact ih.request hr
  | release tx _ ih => exact ih.release tx
  | removeBlocked tx _ ih => exact ih.removeBlocked tx
  | abort tx _ ih => exact ih.abort tx
  | resolve _ ih => exact ih.resolveDeadlock

/-- A write lock on `x` granted, then a read of `x` by another transaction queued behind it. -/
theorem queued_reader_wellFormed :
    ∃ t : LockTable, t.Reachable ∧ t.queue "x" = [⟨20001, "x", .read⟩] ∧ t.WellFormed := by
  have r := Reachable.request (o := ⟨10001, "x", .write⟩) Reachable.empty rfl
  have r' := Reachable.request (o := ⟨20001, "x", .read⟩) r rfl
  exact ⟨_, r', rfl, Reachable.wellFormed r'⟩

end LockTable
end TwoPhaseLocking
