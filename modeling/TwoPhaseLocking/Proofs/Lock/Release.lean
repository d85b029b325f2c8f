import TwoPhaseLocking.Proofs.Lock.Queue

/-!
What a release leaves of the transaction it releases: no lock exactly when none of the heads it
grants is the transaction's own (`release_holdsNone_iff`), so always after an abort, which drops
the waiting operations first (`abort_clears`).
-/
namespace TwoPhaseLocking
namespace LockTable

variable {t : LockTable} {tx : TxId} {o : Operation} {i : String}

theorem locksOf_eq_nil_iff (h : t.Coherent) : t.locksOf tx = [] ↔ t.HoldsNone tx := by
  rw [List.eq_nil_iff_forall_not_mem]
  constructor
  · intro hnil j l hl hown
    have hli : l.item = j := (h.locks j).lockItem l hl
    exact hnil l ((mem_locksOf_iff h).mpr ⟨hli ▸ hl, hown⟩)
  · intro hnone l hl
    obtain ⟨hmem, hown⟩ := (mem_locksOf_iff h).mp hl
    exact hnone l.item l hmem hown

theorem mem_queue_of_mem_promotions (h : t.Coherent) (ho : o ∈ t.promotions tx) :
    o ∈ t.queue o.item := by
  obtain ⟨-, hhead, -⟩ := ((h.releaseSpec tx).promotions_iff o).mp ho
  obtain ⟨rest, hq⟩ := List.head?_eq_some_iff.mp hhead
  rw [hq]
  exact List.mem_cons_self

theorem mem_queue_of_mem_release (h : t.Coherent) (ho : o ∈ (t.release tx).1.queue i) :
    o ∈ t.queue i := by
  have hspec := h.releaseSpec tx
  by_cases hi : ∃ o' ∈ t.promotions tx, o'.item = i
  · obtain ⟨o', ho', rfl⟩ := hi
    obtain ⟨rest, -, hq, -, hq', -⟩ := hspec.granted o' ho'
    rw [hq'] at ho
    rw [hq]
    exact List.mem_cons_of_mem _ ho
  · rw [(hspec.untouched i fun o' ho' he => hi ⟨o', ho', he⟩).1] at ho
    exact ho

/-- After a release, the released transaction holds a lock on an item only where the release
granted it one of its own waiting operations. -/
theorem exists_promotion_of_holder (h : t.Coherent) {l : Lock}
    (hl : l ∈ (t.release tx).1.holders i) (hown : l.owner = tx) :
    ∃ o ∈ t.promotions tx, o.tx = tx ∧ o.item = i := by
  have hspec := h.releaseSpec tx
  by_cases hi : ∃ o ∈ t.promotions tx, o.item = i
  · obtain ⟨o, ho, rfl⟩ := hi
    obtain ⟨rest, lk, -, hlk, -, hh⟩ := hspec.granted o ho
    rw [hh] at hl
    -- the lock kept from before belongs to another transaction, so it is the granted one
    rcases mem_addLock hl with ⟨hl, -⟩ | ⟨hlown, -⟩
    · have := (List.mem_filter.mp hl).2
      simp [hown] at this
    · exact ⟨o, ho, (Operation.lock?_owner hlk).symm.trans (hlown.symm.trans hown), rfl⟩
  · rw [(hspec.untouched i fun o ho he => hi ⟨o, ho, he⟩).2] at hl
    have := (List.mem_filter.mp hl).2
    simp [hown] at this

/-- A release grants the released transaction a lock wherever it grants one of its waiting
operations. -/
theorem holder_of_promotion (h : t.Coherent) (ho : o ∈ t.promotions tx) :
    ∃ l ∈ (t.release tx).1.holders o.item, l.owner = o.tx := by
  obtain ⟨rest, lk, -, hlk, -, hh⟩ := (h.releaseSpec tx).granted o ho
  obtain ⟨l, hl, hown, -⟩ := exists_owner_addLock ((t.holders o.item).filter (·.owner != tx)) lk
  exact ⟨l, hh ▸ hl, hown.trans (Operation.lock?_owner hlk)⟩

/-- A release leaves its transaction with no lock exactly when none of the heads it grants is
an operation of that transaction. -/
theorem release_holdsNone_iff (h : t.Coherent) :
    (t.release tx).1.HoldsNone tx ↔ ∀ o ∈ t.promotions tx, o.tx ≠ tx := by
  constructor
  · intro hnone o ho hotx
    obtain ⟨l, hl, hown⟩ := holder_of_promotion h ho
    exact hnone o.item l hl (hown.trans hotx)
  · intro hp j l hl hown
    obtain ⟨o, ho, hotx, -⟩ := exists_promotion_of_holder h hl hown
    exact hp o ho hotx

/-- A transaction that waits for nothing holds nothing once released. -/
theorem release_holdsNone (h : t.Coherent) (hw : t.WaitsNone tx) : (t.release tx).1.HoldsNone tx :=
  (release_holdsNone_iff h).mpr fun o ho => hw o.item o (mem_queue_of_mem_promotions h ho)

theorem WaitsNone.release (h : t.Coherent) (hw : t.WaitsNone tx) (u : TxId) :
    (t.release u).1.WaitsNone tx :=
  fun j o ho => hw j o (mem_queue_of_mem_release h ho)

/-- An abort leaves its transaction with no lock and no waiting operation. -/
theorem abort_clears (h : t.WellFormed) (tx : TxId) :
    (t.abort tx).1.HoldsNone tx ∧ (t.abort tx).1.WaitsNone tx :=
  have hw := waitsNone_removeBlocked h tx
  ⟨release_holdsNone (h.removeBlocked tx).toCoherent hw,
    hw.release (h.removeBlocked tx).toCoherent tx⟩

/-- A writer holds `x`; the same transaction waits to write it and then to read it. The first
release grants the waiting write, and the release of that transaction grants its own read. -/
example : (LockTable.release ⟨⟨[("x", [⟨.write, "x", 10001⟩])]⟩,
    ⟨[("x", [⟨10001, "x", .read⟩])]⟩⟩ 10001).1.locksOf 10001 = [⟨.read, "x", 10001⟩] := by
  decide

end LockTable
end TwoPhaseLocking
