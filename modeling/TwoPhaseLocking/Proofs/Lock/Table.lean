import TwoPhaseLocking.Lock.Table
import TwoPhaseLocking.Proofs.ItemMap

/-!
The operations of the lock table seen through its two views, the locks held on an item and the
operations waiting for it: one equation per operation and view, the grant rule spelled out for
read and write requests, and what promoting a queue head can do.
-/
namespace TwoPhaseLocking

namespace LockMode

@[simp] theorem isExclusive_upgraded_read (m : LockMode) :
    (m.upgraded .read).isExclusive = m.isExclusive := by
  cases m <;> rfl

end LockMode

namespace Operation

theorem lock?_mode {o : Operation} {l : Lock} (h : o.lock? = some l) :
    l.mode = .read ∧ o.kind = .read ∨ l.mode = .write ∧ o.kind = .write := by
  rcases o with ⟨tx, i, k⟩
  cases k <;> simp only [lock?, Option.some.injEq, reduceCtorEq] at h <;> subst h <;> simp

theorem lock?_of_kind {o : Operation} (h : o.kind = .read ∨ o.kind = .write) :
    ∃ l, o.lock? = some l := by
  rcases o with ⟨tx, i, k⟩
  rcases h with rfl | rfl <;> exact ⟨_, rfl⟩

end Operation

namespace LockTable

variable {t : LockTable} {l : Lock} {o : Operation}

/-! ### The grant rule -/

theorem allows_read (hm : l.mode = .read) :
    t.allows l = true ↔ ∀ h ∈ t.holders l.item, h.owner = l.owner ∨ h.mode.isExclusive = false := by
  simp [allows, check, hm, List.all_eq_true]

theorem allows_write (hm : l.mode = .write) :
    t.allows l = true ↔ ∀ h ∈ t.holders l.item, h.owner = l.owner := by
  simp [allows, check, hm, List.all_eq_true]

theorem allows_of_holders_nil (hm : l.mode ≠ .readWrite) (h : t.holders l.item = []) :
    t.allows l = true := by
  cases hl : l.mode with
  | read => simp [allows_read hl, h]
  | write => simp [allows_write hl, h]
  | readWrite => exact absurd hl hm

/-! ### Adding a lock to the locks of an item -/

theorem mem_addLock {held : List Lock} {h : Lock} (hh : h ∈ addLock held l) :
    (h ∈ held ∧ h.owner ≠ l.owner) ∨
      (h.owner = l.owner ∧ (h = l ∨ ∃ h₀ ∈ held, h₀.owner = l.owner ∧ h = h₀.upgrade l.mode)) := by
  unfold addLock at hh
  split at hh
  · obtain ⟨h₀, h₀mem, rfl⟩ := List.mem_map.mp hh
    by_cases hown : h₀.owner = l.owner
    · simp only [hown, if_true, Lock.upgrade_owner]
      exact .inr ⟨trivial, .inr ⟨h₀, h₀mem, hown, rfl⟩⟩
    · simp only [hown, if_false]
      exact .inl ⟨h₀mem, hown⟩
  · rename_i hnone
    rcases List.mem_append.mp hh with hh | hh
    · have hne : h.owner ≠ l.owner := by
        intro he
        have := List.find?_eq_none.mp hnone h hh
        simp [he] at this
      exact .inl ⟨hh, hne⟩
    · obtain rfl := List.mem_singleton.mp hh
      exact .inr ⟨rfl, .inl rfl⟩

theorem owners_addLock (held : List Lock) (l : Lock) :
    (addLock held l).map (·.owner) =
      if held.any (·.owner = l.owner) then held.map (·.owner) else held.map (·.owner) ++ [l.owner] := by
  unfold addLock
  split
  · rename_i h₀ hfind
    have hany : held.any (·.owner = l.owner) = true :=
      List.any_eq_true.mpr ⟨h₀, List.mem_of_find?_eq_some hfind, by simpa using List.find?_some hfind⟩
    simp only [hany, if_true, List.map_map]
    refine List.map_congr_left fun h _ => ?_
    by_cases hown : h.owner = l.owner <;> simp [hown]
  · rename_i hnone
    have hany : held.any (·.owner = l.owner) = false := by
      rw [List.any_eq_false]
      intro h hh
      simpa using List.find?_eq_none.mp hnone h hh
    simp [hany]

theorem addLock_ne_nil (held : List Lock) (l : Lock) : addLock held l ≠ [] := by
  unfold addLock
  split
  · rename_i h₀ hfind
    simpa using List.ne_nil_of_mem (List.mem_of_find?_eq_some hfind)
  · simp

/-! ### One equation per operation and view -/

@[simp] theorem holders_grant (t : LockTable) (l : Lock) (i : String) :
    (t.grant l).holders i = if l.item = i then addLock (t.holders i) l else t.holders i := by
  unfold grant holders
  by_cases h : l.item = i
  · subst h; simp
  · simp [h]

@[simp] theorem queue_grant (t : LockTable) (l : Lock) (i : String) :
    (t.grant l).queue i = t.queue i := rfl

@[simp] theorem holders_enqueue (t : LockTable) (o : Operation) (i : String) :
    (t.enqueue o).holders i = t.holders i := rfl

@[simp] theorem queue_enqueue (t : LockTable) (o : Operation) (i : String) :
    (t.enqueue o).queue i = if o.item = i then t.queue i ++ [o] else t.queue i := by
  unfold enqueue queue
  by_cases h : o.item = i
  · subst h; simp
  · simp [h]

@[simp] theorem holders_dropHolder (t : LockTable) (j : String) (tx : TxId) (i : String) :
    (t.dropHolder j tx).holders i =
      if j = i then (t.holders i).filter (·.owner != tx) else t.holders i := by
  unfold dropHolder holders
  by_cases h : j = i
  · subst h
    by_cases he : ((t.held.get? j).getD []).filter (·.owner != tx) = [] <;> simp [he]
  · simp [h]

@[simp] theorem queue_dropHolder (t : LockTable) (j : String) (tx : TxId) (i : String) :
    (t.dropHolder j tx).queue i = t.queue i := rfl

@[simp] theorem holders_removeBlocked (t : LockTable) (tx : TxId) (i : String) :
    (t.removeBlocked tx).holders i = t.holders i := rfl

theorem queue_removeBlocked (hs : t.queues.Sorted) (tx : TxId) (i : String) :
    (t.removeBlocked tx).queue i = (t.queue i).filter (·.tx != tx) := by
  unfold removeBlocked queue
  simp only
  rw [hs.get?_filterMap]
  cases t.queues.get? i with
  | none => rfl
  | some q =>
    simp only [Option.bind_some, Option.getD_some]
    generalize q.filter (·.tx != tx) = r
    cases r <;> rfl

theorem holders_setQueue (t : LockTable) (i : String) (v : Option (List Operation)) (j : String) :
    ({ t with queues := t.queues.set i v } : LockTable).holders j = t.holders j := rfl

theorem queue_setQueue (t : LockTable) (i : String) (v : Option (List Operation)) (j : String) :
    ({ t with queues := t.queues.set i v } : LockTable).queue j =
      if i = j then v.getD [] else t.queue j := by
  unfold queue
  by_cases h : i = j <;> simp [h]

/-- Promoting the head of an item's queue: either nothing happens, and then no head of the
queue is allowed, or the head is allowed, granted and dropped from the queue. -/
theorem promoteHead_cases (t : LockTable) (i : String) :
    (t.promoteHead i = (t, none) ∧
      ∀ o rest l, t.queue i = o :: rest → o.lock? = some l → t.allows l = false) ∨
      ∃ o rest l, t.queue i = o :: rest ∧ o.lock? = some l ∧ t.allows l = true ∧
        t.promoteHead i =
          (({ t with queues := t.queues.set i (if rest.isEmpty then none else some rest) } :
            LockTable).grant l, some (siteOf o.tx)) := by
  unfold promoteHead
  split
  · rename_i hq
    exact .inl ⟨rfl, fun o rest l h => by rw [hq] at h; cases h⟩
  · rename_i o rest hq
    split
    · rename_i hl
      refine .inl ⟨rfl, fun o' rest' l' h hl' => ?_⟩
      rw [hq] at h
      obtain ⟨rfl, rfl⟩ := List.cons.inj h
      rw [hl] at hl'
      cases hl'
    · rename_i l hl
      split
      · rename_i ha
        exact .inr ⟨o, rest, l, hq, hl, ha, rfl⟩
      · rename_i ha
        refine .inl ⟨rfl, fun o' rest' l' h hl' => ?_⟩
        rw [hq] at h
        obtain ⟨rfl, rfl⟩ := List.cons.inj h
        rw [hl] at hl'
        cases hl'
        simpa using ha

theorem queue_promoted {rest : List Operation} (i j : String) :
    (({ t with queues := t.queues.set i (if rest.isEmpty then none else some rest) } :
      LockTable).grant l).queue j = if i = j then rest else t.queue j := by
  rw [queue_grant, queue_setQueue]
  by_cases h : i = j
  · cases rest <;> simp [h]
  · simp [h]

/-! ### The locks of a transaction -/

theorem mem_locksOf {l : Lock} {tx : TxId} :
    l ∈ t.locksOf tx ↔ (∃ e ∈ t.held.entries, l ∈ e.2) ∧ l.owner = tx := by
  simp only [locksOf, List.mem_filter, ItemMap.mem_values_flatten, decide_eq_true_eq]

theorem mem_queuedOf {tx : TxId} :
    o ∈ t.queuedOf tx ↔ (∃ e ∈ t.queues.entries, o ∈ e.2) ∧ o.tx = tx := by
  simp only [queuedOf, List.mem_filter, ItemMap.mem_values_flatten, decide_eq_true_eq]

end LockTable
end TwoPhaseLocking
