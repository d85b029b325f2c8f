import TwoPhaseLocking.Proofs.Lock.Table

/-!
What one lock request does. The answer depends on the locks held on the item and on nothing that
waits for it (`LockTable.request_decided_by_holders`); a grant changes only the requester's lock,
and a refusal only the tail of the item's queue.
-/
namespace TwoPhaseLocking
namespace LockTable

variable {t : LockTable} {l : Lock} {o : Operation}

/-! ### The locks of one item after a grant -/

theorem find?_addLock_self (held : List Lock) (l : Lock) :
    (addLock held l).find? (·.owner = l.owner) =
      some (((held.find? (·.owner = l.owner)).map (·.upgrade l.mode)).getD l) := by
  unfold addLock
  split
  · rename_i h₀ hfind
    rw [List.find?_map]
    -- the upgrade keeps owners, so the search finds the same lock, now upgraded
    have hp : ((fun h : Lock => decide (h.owner = l.owner)) ∘
        fun h => if h.owner = l.owner then h.upgrade l.mode else h) =
        fun h => decide (h.owner = l.owner) := by
      funext h
      by_cases hown : h.owner = l.owner <;> simp [hown]
    have hown : h₀.owner = l.owner := by simpa using List.find?_some hfind
    rw [hp, hfind]
    simp [hown]
  · rename_i hnone
    rw [List.find?_append, hnone]
    simp

theorem find?_addLock_other (held : List Lock) (l : Lock) {u : TxId} (hu : u ≠ l.owner) :
    (addLock held l).find? (·.owner = u) = held.find? (·.owner = u) := by
  unfold addLock
  split
  · rw [List.find?_map]
    have hp : ((fun h : Lock => decide (h.owner = u)) ∘
        fun h => if h.owner = l.owner then h.upgrade l.mode else h) =
        fun h => decide (h.owner = u) := by
      funext h
      by_cases hown : h.owner = l.owner <;> simp [hown]
    rw [hp]
    -- the lock found belongs to `u`, so the grant left it as it was
    cases hf : held.find? (·.owner = u) with
    | none => rfl
    | some h =>
      have hown : h.owner = u := by simpa using List.find?_some hf
      simp [hown, hu]
  · rw [List.find?_append]
    cases held.find? (·.owner = u) with
    | some _ => rfl
    | none => simp [Ne.symm hu]

theorem lockOf?_grant_self (t : LockTable) (l : Lock) :
    (t.grant l).lockOf? l.owner l.item =
      some (((t.lockOf? l.owner l.item).map (·.upgrade l.mode)).getD l) := by
  simp only [lockOf?, holders_grant]
  exact find?_addLock_self _ _

theorem lockOf?_grant_other (t : LockTable) (l : Lock) {u : TxId} (hu : u ≠ l.owner) :
    (t.grant l).lockOf? u l.item = t.lockOf? u l.item := by
  simp only [lockOf?, holders_grant]
  exact find?_addLock_other _ _ hu

theorem owners_grant_self (t : LockTable) (l : Lock) :
    ((t.grant l).holders l.item).map (·.owner) =
      (t.holders l.item).map (·.owner) ++
        (if (t.lockOf? l.owner l.item).isSome then [] else [l.owner]) := by
  rw [holders_grant, if_pos rfl, owners_addLock]
  simp only [lockOf?, List.find?_isSome]
  split <;> simp_all

/-! ### The request -/

/-- A read or a write is always answered: granted when the table allows its lock, else queued. -/
theorem request_of_lock? (t : LockTable) (hl : o.lock? = some l) :
    t.request o = .ok (t.allows l, if t.allows l then t.grant l else t.enqueue o) := by
  unfold LockTable.request
  rw [hl]
  by_cases ha : t.allows l <;> simp [ha]

/-- Read/write is refused as a request, on every table and every item. -/
theorem check_readWrite (t : LockTable) (hm : l.mode = .readWrite) :
    t.check l = .error (.invalidMode l.item l.owner .readWrite) ∧ t.allows l = false := by
  simp [check, allows, hm]

/-- A lock request is decided by the locks held on the item. A compute is refused. A read is
granted iff no other transaction holds an exclusive lock on the item, a write iff no other
transaction holds any lock on it. A grant turns the requester's lock into its upgrade, or adds
the requested lock after the others when there was none, and changes nothing else; a refusal
appends the operation to the item's queue and leaves every lock as it was. Read/write is refused
as a request on every table. -/
theorem request_decided_by_holders (t : LockTable) (o : Operation) :
    (∀ e, o.kind = .compute e → t.request o = .error (.notLockable o.tx "compute")) ∧
    (∀ l, o.lock? = some l → ∃ g t', t.request o = .ok (g, t') ∧
      (o.kind = .read →
        (g = true ↔ ∀ h ∈ t.holders o.item, h.owner ≠ o.tx → h.mode.isExclusive = false)) ∧
      (o.kind = .write → (g = true ↔ ∀ h ∈ t.holders o.item, h.owner = o.tx)) ∧
      (g = true →
        t'.lockOf? o.tx o.item = some (((t.lockOf? o.tx o.item).map (·.upgrade l.mode)).getD l) ∧
        (∀ u, u ≠ o.tx → t'.lockOf? u o.item = t.lockOf? u o.item) ∧
        (t'.holders o.item).map (·.owner) = (t.holders o.item).map (·.owner) ++
          (if (t.lockOf? o.tx o.item).isSome then [] else [o.tx]) ∧
        (∀ j, j ≠ o.item → t'.holders j = t.holders j) ∧
        (∀ j, t'.queue j = t.queue j)) ∧
      (g = false →
        (∀ j, t'.holders j = t.holders j) ∧
        t'.queue o.item = t.queue o.item ++ [o] ∧
        (∀ j, j ≠ o.item → t'.queue j = t.queue j))) ∧
    (∀ l : Lock, l.mode = .readWrite →
      t.check l = .error (.invalidMode l.item l.owner .readWrite) ∧ t.allows l = false) := by
  refine ⟨fun e he => ?_, fun l hl => ?_, fun l hm => check_readWrite t hm⟩
  · simp [LockTable.request, Operation.lock?, he, OpKind.name]
  · have hitem : l.item = o.item := Operation.lock?_item hl
    have howner : l.owner = o.tx := Operation.lock?_owner hl
    refine ⟨_, _, request_of_lock? t hl, fun hk => ?_, fun hk => ?_, fun hg => ?_, fun hg => ?_⟩
    · -- a read: the grant rule for read locks
      have hm : l.mode = .read := by
        rcases Operation.lock?_mode hl with ⟨hm, -⟩ | ⟨-, hk'⟩
        · exact hm
        · rw [hk] at hk'; cases hk'
      rw [allows_read hm, hitem, howner]
      exact forall₂_congr fun h _ => by by_cases hown : h.owner = o.tx <;> simp [hown]
    · have hm : l.mode = .write := by
        rcases Operation.lock?_mode hl with ⟨-, hk'⟩ | ⟨hm, -⟩
        · rw [hk] at hk'; cases hk'
        · exact hm
      rw [allows_write hm, hitem, howner]
    · simp only [hg, if_true]
      rw [← hitem, ← howner]
      refine ⟨lockOf?_grant_self t l, fun u hu => lockOf?_grant_other t l hu,
        owners_grant_self t l, fun j hj => ?_, fun j => queue_grant t l j⟩
      rw [holders_grant, if_neg (Ne.symm hj)]
    · simp only [hg, Bool.false_eq_true, if_false]
      refine ⟨fun j => holders_enqueue t o j, by simp, fun j hj => ?_⟩
      rw [queue_enqueue, if_neg (Ne.symm hj)]

/-- With a write lock on `x` held by one transaction, another transaction's read of `x` is
refused and waits at the head of the queue. -/
theorem read_behind_writer_waits :
    ∃ t', (empty.grant ⟨.write, "x", 10001⟩).request ⟨20001, "x", .read⟩ = .ok (false, t') ∧
      t'.queue "x" = [⟨20001, "x", .read⟩] := by
  obtain ⟨g, t', hr, hread, -, -, hrefused⟩ :=
    (request_decided_by_holders (empty.grant ⟨.write, "x", 10001⟩) ⟨20001, "x", .read⟩).2.1 _ rfl
  have hheld : (empty.grant ⟨.write, "x", 10001⟩).holders "x" = [⟨.write, "x", 10001⟩] := by
    decide
  have hg : g = false := by
    cases g with
    | false => rfl
    | true =>
      have := (hread rfl).1 rfl ⟨.write, "x", 10001⟩ (by rw [hheld]; exact List.mem_singleton_self _)
      exact absurd (this (by decide)) (by decide)
  subst hg
  refine ⟨t', hr, ?_⟩
  rw [(hrefused rfl).2.1]
  decide

end LockTable
end TwoPhaseLocking
