import TwoPhaseLocking.Proofs.Lock.Ownership
import TwoPhaseLocking.Proofs.Deadlock.Detection

/-!
The discipline of the wait queues. Over every run of the lock table, each queue holds exactly
the refused operations on its item that were neither granted nor dropped, in the order they
were refused (`QueueRun.queue_discipline`); a release grants at most one head per item.
-/
namespace TwoPhaseLocking
namespace LockTable

variable {t u : LockTable} {tx : TxId} {i j : String} {o : Operation} {l : Lock}

/-! ### One item -/

/-- The locks and the waiting operations of one item. -/
def slot (t : LockTable) (i : String) : List Lock × List Operation := (t.holders i, t.queue i)

/-- The head of the queue of `i` that a release of `tx` grants there: the head, when the locks
left on `i` once the lock of `tx` is dropped allow it. -/
def headGranted? (t : LockTable) (tx : TxId) (i : String) : Option Operation :=
  match t.queue i with
  | o :: _ =>
    match o.lock? with
    | some l => if (t.dropHolder i tx).allows l then some o else none
    | none => none
  | [] => none

theorem allows_congr (h : u.holders l.item = t.holders l.item) : u.allows l = t.allows l := by
  simp only [allows, check, h]

theorem item_of_mem_queue (h : t.Coherent) (ho : o ∈ t.queue i) : o.item = i :=
  (h.queued i o ho).1

theorem headGranted?_eq_some :
    t.headGranted? tx i = some o ↔ ∃ rest l, t.queue i = o :: rest ∧ o.lock? = some l ∧
      (t.dropHolder i tx).allows l = true := by
  unfold headGranted?
  split
  · rename_i o' rest hq
    split
    · rename_i l hl
      by_cases ha : (t.dropHolder i tx).allows l = true
      · simp only [ha, if_true, Option.some.injEq]
        constructor
        · rintro rfl
          exact ⟨rest, l, hq, hl, ha⟩
        · rintro ⟨rest', l', hq', -, -⟩
          rw [hq] at hq'
          exact (List.cons.inj hq').1
      · simp only [ha, Bool.false_eq_true, if_false, reduceCtorEq, false_iff]
        rintro ⟨rest', l', hq', hl', ha'⟩
        rw [hq] at hq'
        obtain ⟨rfl, -⟩ := List.cons.inj hq'
        rw [hl] at hl'
        cases hl'
        exact ha ha'
    · rename_i hl
      simp only [reduceCtorEq, false_iff]
      rintro ⟨rest', l', hq', hl', -⟩
      rw [hq] at hq'
      obtain ⟨rfl, -⟩ := List.cons.inj hq'
      rw [hl] at hl'
      cases hl'
  · rename_i hq
    simp only [reduceCtorEq, false_iff]
    rintro ⟨rest, l, hq', -⟩
    rw [hq] at hq'
    cases hq'

theorem item_of_headGranted? (h : t.Coherent) (hg : t.headGranted? tx i = some o) : o.item = i := by
  obtain ⟨rest, -, hq, -⟩ := headGranted?_eq_some.mp hg
  exact item_of_mem_queue h (by rw [hq]; exact List.mem_cons_self)

theorem headGranted?_congr (ht : t.Coherent) (h : u.slot i = t.slot i) :
    u.headGranted? tx i = t.headGranted? tx i := by
  obtain ⟨hh, hq⟩ := Prod.mk.inj h
  -- the head's lock is on `i`, where the two tables hold the same locks
  have ha : ∀ o ∈ t.queue i, ∀ l, o.lock? = some l →
      (u.dropHolder i tx).allows l = (t.dropHolder i tx).allows l := by
    intro o ho l hl
    have hli : l.item = i := (Operation.lock?_item hl).trans (item_of_mem_queue ht ho)
    refine allows_congr ?_
    simp only [holders_dropHolder, hli, if_true]
    exact congrArg _ hh
  cases hg : t.headGranted? tx i with
  | none =>
    cases hg' : u.headGranted? tx i with
    | none => rfl
    | some o =>
      obtain ⟨rest, l, hq', hl, ha'⟩ := headGranted?_eq_some.mp hg'
      rw [hq] at hq'
      rw [ha o (by rw [hq']; exact List.mem_cons_self) l hl] at ha'
      rw [headGranted?_eq_some.mpr ⟨rest, l, hq', hl, ha'⟩] at hg
      cases hg
  | some o =>
    obtain ⟨rest, l, hq', hl, ha'⟩ := headGranted?_eq_some.mp hg
    rw [← ha o (by rw [hq']; exact List.mem_cons_self) l hl] at ha'
    exact headGranted?_eq_some.mpr ⟨rest, l, hq ▸ hq', hl, ha'⟩

/-- One step of a release on item `i`: the lock of `tx` is dropped, and the head is granted, and
leaves the queue, exactly when it is the head the release grants. -/
theorem dropPromote_cases (h : t.Coherent) (i : String) (tx : TxId) :
    (t.headGranted? tx i = none ∧
        ((t.dropHolder i tx).promoteHead i).1.slot i =
          ((t.holders i).filter (·.owner != tx), t.queue i) ∧
        ((t.dropHolder i tx).promoteHead i).2 = none) ∨
      ∃ o rest l, t.queue i = o :: rest ∧ o.lock? = some l ∧ t.headGranted? tx i = some o ∧
        ((t.dropHolder i tx).promoteHead i).1.slot i =
          (addLock ((t.holders i).filter (·.owner != tx)) l, rest) ∧
        ((t.dropHolder i tx).promoteHead i).2 = some (siteOf o.tx) := by
  rcases promoteHead_cases (t.dropHolder i tx) i with ⟨hp, hno⟩ | ⟨o, rest, l, hq, hl, ha, hp⟩
  · refine .inl ⟨?_, ?_, by rw [hp]⟩
    · cases hg : t.headGranted? tx i with
      | none => rfl
      | some o =>
        obtain ⟨rest, l, hq, hl, ha⟩ := headGranted?_eq_some.mp hg
        rw [hno o rest l hq hl] at ha
        cases ha
    · rw [hp]
      simp only [slot, holders_dropHolder, if_true, queue_dropHolder]
  · have hli : l.item = i :=
      (Operation.lock?_item hl).trans
        (item_of_mem_queue h (by rw [← queue_dropHolder t i tx i, hq]; exact List.mem_cons_self))
    refine .inr ⟨o, rest, l, hq, hl, headGranted?_eq_some.mpr ⟨rest, l, hq, hl, ha⟩, ?_, by rw [hp]⟩
    rw [hp]
    simp only [slot, holders_grant, hli, if_true, holders_setQueue, holders_dropHolder,
      queue_promoted]

theorem slot_dropPromote_ne (h : t.Coherent) (hij : i ≠ j) :
    ((t.dropHolder j tx).promoteHead j).1.slot i = t.slot i := by
  simp only [slot, promoteHead_holders_ne (h.dropHolder j tx) hij, promoteHead_queue_ne hij,
    holders_dropHolder, queue_dropHolder, if_neg (Ne.symm hij)]

theorem dropPromote_congr (hu : u.Coherent) (ht : t.Coherent) (h : u.slot i = t.slot i)
    (tx : TxId) :
    ((u.dropHolder i tx).promoteHead i).1.slot i = ((t.dropHolder i tx).promoteHead i).1.slot i ∧
      ((u.dropHolder i tx).promoteHead i).2 = ((t.dropHolder i tx).promoteHead i).2 := by
  have hg : u.headGranted? tx i = t.headGranted? tx i := headGranted?_congr ht h
  obtain ⟨hh, hq⟩ := Prod.mk.inj h
  rcases dropPromote_cases hu i tx with ⟨hgu, hsu, hpu⟩ | ⟨o, rest, l, hqu, hl, hgu, hsu, hpu⟩ <;>
    rcases dropPromote_cases ht i tx with ⟨hgt, hst, hpt⟩ | ⟨o', rest', l', hqt, hl', hgt, hst, hpt⟩
  · rw [hsu, hst, hpu, hpt, hh, hq]
    exact ⟨rfl, rfl⟩
  · rw [hg, hgt] at hgu
    cases hgu
  · rw [hg, hgt] at hgu
    cases hgu
  · rw [hq, hqt] at hqu
    obtain ⟨rfl, rfl⟩ := List.cons.inj hqu
    rw [hl] at hl'
    cases hl'
    rw [hsu, hst, hpu, hpt, hh]
    exact ⟨rfl, rfl⟩

/-! ### The locks of a transaction -/

theorem mem_locksOf_iff (h : t.Coherent) : l ∈ t.locksOf tx ↔ l ∈ t.holders l.item ∧ l.owner = tx := by
  rw [mem_locksOf]
  constructor
  · rintro ⟨⟨e, he, hle⟩, hown⟩
    have hmem : l ∈ t.holders e.1 := by
      unfold holders
      rw [(h.heldSorted.mem_entries_iff).mp he]
      exact hle
    have hli : l.item = e.1 := (h.locks e.1).lockItem l hmem
    rw [hli]
    exact ⟨hmem, hown⟩
  · rintro ⟨hmem, hown⟩
    obtain ⟨v, he, hv⟩ := ItemMap.exists_entry_of_mem_getD hmem
    exact ⟨⟨_, he, hv⟩, hown⟩

theorem mem_locksOf_items (h : t.Coherent) :
    i ∈ (t.locksOf tx).map (·.item) ↔ ∃ l ∈ t.holders i, l.owner = tx := by
  constructor
  · rintro hi
    obtain ⟨l, hl, rfl⟩ := List.mem_map.mp hi
    obtain ⟨hmem, hown⟩ := (mem_locksOf_iff h).mp hl
    exact ⟨l, hmem, hown⟩
  · rintro ⟨l, hl, hown⟩
    have hli : l.item = i := (h.locks i).lockItem l hl
    exact List.mem_map.mpr ⟨l, (mem_locksOf_iff h).mpr ⟨hli ▸ hl, hown⟩, hli⟩

/-- A transaction holds one lock at most on an item, and the entries of the table come in item
order: its locks come in strictly ascending item order. -/
theorem locksOf_sorted (h : t.Coherent) (tx : TxId) :
    (t.locksOf tx).Pairwise (fun a b => a.item < b.item) := by
  have hitem : ∀ e ∈ t.held.entries, ∀ x ∈ e.2, x ∈ t.holders e.1 ∧ x.item = e.1 := by
    intro e he x hx
    have hmem : x ∈ t.holders e.1 := by
      unfold holders
      rw [(h.heldSorted.mem_entries_iff).mp he]
      exact hx
    exact ⟨hmem, (h.locks e.1).lockItem x hmem⟩
  unfold locksOf ItemMap.values
  rw [List.filter_flatten, List.pairwise_flatten, List.map_map]
  refine ⟨fun ls hls => ?_, List.pairwise_map.mpr (h.heldSorted.imp_of_mem ?_)⟩
  · -- within an item: one lock of `tx` at most
    obtain ⟨e, he, rfl⟩ := List.mem_map.mp hls
    have hown : e.2.Pairwise (fun a b => a.owner ≠ b.owner) := by
      have hnd := (h.locks e.1).oneLock
      unfold holders at hnd
      rw [(h.heldSorted.mem_entries_iff).mp he] at hnd
      exact List.pairwise_map.mp hnd
    refine (hown.filter _).imp_of_mem fun ha hb hne => absurd ?_ hne
    simp only [Function.comp, List.mem_filter, decide_eq_true_eq] at ha hb
    exact ha.2.trans hb.2.symm
  · -- across items: the keys ascend
    intro e₁ e₂ he₁ he₂ hlt x hx y hy
    simp only [Function.comp, List.mem_filter] at hx hy
    rw [(hitem e₁ he₁ x hx.1).2, (hitem e₂ he₂ y hy.1).2]
    exact hlt

theorem locksOf_items_nodup (h : t.Coherent) (tx : TxId) : ((t.locksOf tx).map (·.item)).Nodup :=
  List.pairwise_map.mpr ((locksOf_sorted h tx).imp fun {a b} hlt (he : a.item = b.item) =>
    String.lt_irrefl b.item (he ▸ hlt))

/-! ### A release, item by item -/

/-- Folding the steps of a release over locks on distinct items, from a table that agrees with
`t` on those items, acts on each of them as one step on `t` would, and leaves the other items
alone. -/
theorem foldl_releaseStep (ht : t.Coherent) (tx : TxId) :
    ∀ (ls : List Lock) (u : LockTable) (ss : List SiteId), u.Coherent →
      (ls.map (·.item)).Nodup → (∀ l ∈ ls, u.slot l.item = t.slot l.item) →
      (∀ i, (ls.foldl (releaseStep tx) (u, ss)).1.slot i =
        if i ∈ ls.map (·.item) then ((t.dropHolder i tx).promoteHead i).1.slot i else u.slot i) ∧
      (ls.foldl (releaseStep tx) (u, ss)).2 =
        (ls.filterMap fun l => ((t.dropHolder l.item tx).promoteHead l.item).2).foldl
          (fun s x => IdSet.insert x s) ss
  | [], _, _, _, _, _ => ⟨fun _ => by simp, rfl⟩
  | l :: ls, u, ss, hu, hnd, hagree => by
    rw [List.foldl_cons, releaseStep_eq]
    rw [List.map_cons, List.nodup_cons] at hnd
    have hne : ∀ l' ∈ ls, l'.item ≠ l.item := fun l' hl' he =>
      hnd.1 (he ▸ List.mem_map_of_mem hl')
    -- the first step touches only the first item, where `u` still agrees with `t`
    have hu₁ := (hu.dropHolder l.item tx).promoteHead l.item
    have hagree₁ : ∀ l' ∈ ls,
        ((u.dropHolder l.item tx).promoteHead l.item).1.slot l'.item = t.slot l'.item :=
      fun l' hl' => (slot_dropPromote_ne hu (hne l' hl')).trans
        (hagree l' (List.mem_cons_of_mem _ hl'))
    obtain ⟨ih_slot, ih_sites⟩ := foldl_releaseStep ht tx ls _ _ hu₁ hnd.2 hagree₁
    obtain ⟨hslot, hsite⟩ := dropPromote_congr hu ht (hagree l List.mem_cons_self) tx
    refine ⟨fun i => ?_, ?_⟩
    · rw [ih_slot i, List.map_cons]
      by_cases hi : i ∈ ls.map (·.item)
      · rw [if_pos hi, if_pos (List.mem_cons_of_mem _ hi)]
      · rw [if_neg hi]
        by_cases hil : i = l.item
        · subst hil
          rw [if_pos List.mem_cons_self, hslot]
        · rw [if_neg (by simp only [List.mem_cons, hil, hi, or_self, not_false_eq_true]),
            slot_dropPromote_ne hu hil]
    · rw [ih_sites, hsite, List.filterMap_cons]
      cases ((t.dropHolder l.item tx).promoteHead l.item).2 <;> rfl

/-- A release acts on each item where the transaction holds a lock as one step on the table as
it was, and leaves every other item alone. -/
theorem release_slot (h : t.Coherent) (tx : TxId) (i : String) :
    (t.release tx).1.slot i =
      if i ∈ (t.locksOf tx).map (·.item) then ((t.dropHolder i tx).promoteHead i).1.slot i
      else t.slot i :=
  (foldl_releaseStep h tx _ t [] h (locksOf_items_nodup h tx) fun _ _ => rfl).1 i

/-- The heads a release of `tx` grants, in item order: on each item where `tx` holds a lock, the
head of the queue when the locks left once that lock is dropped allow it. -/
def promotions (t : LockTable) (tx : TxId) : List Operation :=
  (t.locksOf tx).filterMap fun l => t.headGranted? tx l.item

theorem mem_promotions (h : t.Coherent) :
    o ∈ t.promotions tx ↔ (∃ l ∈ t.holders o.item, l.owner = tx) ∧ t.headGranted? tx o.item = some o := by
  unfold promotions
  rw [List.mem_filterMap]
  constructor
  · rintro ⟨l, hl, hg⟩
    have hoi := item_of_headGranted? h hg
    obtain ⟨hmem, hown⟩ := (mem_locksOf_iff h).mp hl
    rw [hoi]
    exact ⟨⟨l, hmem, hown⟩, hg⟩
  · rintro ⟨hi, hg⟩
    obtain ⟨l, hl, hli⟩ := List.mem_map.mp ((mem_locksOf_items h).mpr hi)
    exact ⟨l, hl, hli ▸ hg⟩

theorem promotions_items_nodup (h : t.Coherent) (tx : TxId) :
    ((t.promotions tx).map (·.item)).Nodup := by
  suffices hsub : ∀ ls : List Lock,
      ((ls.filterMap fun l => t.headGranted? tx l.item).map (·.item)).Sublist (ls.map (·.item)) from
    (hsub _).nodup (locksOf_items_nodup h tx)
  intro ls
  induction ls with
  | nil => exact List.Sublist.slnil
  | cons l ls ih =>
    rw [List.filterMap_cons]
    cases hg : t.headGranted? tx l.item with
    | none => exact ih.cons _
    | some o =>
      rw [List.map_cons, List.map_cons, item_of_headGranted? h hg]
      exact ih.cons_cons _

/-- The sites a release reports are those of the operations it grants, ascending. -/
theorem release_sites (h : t.Coherent) (tx : TxId) :
    (t.release tx).2 = IdSet.ofList ((t.promotions tx).map (siteOf ·.tx)) := by
  have hfold := (foldl_releaseStep h tx _ t [] h (locksOf_items_nodup h tx) fun _ _ => rfl).2
  have hsite : ∀ i, ((t.dropHolder i tx).promoteHead i).2 = (t.headGranted? tx i).map (siteOf ·.tx) := by
    intro i
    rcases dropPromote_cases h i tx with ⟨hg, -, hp⟩ | ⟨o, -, -, -, -, hg, -, hp⟩ <;> rw [hg, hp] <;> rfl
  rw [release, hfold, promotions, List.map_filterMap, IdSet.ofList]
  simp only [hsite]

/-- At an item where the release grants an operation, it pops the head and grants its lock, on
top of the locks left once the lock of `tx` is dropped. -/
theorem release_slot_promoted (h : t.Coherent) (ho : o ∈ t.promotions tx) :
    ∃ rest l, t.queue o.item = o :: rest ∧ o.lock? = some l ∧
      (t.release tx).1.slot o.item = (addLock ((t.holders o.item).filter (·.owner != tx)) l, rest) := by
  obtain ⟨hi, hg⟩ := (mem_promotions h).mp ho
  rw [release_slot h, if_pos ((mem_locksOf_items h).mpr hi)]
  rcases dropPromote_cases h o.item tx with ⟨hg', -, -⟩ | ⟨o', rest, l, hq, hl, hg', hs, -⟩
  · rw [hg] at hg'
    cases hg'
  · rw [hg] at hg'
    cases hg'
    exact ⟨rest, l, hq, hl, hs⟩

theorem release_slot_unpromoted (h : t.Coherent) (hi : ∀ o ∈ t.promotions tx, o.item ≠ i) :
    (t.release tx).1.slot i = ((t.holders i).filter (·.owner != tx), t.queue i) := by
  rw [release_slot h]
  split
  · rename_i hmem
    rcases dropPromote_cases h i tx with ⟨-, hs, -⟩ | ⟨o, -, -, -, -, hg, -, -⟩
    · exact hs
    · have hoi := item_of_headGranted? h hg
      refine absurd hoi (hi o ((mem_promotions h).mpr ⟨?_, hoi ▸ hg⟩))
      rw [hoi]
      exact (mem_locksOf_items h).mp hmem
  · rename_i hmem
    -- `tx` holds nothing on `i`, so dropping its lock there changes nothing
    refine Prod.ext ?_ rfl
    refine (List.filter_eq_self.mpr fun x hx => ?_).symm
    have hne : x.owner ≠ tx := fun hown => hmem ((mem_locksOf_items h).mpr ⟨x, hx, hown⟩)
    simpa using hne

/-- What a release of `tx` from `t` does. It grants the heads that `promotions` lists, one at
most per item; each leaves the head of its queue, and its lock is added, or upgrades the lock
its transaction already holds on the item. Every other item loses the lock of `tx` and keeps its
queue. The sites reported are those of the granted operations, ascending and once each. -/
structure ReleaseSpec (t : LockTable) (tx : TxId) : Prop where
  promotions_iff : ∀ o, o ∈ t.promotions tx ↔ (∃ l ∈ t.holders o.item, l.owner = tx) ∧
    (t.queue o.item).head? = some o ∧ ∃ l, o.lock? = some l ∧ (t.dropHolder o.item tx).allows l
  onePerItem : ((t.promotions tx).map (·.item)).Nodup
  granted : ∀ o ∈ t.promotions tx, ∃ rest l, t.queue o.item = o :: rest ∧ o.lock? = some l ∧
    (t.release tx).1.queue o.item = rest ∧
    (t.release tx).1.holders o.item = addLock ((t.holders o.item).filter (·.owner != tx)) l
  untouched : ∀ i, (∀ o ∈ t.promotions tx, o.item ≠ i) →
    (t.release tx).1.queue i = t.queue i ∧
    (t.release tx).1.holders i = (t.holders i).filter (·.owner != tx)
  sites : (t.release tx).2 = IdSet.ofList ((t.promotions tx).map (siteOf ·.tx))

theorem Coherent.releaseSpec (h : t.Coherent) (tx : TxId) : ReleaseSpec t tx where
  promotions_iff o := by
    rw [mem_promotions h, headGranted?_eq_some]
    constructor
    · rintro ⟨hi, rest, l, hq, hl, ha⟩
      exact ⟨hi, List.head?_eq_some_iff.mpr ⟨rest, hq⟩, l, hl, ha⟩
    · rintro ⟨hi, hhead, l, hl, ha⟩
      obtain ⟨rest, hq⟩ := List.head?_eq_some_iff.mp hhead
      exact ⟨hi, rest, l, hq, hl, ha⟩
  onePerItem := promotions_items_nodup h tx
  granted o ho := by
    obtain ⟨rest, l, hq, hl, hs⟩ := release_slot_promoted h ho
    obtain ⟨hh, hq'⟩ := Prod.mk.inj hs
    exact ⟨rest, l, hq, hl, hq', hh⟩
  untouched i hi := by
    obtain ⟨hh, hq⟩ := Prod.mk.inj (release_slot_unpromoted h hi)
    exact ⟨hq, hh⟩
  sites := release_sites h tx

/-! ### The log of what happened to the queues -/

/-- What a call did to the wait queues. -/
inductive QueueEvent where
  /-- A request was refused, and its operation joined the tail of its item's queue. -/
  | denied (o : Operation)
  /-- A release granted the operation from the head of its item's queue. -/
  | promoted (o : Operation)
  /-- The waiting operations of a transaction were dropped. -/
  | purged (tx : TxId)
  deriving DecidableEq, Repr

namespace QueueEvent

def apply (i : String) (q : List Operation) : QueueEvent → List Operation
  | denied o => if o.item = i then q ++ [o] else q
  | promoted o => if o.item = i then q.erase o else q
  | purged tx => q.filter (·.tx != tx)

/-- The queue of item `i` that a log of events leaves, from no waiter: the operations on `i`
that were refused, less those granted and those dropped, in the order they were refused. -/
def replay (E : List QueueEvent) (i : String) : List Operation := E.foldl (apply i) []

theorem replay_append (E F : List QueueEvent) (i : String) :
    replay (E ++ F) i = F.foldl (apply i) (replay E i) :=
  List.foldl_append

theorem foldl_apply_promoted_of_ne {ps : List Operation} (h : ∀ o ∈ ps, o.item ≠ i)
    (q : List Operation) : (ps.map promoted).foldl (apply i) q = q := by
  induction ps generalizing q with
  | nil => rfl
  | cons o ps ih =>
    rw [List.map_cons, List.foldl_cons, apply, if_neg (h o List.mem_cons_self)]
    exact ih (fun o' ho' => h o' (List.mem_cons_of_mem _ ho')) q

end QueueEvent

theorem queue_release_events (h : t.Coherent) (tx : TxId) (i : String) :
    (t.release tx).1.queue i =
      ((t.promotions tx).map .promoted).foldl (QueueEvent.apply i) (t.queue i) := by
  have hspec := h.releaseSpec tx
  by_cases hi : ∃ o ∈ t.promotions tx, o.item = i
  · obtain ⟨o, ho, rfl⟩ := hi
    obtain ⟨rest, -, hq, -, hq', -⟩ := hspec.granted o ho
    -- the other granted operations are on other items
    obtain ⟨ps₁, ps₂, hps⟩ := List.append_of_mem ho
    have hnd := hspec.onePerItem
    rw [hps, List.map_append, List.map_cons, List.nodup_append] at hnd
    have h₁ : ∀ o' ∈ ps₁, o'.item ≠ o.item := fun o' ho' he =>
      hnd.2.2 _ (List.mem_map_of_mem ho') _ List.mem_cons_self he
    have h₂ : ∀ o' ∈ ps₂, o'.item ≠ o.item := fun o' ho' he =>
      (List.nodup_cons.mp hnd.2.1).1 (he ▸ List.mem_map_of_mem ho')
    rw [hps, List.map_append, List.map_cons, List.foldl_append, List.foldl_cons,
      QueueEvent.foldl_apply_promoted_of_ne h₁, QueueEvent.apply, if_pos rfl, hq,
      List.erase_cons_head, QueueEvent.foldl_apply_promoted_of_ne h₂, hq']
  · have hne : ∀ o ∈ t.promotions tx, o.item ≠ i := fun o ho he => hi ⟨o, ho, he⟩
    rw [QueueEvent.foldl_apply_promoted_of_ne hne, (hspec.untouched i hne).1]

/-- What an abort of `tx` does to the queues: its waiting operations are dropped, then the
release of its locks grants. -/
def abortEvents (t : LockTable) (tx : TxId) : List QueueEvent :=
  .purged tx :: ((t.removeBlocked tx).promotions tx).map .promoted

/-- What a deadlock check does to the queues: nothing, or the abort of its victim. -/
def resolveEvents (t : LockTable) : List QueueEvent :=
  match t.resolveDeadlock.1 with
  | some r => t.abortEvents r.victim
  | none => []

theorem queue_request_events {t' : LockTable} {g : Bool} (hr : t.request o = .ok (g, t'))
    (i : String) :
    t'.queue i = (if g then [] else [QueueEvent.denied o]).foldl (QueueEvent.apply i) (t.queue i) := by
  obtain ⟨l, -, ⟨-, rfl, rfl⟩ | ⟨-, rfl, rfl⟩⟩ := request_cases hr
  · rfl
  · rw [queue_enqueue]
    rfl

theorem queue_removeBlocked_events (h : t.WellFormed) (tx : TxId) (i : String) :
    (t.removeBlocked tx).queue i = [QueueEvent.purged tx].foldl (QueueEvent.apply i) (t.queue i) :=
  queue_removeBlocked h.queuesSorted tx i

theorem queue_abort_events (h : t.WellFormed) (tx : TxId) (i : String) :
    (t.abort tx).1.queue i = (t.abortEvents tx).foldl (QueueEvent.apply i) (t.queue i) := by
  rw [abortEvents, List.foldl_cons, ← List.foldl_nil (f := QueueEvent.apply i)
      (b := QueueEvent.apply i (t.queue i) (.purged tx)), ← List.foldl_cons,
    ← queue_removeBlocked_events h tx i]
  exact queue_release_events (h.removeBlocked tx).toCoherent tx i

theorem queue_resolve_events (h : t.WellFormed) (i : String) :
    t.resolveDeadlock.2.queue i = t.resolveEvents.foldl (QueueEvent.apply i) (t.queue i) := by
  unfold resolveEvents
  rcases resolveDeadlock_cases t with hr | ⟨v, -, hr⟩ <;> rw [hr]
  · rfl
  · exact queue_abort_events h v i

/-! ### Runs -/

/-- A run of the lock table from the empty one, with the log of what its calls did to the
queues: requests, releases, drops of a transaction's waiting operations, aborts and deadlock
checks, in any number and order. -/
inductive QueueRun : LockTable → List QueueEvent → Prop
  | empty : QueueRun .empty []
  | request {t t' : LockTable} {E : List QueueEvent} {o : Operation} {g : Bool} :
      QueueRun t E → t.request o = .ok (g, t') →
      QueueRun t' (E ++ if g then [] else [.denied o])
  | release {t : LockTable} {E : List QueueEvent} (tx : TxId) :
      QueueRun t E → QueueRun (t.release tx).1 (E ++ (t.promotions tx).map .promoted)
  | removeBlocked {t : LockTable} {E : List QueueEvent} (tx : TxId) :
      QueueRun t E → QueueRun (t.removeBlocked tx) (E ++ [.purged tx])
  | abort {t : LockTable} {E : List QueueEvent} (tx : TxId) :
      QueueRun t E → QueueRun (t.abort tx).1 (E ++ t.abortEvents tx)
  | resolve {t : LockTable} {E : List QueueEvent} :
      QueueRun t E → QueueRun t.resolveDeadlock.2 (E ++ t.resolveEvents)

variable {E : List QueueEvent}

/-- Along a run every table is well formed, and each queue is what the log replays. -/
theorem QueueRun.inv (h : QueueRun t E) : t.WellFormed ∧ ∀ i, t.queue i = QueueEvent.replay E i := by
  induction h with
  | empty => exact ⟨wellFormed_empty, fun _ => rfl⟩
  | request _ hr ih =>
    refine ⟨ih.1.request hr, fun i => ?_⟩
    rw [QueueEvent.replay_append, ← ih.2 i, queue_request_events hr]
  | release tx _ ih =>
    refine ⟨ih.1.release tx, fun i => ?_⟩
    rw [QueueEvent.replay_append, ← ih.2 i, queue_release_events ih.1.toCoherent]
  | removeBlocked tx _ ih =>
    refine ⟨ih.1.removeBlocked tx, fun i => ?_⟩
    rw [QueueEvent.replay_append, ← ih.2 i, queue_removeBlocked_events ih.1]
  | abort tx _ ih =>
    refine ⟨ih.1.abort tx, fun i => ?_⟩
    rw [QueueEvent.replay_append, ← ih.2 i, queue_abort_events ih.1]
  | resolve _ ih =>
    refine ⟨ih.1.resolveDeadlock, fun i => ?_⟩
    rw [QueueEvent.replay_append, ← ih.2 i, queue_resolve_events ih.1]

/-- The discipline of the wait queues over every run from the empty table. Each queue holds
exactly the operations on its item that were refused, less those a release granted from the
head and those dropped with their transaction, in the order they were refused. And a release of
any transaction, the one inside an abort too, grants at most the head of each item's queue where
the transaction holds a lock, exactly when the locks left once that lock is dropped allow it, by
adding or upgrading its transaction's lock, and reports exactly the sites of what it granted. -/
theorem QueueRun.queue_discipline (h : QueueRun t E) :
    (∀ i, t.queue i = QueueEvent.replay E i) ∧ ∀ tx, ReleaseSpec t tx :=
  ⟨h.inv.2, h.inv.1.toCoherent.releaseSpec⟩

/-- A writer holds `x` and two readers queue behind it; the release of the writer grants the
first reader only, though the second would be allowed too: one grant for the one lock released. -/
theorem writer_release_grants_one_reader : ∃ t E, QueueRun t E ∧
    t.queue "x" = [⟨30001, "x", .read⟩] ∧
    ((∀ i, t.queue i = QueueEvent.replay E i) ∧ ∀ tx, ReleaseSpec t tx) := by
  have r := QueueRun.request (o := ⟨10001, "x", .write⟩) QueueRun.empty rfl
  have r := QueueRun.request (o := ⟨20001, "x", .read⟩) r rfl
  have r := QueueRun.request (o := ⟨30001, "x", .read⟩) r rfl
  have r := QueueRun.release 10001 r
  exact ⟨_, _, r, rfl, QueueRun.queue_discipline r⟩

end LockTable
end TwoPhaseLocking
