import TwoPhaseLocking.Proofs.Lock.Invariant

/-!
What the operations of the lock table do to one transaction at a time: a grant leaves it a lock
that allows its operation, and a release leaves it none and reports the sites of the operations
it granted, once each.
-/
namespace TwoPhaseLocking

namespace LockMode

theorem eq_of_upgraded_read {m : LockMode} (h : m.upgraded .read = m) :
    m = .read ∨ m = .readWrite := by
  cases m <;> simp_all [upgraded]

theorem eq_of_upgraded_write {m : LockMode} (h : m.upgraded .write = m) :
    m = .write ∨ m = .readWrite := by
  cases m <;> simp_all [upgraded]

theorem upgraded_upgraded_of_eq {m r : LockMode} (h : m.upgraded r = m) (r' : LockMode) :
    (m.upgraded r').upgraded r = m.upgraded r' := by
  cases m <;> cases r <;> cases r' <;> simp_all [upgraded]

end LockMode

namespace IdSet

theorem sorted_insert (x : Nat) {l : List Nat} (h : l.Pairwise (· < ·)) :
    (insert x l).Pairwise (· < ·) := by
  induction l with
  | nil => simp [insert]
  | cons y ys ih =>
    rw [List.pairwise_cons] at h
    unfold insert
    split
    · rename_i hlt
      refine List.Pairwise.cons (fun z hz => ?_) (List.Pairwise.cons h.1 h.2)
      rcases List.mem_cons.mp hz with rfl | hz
      · exact hlt
      · exact Nat.lt_trans hlt (h.1 z hz)
    · split
      · exact List.Pairwise.cons h.1 h.2
      · rename_i hnlt hne
        refine List.Pairwise.cons (fun z hz => ?_) (ih h.2)
        rcases (mem_insert _ _ _).mp hz with rfl | hz
        · exact Nat.lt_of_le_of_ne (Nat.not_lt.mp hnlt) (Ne.symm hne)
        · exact h.1 z hz

end IdSet

namespace LockTable

variable {t t' t₀ : LockTable} {l : Lock} {o o' : Operation} {i j : String} {tx u : TxId}

/-- The table holds a lock of the transaction of `o` on the item of `o` that allows `o`: a lock
whose mode the upgrade by the mode `o` asks for leaves as it is. -/
def Covers (t : LockTable) (o : Operation) : Prop :=
  ∃ r, o.lock? = some r ∧ ∃ h ∈ t.holders o.item, h.owner = o.tx ∧ h.mode.upgraded r.mode = h.mode

/-- The transaction holds no lock. -/
def HoldsNone (t : LockTable) (tx : TxId) : Prop := ∀ i, ∀ h ∈ t.holders i, h.owner ≠ tx

/-- The transaction has no waiting operation. -/
def WaitsNone (t : LockTable) (tx : TxId) : Prop := ∀ i, ∀ o ∈ t.queue i, o.tx ≠ tx

/-- No two waiting operations come from one site. -/
def OneWaiterPerSite (t : LockTable) : Prop :=
  ∀ i j, ∀ o ∈ t.queue i, ∀ o' ∈ t.queue j, siteOf o.tx = siteOf o'.tx → o = o'

/-! ### Adding a lock -/

theorem exists_mem_addLock {held : List Lock} {h : Lock} (hh : h ∈ held) (l : Lock) :
    ∃ h' ∈ addLock held l, h'.owner = h.owner ∧
      (h'.mode = h.mode ∨ h'.mode = h.mode.upgraded l.mode) := by
  unfold addLock
  split
  · refine ⟨if h.owner = l.owner then h.upgrade l.mode else h, List.mem_map_of_mem hh, ?_, ?_⟩
    · split <;> rfl
    · split
      · exact .inr rfl
      · exact .inl rfl
  · exact ⟨h, List.mem_append_left _ hh, rfl, .inl rfl⟩

theorem exists_owner_addLock (held : List Lock) (l : Lock) :
    ∃ h ∈ addLock held l, h.owner = l.owner ∧ h.mode.upgraded l.mode = h.mode := by
  unfold addLock
  split
  · rename_i h₀ hfind
    have hown : h₀.owner = l.owner := by simpa using List.find?_some hfind
    refine ⟨h₀.upgrade l.mode,
      List.mem_map.mpr ⟨h₀, List.mem_of_find?_eq_some hfind, by simp [hown]⟩, hown, ?_⟩
    cases hm : h₀.mode <;> cases l.mode <;> simp [Lock.upgrade, hm, LockMode.upgraded]
  · exact ⟨l, List.mem_append_right _ (List.mem_singleton_self _), rfl, LockMode.upgraded_self _⟩

/-! ### Locks that allow an operation -/

theorem Covers.grant (h : t.Covers o) (l : Lock) : (t.grant l).Covers o := by
  obtain ⟨r, hr, h₀, hh₀, hown, hcov⟩ := h
  refine ⟨r, hr, ?_⟩
  rw [holders_grant]
  split
  · obtain ⟨h', hh', hown', hmode⟩ := exists_mem_addLock hh₀ l
    refine ⟨h', hh', hown'.trans hown, ?_⟩
    rcases hmode with hm | hm <;> rw [hm]
    · exact hcov
    · exact LockMode.upgraded_upgraded_of_eq hcov _
  · exact ⟨h₀, hh₀, hown, hcov⟩

theorem covers_grant_self (hl : o.lock? = some l) : (t.grant l).Covers o := by
  refine ⟨l, hl, ?_⟩
  rw [holders_grant, if_pos (Operation.lock?_item hl)]
  obtain ⟨h, hh, hown, hcov⟩ := exists_owner_addLock (t.holders o.item) l
  exact ⟨h, hh, hown.trans (Operation.lock?_owner hl), hcov⟩

/-- The lock that allows a read is a read or read/write lock; the one that allows a write is a
write or read/write lock. -/
theorem Covers.exists_lock (h : t.Covers o) : ∃ l ∈ t.holders o.item, l.owner = o.tx ∧
    (o.kind = .read → l.mode = .read ∨ l.mode = .readWrite) ∧
    (o.kind = .write → l.mode = .write ∨ l.mode = .readWrite) := by
  obtain ⟨r, hr, l, hl, hown, hup⟩ := h
  refine ⟨l, hl, hown, fun hk => ?_, fun hk => ?_⟩
  · rcases Operation.lock?_mode hr with ⟨hm, -⟩ | ⟨-, hk'⟩
    · rw [hm] at hup
      exact LockMode.eq_of_upgraded_read hup
    · rw [hk] at hk'
      cases hk'
  · rcases Operation.lock?_mode hr with ⟨-, hk'⟩ | ⟨hm, -⟩
    · rw [hk] at hk'
      cases hk'
    · rw [hm] at hup
      exact LockMode.eq_of_upgraded_write hup

theorem Covers.dropHolder (h : t.Covers o) (j : String) (hne : o.tx ≠ tx) :
    (t.dropHolder j tx).Covers o := by
  obtain ⟨r, hr, h₀, hh₀, hown, hcov⟩ := h
  refine ⟨r, hr, h₀, ?_, hown, hcov⟩
  rw [holders_dropHolder]
  split
  · exact List.mem_filter.mpr ⟨hh₀, by simp [hown, hne]⟩
  · exact hh₀

theorem Covers.setQueue (h : t.Covers o) (i : String) (v : Option (List Operation)) :
    ({ t with queues := t.queues.set i v } : LockTable).Covers o := h

theorem Covers.promoteHead (h : t.Covers o) (i : String) : (t.promoteHead i).1.Covers o := by
  rcases promoteHead_cases t i with ⟨hp, -⟩ | ⟨o', rest, l, -, -, -, hp⟩
  · rw [hp]
    exact h
  · rw [hp]
    exact (h.setQueue _ _).grant l

/-! ### Requests -/

/-- A request is granted when the grant rule allows its lock, and then the lock is added; it is
refused otherwise, and then the operation joins the item's queue. -/
theorem request_cases {g : Bool} (hr : t.request o = .ok (g, t')) :
    ∃ l, o.lock? = some l ∧ ((t.allows l = true ∧ g = true ∧ t' = t.grant l) ∨
      (t.allows l = false ∧ g = false ∧ t' = t.enqueue o)) := by
  unfold LockTable.request at hr
  split at hr
  · cases hr
  · rename_i l hl
    refine ⟨l, hl, ?_⟩
    split at hr
    · rename_i ha
      obtain ⟨rfl, rfl⟩ := Prod.mk.inj (Except.ok.inj hr)
      exact .inl ⟨ha, rfl, rfl⟩
    · rename_i ha
      obtain ⟨rfl, rfl⟩ := Prod.mk.inj (Except.ok.inj hr)
      exact .inr ⟨by simpa using ha, rfl, rfl⟩

theorem covers_request_granted (hr : t.request o = .ok (true, t')) : t'.Covers o := by
  obtain ⟨l, hl, ⟨-, -, rfl⟩ | ⟨-, h, -⟩⟩ := request_cases hr
  · exact covers_grant_self hl
  · cases h

theorem Covers.request {g : Bool} (h : t.Covers o') (hr : t.request o = .ok (g, t')) :
    t'.Covers o' := by
  obtain ⟨l, -, ⟨-, -, rfl⟩ | ⟨-, -, rfl⟩⟩ := request_cases hr
  · exact h.grant l
  · exact h

theorem queue_request_granted (hr : t.request o = .ok (true, t')) (i : String) :
    t'.queue i = t.queue i := by
  obtain ⟨l, -, ⟨-, -, rfl⟩ | ⟨-, h, -⟩⟩ := request_cases hr
  · rfl
  · cases h

theorem request_refused (hr : t.request o = .ok (false, t')) :
    (∀ i, t'.holders i = t.holders i) ∧
      ∀ i, t'.queue i = if o.item = i then t.queue i ++ [o] else t.queue i := by
  obtain ⟨l, -, ⟨-, h, -⟩ | ⟨-, -, rfl⟩⟩ := request_cases hr
  · cases h
  · exact ⟨fun _ => rfl, queue_enqueue t o⟩

theorem owner_request {g : Bool} (hr : t.request o = .ok (g, t')) (hh : l ∈ t'.holders i) :
    (∃ h ∈ t.holders i, h.owner = l.owner) ∨ l.owner = o.tx := by
  obtain ⟨lk, hlk, ⟨-, -, rfl⟩ | ⟨-, -, rfl⟩⟩ := request_cases hr
  · rw [holders_grant] at hh
    split at hh
    · rcases mem_addLock hh with ⟨hh, -⟩ | ⟨hown, -⟩
      · exact .inl ⟨l, hh, rfl⟩
      · exact .inr (hown.trans (Operation.lock?_owner hlk))
    · exact .inl ⟨l, hh, rfl⟩
  · exact .inl ⟨l, hh, rfl⟩

theorem waiter_request {g : Bool} (hr : t.request o = .ok (g, t')) (ho : o' ∈ t'.queue i) :
    o' ∈ t.queue i ∨ o' = o := by
  cases g with
  | true => rw [queue_request_granted hr] at ho; exact .inl ho
  | false =>
    rw [(request_refused hr).2] at ho
    split at ho
    · rcases List.mem_append.mp ho with ho | ho
      · exact .inl ho
      · exact .inr (List.mem_singleton.mp ho)
    · exact .inl ho

/-! ### Releases -/

/-- What releasing `tx` from `t₀` has done so far, with the locks `ls` of `tx` still to go: the
table `t`, and the sites `sites` of the operations granted. -/
structure Releasing (tx : TxId) (t₀ : LockTable) (ls : List Lock) (t : LockTable)
    (sites : List SiteId) : Prop where
  coherent : t.Coherent
  nodup : ∀ i, (t.queue i).Nodup
  sitesSorted : sites.Pairwise (· < ·)
  queue_sub : ∀ i, ∀ o ∈ t.queue i, o ∈ t₀.queue i
  waiting : ∀ i, ∀ o ∈ t₀.queue i,
    (o ∈ t.queue i ∧ siteOf o.tx ∉ sites) ∨ (o ∉ t.queue i ∧ t.Covers o ∧ siteOf o.tx ∈ sites)
  sites_waited : ∀ s ∈ sites, ∃ i, ∃ o ∈ t₀.queue i, siteOf o.tx = s
  covers : ∀ o, o.tx ≠ tx → t₀.Covers o → t.Covers o
  owners : ∀ i, ∀ h ∈ t.holders i,
    (∃ h₀ ∈ t₀.holders i, h₀.owner = h.owner) ∨ ∃ o ∈ t₀.queue i, o.tx = h.owner
  released : ∀ i, ∀ h ∈ t.holders i, h.owner = tx → ∃ l ∈ ls, l.item = i

theorem releasing_start (h : t₀.WellFormed) (hnd : ∀ i, (t₀.queue i).Nodup) (tx : TxId) :
    Releasing tx t₀ (t₀.locksOf tx) t₀ [] where
  coherent := h.toCoherent
  nodup := hnd
  sitesSorted := List.Pairwise.nil
  queue_sub _ _ ho := ho
  waiting _ _ ho := .inl ⟨ho, List.not_mem_nil⟩
  sites_waited _ hs := absurd hs List.not_mem_nil
  covers _ _ hc := hc
  owners _ x hx := .inl ⟨x, hx, rfl⟩
  released i x hx hown := by
    obtain ⟨hs, he, hxs⟩ := ItemMap.exists_entry_of_mem_getD hx
    exact ⟨x, mem_locksOf.mpr ⟨⟨(i, hs), he, hxs⟩, hown⟩, (h.locks i).lockItem _ hx⟩

section Step

variable {ls : List Lock} {sites : List SiteId}

theorem Releasing.dropHolder (h : Releasing tx t₀ (l :: ls) t sites) (hw : t₀.WaitsNone tx) :
    Releasing tx t₀ ls (t.dropHolder l.item tx) sites where
  coherent := h.coherent.dropHolder _ _
  nodup := h.nodup
  sitesSorted := h.sitesSorted
  queue_sub := h.queue_sub
  waiting i o ho := by
    rcases h.waiting i o ho with hq | ⟨hq, hc, hs⟩
    · exact .inl hq
    · exact .inr ⟨hq, hc.dropHolder _ (hw i o ho), hs⟩
  sites_waited := h.sites_waited
  covers o ho hc := (h.covers o ho hc).dropHolder _ ho
  owners i x hx := by
    rw [holders_dropHolder] at hx
    split at hx
    · exact h.owners i x (List.mem_filter.mp hx).1
    · exact h.owners i x hx
  released i x hx hown := by
    rw [holders_dropHolder] at hx
    split at hx
    · have := (List.mem_filter.mp hx).2
      simp [hown] at this
    · rename_i hne
      obtain ⟨l', hl', hi⟩ := h.released i x hx hown
      rcases List.mem_cons.mp hl' with rfl | hl'
      · exact absurd hi hne
      · exact ⟨l', hl', hi⟩

theorem Releasing.promoteHead (h : Releasing tx t₀ ls t sites) (hw : t₀.WaitsNone tx)
    (hu : t₀.OneWaiterPerSite) (i : String) :
    Releasing tx t₀ ls (t.promoteHead i).1
      (match (t.promoteHead i).2 with
        | some s => IdSet.insert s sites
        | none => sites) := by
  rcases promoteHead_cases t i with ⟨hp, -⟩ | ⟨o, rest, lk, hq, hlk, -, hp⟩
  · rw [hp]
    exact h
  · rw [hp]
    have ho₀ : o ∈ t₀.queue i := h.queue_sub i o (by rw [hq]; exact List.mem_cons_self)
    have hoi : o.item = i := (h.coherent.queued i o (by rw [hq]; exact List.mem_cons_self)).1
    have hnd : (o :: rest).Nodup := hq ▸ h.nodup i
    have hlki : lk.item = i := (Operation.lock?_item hlk).trans hoi
    refine ⟨(h.coherent.pop hq).grant ?_, ?_, IdSet.sorted_insert _ h.sitesSorted, ?_, ?_, ?_, ?_, ?_, ?_⟩
    · rcases promoteHead_cases t i with ⟨hp', hno⟩ | ⟨o', rest', lk', hq', hlk', ha', hp'⟩
      · rw [hp'] at hp
        exact absurd (congrArg Prod.snd hp) (by simp)
      · rw [hq] at hq'
        obtain ⟨rfl, rfl⟩ := List.cons.inj hq'
        rw [hlk] at hlk'
        cases hlk'
        exact ha'
    · intro j
      rw [queue_promoted]
      split
      · exact (List.nodup_cons.mp hnd).2
      · exact h.nodup j
    · intro j x hx
      rw [queue_promoted] at hx
      split at hx
      · rename_i hij
        subst hij
        exact h.queue_sub i x (by rw [hq]; exact List.mem_cons_of_mem _ hx)
      · exact h.queue_sub j x hx
    · intro j x hx
      rw [queue_promoted]
      rcases h.waiting j x hx with ⟨hxq, hxs⟩ | ⟨hxq, hxc, hxs⟩
      · by_cases hxo : x = o
        · subst hxo
          -- the promoted head leaves its queue and is granted
          have hji : j = i := (h.coherent.queued j x hxq).1.symm.trans hoi
          subst hji
          refine .inr ⟨?_, covers_grant_self hlk, (IdSet.mem_insert _ _ _).mpr (.inl rfl)⟩
          rw [if_pos rfl]
          exact (List.nodup_cons.mp hnd).1
        · refine .inl ⟨?_, fun hs => ?_⟩
          · split
            · rename_i hij
              subst hij
              rw [hq] at hxq
              exact (List.mem_cons.mp hxq).resolve_left hxo
            · exact hxq
          · rcases (IdSet.mem_insert _ _ _).mp hs with hs | hs
            · exact hxo (hu j i x (h.queue_sub j x hxq) o ho₀ hs)
            · exact hxs hs
      · refine .inr ⟨?_, (hxc.setQueue _ _).grant lk, (IdSet.mem_insert _ _ _).mpr (.inr hxs)⟩
        split
        · rename_i hij
          subst hij
          intro hx'
          rw [hq] at hxq
          exact hxq (List.mem_cons_of_mem _ hx')
        · exact hxq
    · intro s hs
      rcases (IdSet.mem_insert _ _ _).mp hs with rfl | hs
      · exact ⟨i, o, ho₀, rfl⟩
      · exact h.sites_waited s hs
    · intro x hx hc
      exact ((h.covers x hx hc).setQueue _ _).grant lk
    · intro j x hx
      rw [holders_grant] at hx
      split at hx
      · rename_i hj
        rcases mem_addLock hx with ⟨hx, -⟩ | ⟨hown, -⟩
        · exact h.owners j x hx
        · refine .inr ⟨o, ?_, (hown.trans (Operation.lock?_owner hlk)).symm⟩
          rw [← hj, hlki]
          exact ho₀
      · exact h.owners j x hx
    · intro j x hx hown
      rw [holders_grant] at hx
      split at hx
      · rcases mem_addLock hx with ⟨hx, -⟩ | ⟨hown', -⟩
        · exact h.released j x hx hown
        · exact absurd (hown.symm.trans (hown'.trans (Operation.lock?_owner hlk)))
            (Ne.symm (hw i o ho₀))
      · exact h.released j x hx hown

theorem releaseStep_eq (tx : TxId) (t : LockTable) (sites : List SiteId) (l : Lock) :
    releaseStep tx (t, sites) l =
      (((t.dropHolder l.item tx).promoteHead l.item).1,
        match ((t.dropHolder l.item tx).promoteHead l.item).2 with
        | some s => IdSet.insert s sites
        | none => sites) := by
  simp only [releaseStep]
  split <;> rename_i heq <;> simp [heq]

theorem Releasing.step (h : Releasing tx t₀ (l :: ls) t sites) (hw : t₀.WaitsNone tx)
    (hu : t₀.OneWaiterPerSite) :
    Releasing tx t₀ ls (LockTable.releaseStep tx (t, sites) l).1
      (LockTable.releaseStep tx (t, sites) l).2 := by
  have h' := (h.dropHolder hw).promoteHead hw hu l.item
  rw [releaseStep_eq]
  exact h'

theorem Releasing.foldl (hw : t₀.WaitsNone tx) (hu : t₀.OneWaiterPerSite) :
    ∀ (ls : List Lock) (t : LockTable) (sites : List SiteId), Releasing tx t₀ ls t sites →
      Releasing tx t₀ [] (ls.foldl (LockTable.releaseStep tx) (t, sites)).1
        (ls.foldl (LockTable.releaseStep tx) (t, sites)).2
  | [], _, _, h => h
  | l :: ls, t, sites, h => by
    rw [List.foldl_cons]
    exact Releasing.foldl hw hu ls _ _ (h.step hw hu)

end Step

/-- A release of a transaction with no waiting operation, from a well-formed table whose queues
repeat no operation and whose sites wait for one operation at most. -/
theorem releasing_release (h : t₀.WellFormed) (hnd : ∀ i, (t₀.queue i).Nodup)
    (hw : t₀.WaitsNone tx) (hu : t₀.OneWaiterPerSite) :
    Releasing tx t₀ [] (t₀.release tx).1 (t₀.release tx).2 :=
  Releasing.foldl hw hu _ _ _ (releasing_start h hnd tx)

theorem Releasing.holdsNone {sites : List SiteId} (h : Releasing tx t₀ [] t sites) :
    t.HoldsNone tx := fun i x hx hown => by
  obtain ⟨l, hl, -⟩ := h.released i x hx hown
  cases hl

theorem waitsNone_removeBlocked (h : t.WellFormed) (tx : TxId) : (t.removeBlocked tx).WaitsNone tx :=
  fun i o ho => by
    rw [queue_removeBlocked h.queuesSorted] at ho
    simpa using (List.mem_filter.mp ho).2

theorem mem_queue_removeBlocked (h : t.WellFormed) :
    o ∈ (t.removeBlocked tx).queue i ↔ o ∈ t.queue i ∧ o.tx ≠ tx := by
  rw [queue_removeBlocked h.queuesSorted, List.mem_filter]
  simp

/-- An abort is the release of a transaction whose waiting operations were dropped first. -/
theorem releasing_abort (h : t₀.WellFormed) (hnd : ∀ i, (t₀.queue i).Nodup)
    (hu : t₀.OneWaiterPerSite) (tx : TxId) :
    Releasing tx (t₀.removeBlocked tx) [] (t₀.abort tx).1 (t₀.abort tx).2 := by
  refine releasing_release (h.removeBlocked tx) (fun i => ?_) (waitsNone_removeBlocked h tx) ?_
  · rw [queue_removeBlocked h.queuesSorted]
    exact (hnd i).filter _
  · intro i j x hx y hy hs
    exact hu i j x ((mem_queue_removeBlocked h).mp hx).1 y ((mem_queue_removeBlocked h).mp hy).1 hs

end LockTable
end TwoPhaseLocking
