import TwoPhaseLocking.Proofs.System.Invariant

/-!
The steps of one agent keep the invariant. A lock request is the one agent step that changes
the coordinator's table; the store part rests on `Inv.value_eq`, the serial value of an item
held and not being committed.
-/
namespace TwoPhaseLocking

namespace InFlight

variable {f : InFlight} {t : LockTable} {σ : Store} {s : SiteId} {i : String} {v : Int}
  {o : Operation} {more : List Operation} {st : Staging}

theorem Live.sorted (h : f.Live t σ) : f.staging.toCommit.Sorted :=
  Staging.sorted_executeAll ItemMap.sorted_empty h.staged

/-- A value the transaction staged is on an item it holds a lock on: an exclusive lock, or else
the value is the serial one. -/
theorem Live.locked (h : f.Live t σ) (hs : f.Shaped s) (hb : σ.budget = none)
    (hv : f.staging.toCommit.get? i = some v) :
    ∃ l ∈ t.holders i, l.owner = f.tx.id ∧ (l.mode.isExclusive = true ∨ v = σ.value i) := by
  rcases Staging.toCommit_executeAll hb h.staged hv with h₀ | ⟨o, ho, rfl, hk⟩
  · cases h₀
  · have hlock : o.requiresLock = true := by
      rcases hk with hk | ⟨hk, -⟩ <;> simp [Operation.requiresLock, hk]
    obtain ⟨l, hl, hown, -, hwrite⟩ := (h.covered o ho hlock).exists_lock
    refine ⟨l, hl, hown.trans (hs.tx_of_mem (.inl ho)), ?_⟩
    rcases hk with hk | ⟨-, hv⟩
    · rcases hwrite hk with hm | hm <;> simp [hm, LockMode.isExclusive]
    · exact .inr hv

theorem live_start (t : LockTable) (σ : Store) (tx : Transaction) :
    (⟨tx, tx.ops, {}, false⟩ : InFlight).Live t σ := by
  have hd : (⟨tx, tx.ops, {}, false⟩ : InFlight).done = [] := by simp [done]
  refine ⟨?_, ?_⟩
  · rw [hd]
    intro o ho
    cases ho
  · rw [hd]
    rfl

/-- Running the next operation, with its lock if it takes one, against the serial store. -/
theorem Live.advance (h : f.Live t σ) (hs : f.Shaped s) (hr : f.rest = o :: more)
    (hc : o.requiresLock = true → t.Covers o) (hst : f.staging.execute f.tx.id o σ = .ok (st, σ)) :
    ({ f with rest := more, staging := st } : InFlight).Live t σ := by
  obtain ⟨-, hd⟩ := hs.advance hr st
  refine ⟨?_, ?_⟩
  · rw [hd]
    intro o' ho' hl
    rcases List.mem_append.mp ho' with ho' | ho'
    · exact h.covered o' ho' hl
    · rw [List.mem_singleton.mp ho'] at hl ⊢
      exact hc hl
  · rw [hd, Staging.executeAll_append h.staged]
    exact Staging.executeAll_singleton hst

end InFlight

namespace LockTable

variable {t t' : LockTable} {o : Operation} {g : Bool}

theorem request_ok (hl : o.requiresLock = true) : ∃ g t', t.request o = .ok (g, t') := by
  unfold LockTable.request
  cases hlk : o.lock? with
  | none =>
    rw [(Operation.lock?_eq_none_iff o).mp hlk] at hl
    cases hl
  | some l =>
    by_cases ha : t.allows l = true
    · exact ⟨true, t.grant l, by simp [ha]⟩
    · exact ⟨false, t.enqueue o, by simp [ha]⟩

theorem keeps_request {u : TxId} (hr : t.request o = .ok (g, t')) (hu : o.tx ≠ u) :
    t.Keeps t' u where
  covers _ _ hc := hc.request hr
  doomed hd := by
    refine ⟨fun i l hl hown => ?_, fun i o' ho' hown => ?_⟩
    · rcases owner_request hr hl with ⟨l₀, hl₀, he⟩ | he
      · exact hd.1 i l₀ hl₀ (he.trans hown)
      · exact hu (he.symm.trans hown)
    · rcases waiter_request hr ho' with ho' | rfl
      · exact hd.2 i o' ho' hown
      · exact hu hown
  waitsNone hw i o' ho' hown := by
    rcases waiter_request hr ho' with ho' | rfl
    · exact hw i o' ho' hown
    · exact hu hown
  queued o' _ ho' := by
    cases g with
    | true =>
      rw [queue_request_granted hr]
      exact ho'
    | false =>
      rw [(request_refused hr).2]
      split
      · exact List.mem_append_left _ ho'
      · exact ho'

end LockTable

theorem Coordinator.request_of_ok {ε : Type} {c : Coordinator ε} {o : Operation} {g : Bool}
    {t' : LockTable} (hr : c.table.request o = .ok (g, t')) :
    c.request o = (g, { c with table := t' }) := by
  unfold Coordinator.request
  rw [hr]

namespace System

variable {σ : Store} {sys : System} {s : SiteId} {f : InFlight} {p : Proc} {w : World}
  {ns : List (Notice Unit)} {c : Option Transaction}

theorem Agrees.congr {store : Store} {W W' : String → Int → Prop} (h : Agrees σ store W)
    (hW : ∀ i v, W' i v ↔ W i v) : Agrees σ store W' :=
  { h with
    written := fun i v hw => h.written i v ((hW i v).mp hw)
    unwritten := fun i hn => h.unwritten i fun v hw => hn v ((hW i v).mpr hw) }

theorem writes_setProc {P : List (Notice Unit)}
    (hW : ∀ i v, p.phase.Written i v ↔ (sys.procs s).phase.Written i v) (i : String) (v : Int) :
    Writes { sys with world := w, procs := sys.setProc s p, pending := P } i v ↔ Writes sys i v := by
  constructor
  · rintro ⟨s', hs', hw⟩
    refine ⟨s', hs', ?_⟩
    by_cases he : s' = s
    · subst he
      exact (hW i v).mp (by simpa only [setProc_self] using hw)
    · simpa only [setProc_ne _ _ he] using hw
  · rintro ⟨s', hs', hw⟩
    refine ⟨s', hs', ?_⟩
    by_cases he : s' = s
    · subst he
      simpa only [setProc_self] using (hW i v).mpr hw
    · simpa only [setProc_ne _ _ he] using hw

/-- What a commit in progress has staged is on an item its transaction holds a lock on: an
exclusive lock, or else the value is the serial one. -/
theorem Inv.committer (h : Inv σ sys) (hs : s ∈ sys.sites) {rest : List (String × Int)}
    (hp : (sys.procs s).phase = .commit f rest) {i : String} {v : Int}
    (hv : (i, v) ∈ f.staging.toCommit.entries) :
    ∃ l ∈ sys.world.coord.table.holders i, l.owner = f.tx.id ∧
      (l.mode.isExclusive = true ∨ v = σ.value i) := by
  have hsi := h.site s hs
  rw [hp] at hsi
  obtain ⟨-, hlive, -, -⟩ := hsi
  have hsh := h.shaped s hs f (by rw [hp]; rfl)
  exact hlive.locked hsh h.agrees.serialBudget (hlive.sorted.mem_entries_iff.mp hv)

theorem not_exclusive_of_shared {t : LockTable} (hwf : t.WellFormed) {i : String} {l l' : Lock}
    (hl : l ∈ t.holders i) (hl' : l' ∈ t.holders i) (hne : l'.owner ≠ l.owner) :
    l.mode.isExclusive = false := by
  cases hx : l.mode.isExclusive
  · rfl
  · exact absurd ((hwf.locks i).exclusive l hl hx l' hl') hne

/-- The value a commit in progress wrote on an item another transaction holds a lock on is the
serial one. -/
theorem Inv.written_serial (h : Inv σ sys) (hs : s ∈ sys.sites) {rest : List (String × Int)}
    (hp : (sys.procs s).phase = .commit f rest) {i : String} {v : Int}
    (hv : (i, v) ∈ f.staging.toCommit.entries) {l : Lock}
    (hl : l ∈ sys.world.coord.table.holders i) (hne : l.owner ≠ f.tx.id) : v = σ.value i := by
  obtain ⟨l', hl', hown, hex | hval⟩ := h.committer hs hp hv
  · rw [not_exclusive_of_shared h.wellFormed hl' hl (hown ▸ hne)] at hex
    cases hex
  · exact hval

/-- An item that a transaction holds a lock on has its serial value in the store, unless a
commit of that same transaction is writing. -/
theorem Inv.value_eq (h : Inv σ sys) {i : String} {l : Lock}
    (hl : l ∈ sys.world.coord.table.holders i)
    (hnc : ∀ f rest, (sys.procs (siteOf l.owner)).phase ≠ .commit f rest) :
    sys.world.store.value i = σ.value i := by
  by_cases hw : ∃ v, sys.Writes i v
  · obtain ⟨v, s', hs', hwr⟩ := hw
    cases hp : (sys.procs s').phase with
    | commit f' rest' =>
      rw [hp] at hwr
      obtain ⟨hmem, hrest⟩ := hwr
      have hne : l.owner ≠ f'.tx.id := by
        intro he
        have hsite : siteOf l.owner = s' := by
          rw [he]
          exact (h.shaped s' hs' f' (by rw [hp]; rfl)).atSite.site
        exact hnc f' rest' (by rw [hsite, hp])
      have hget : sys.world.store.items.get? i = some v :=
        h.agrees.written i v ⟨s', hs', by rw [hp]; exact ⟨hmem, hrest⟩⟩
      rw [Store.value, hget, Option.getD_some]
      exact h.written_serial hs' hp hmem hl hne
    | _ => rw [hp] at hwr; exact hwr.elim
  · have hnone : ∀ v, ¬ sys.Writes i v := fun v hv => hw ⟨v, hv⟩
    rw [Store.value, Store.value, h.agrees.unwritten i hnone]

/-! ### Steps that touch only the agent's own site -/

/-- A step of the agent of `s` that leaves the table, the store and the pending calls as they
are, and changes no other site's control block. -/
theorem Inv.local (h : Inv σ sys) (hs : s ∈ sys.sites) {σ' : Store}
    (hcoord : w.coord = sys.world.coord)
    (hctl : ∀ s', s' ≠ s → w.control s' = sys.world.control s')
    (hhas : ∀ s', sys.world.HasControl s' → w.HasControl s')
    (hσ : ∀ s' ∈ sys.sites, s' ≠ s → SiteInv sys.world.coord.table σ' (sys.world.control s')
      (Notice.wakeups sys.pending s') (sys.procs s').phase)
    (hsite : SiteInv sys.world.coord.table σ' (w.control s) (Notice.wakeups sys.pending s) p.phase)
    (hshape : ∀ f, p.phase.inFlight? = some f → f.Shaped s)
    (hqueue : ∀ t ∈ p.queue, t.AtSite s)
    (hholder : ∀ i, ∀ l ∈ sys.world.coord.table.holders i, siteOf l.owner = s →
      p.phase.holder? = some l.owner)
    (hquiet : ∀ i, ∀ o ∈ sys.world.coord.table.queue i, siteOf o.tx ≠ s)
    (hagrees : Agrees σ' w.store (Writes { sys with world := w, procs := sys.setProc s p })) :
    Inv σ' { sys with world := w, procs := sys.setProc s p } where
  wellFormed := by simpa only [hcoord] using h.wellFormed
  nodup := by simpa only [hcoord] using h.nodup
  bound := by simpa only [hcoord] using h.bound
  hasControl s' hs' := hhas s' (h.hasControl s' hs')
  pending := h.pending
  queue s' hs' := by
    by_cases he : s' = s
    · subst he
      simpa only [setProc_self] using hqueue
    · simpa only [setProc_ne _ _ he] using h.queue s' hs'
  shaped s' hs' := by
    by_cases he : s' = s
    · subst he
      simpa only [setProc_self] using hshape
    · simpa only [setProc_ne _ _ he] using h.shaped s' hs'
  site s' hs' := by
    by_cases he : s' = s
    · subst he
      simpa only [hcoord, setProc_self] using hsite
    · simpa only [hcoord, setProc_ne _ _ he, hctl s' he] using hσ s' hs' he
  owners i l hl := by
    simp only [hcoord] at hl
    refine ⟨(h.owners i l hl).1, ?_⟩
    by_cases he : siteOf l.owner = s
    · simpa only [he, setProc_self] using hholder i l hl he
    · simpa only [setProc_ne _ _ he] using (h.owners i l hl).2
  waiters i o ho := by
    simp only [hcoord] at ho
    obtain ⟨hsite', f, hf, hhead⟩ := h.waiters i o ho
    exact ⟨hsite', f, by simpa only [setProc_ne _ _ (hquiet i o ho)] using hf, hhead⟩
  agrees := hagrees

theorem Inv.holder_same (h : Inv σ sys)
    (hhold : ∀ u, (sys.procs s).phase.holder? = some u → p.phase.holder? = some u) :
    ∀ i, ∀ l ∈ sys.world.coord.table.holders i, siteOf l.owner = s →
      p.phase.holder? = some l.owner :=
  fun _ _ hl he => hhold _ (h.holder_of_lock hl he)

theorem Inv.no_lock (h : Inv σ sys) (hnone : (sys.procs s).phase.holder? = none) :
    ∀ i, ∀ l ∈ sys.world.coord.table.holders i, siteOf l.owner ≠ s := by
  intro i l hl he
  rw [h.holder_of_lock hl he] at hnone
  cases hnone

theorem Inv.shaped_keep (h : Inv σ sys) (hs : s ∈ sys.sites) {q : Phase}
    (hq : q.inFlight? = (sys.procs s).phase.inFlight?) : ∀ f, q.inFlight? = some f → f.Shaped s :=
  fun f hf => h.shaped s hs f (hq ▸ hf)

theorem Inv.holder_keep (h : Inv σ sys) {q : Phase} (hq : q.holder? = (sys.procs s).phase.holder?) :
    ∀ i, ∀ l ∈ sys.world.coord.table.holders i, siteOf l.owner = s → q.holder? = some l.owner :=
  fun _ _ hl he => hq ▸ h.holder_of_lock hl he

theorem written_quiet {q q' : Phase} (hq : ∀ i v, ¬ q.Written i v) (hq' : ∀ i v, ¬ q'.Written i v)
    (i : String) (v : Int) : q.Written i v ↔ q'.Written i v :=
  iff_of_false (hq i v) (hq' i v)

theorem Phase.written_cases {q : Phase} {i : String} {v : Int} (hw : q.Written i v) :
    ∃ f rest, q = .commit f rest ∧ (i, v) ∈ f.staging.toCommit.entries ∧ (i, v) ∉ rest := by
  cases q with
  | commit f rest => exact ⟨f, rest, rfl, hw⟩
  | _ => exact hw.elim

theorem Inv.no_waiter_of_wait (h : Inv σ sys) (hs : s ∈ sys.sites)
    (hph : (sys.procs s).phase = .wait f) (hw : sys.world.coord.table.WaitsNone f.tx.id) :
    ∀ i, ∀ o ∈ sys.world.coord.table.queue i, siteOf o.tx ≠ s := by
  intro i o ho he
  obtain ⟨f', hf', hhead⟩ := (h.waiters i o ho).2
  rw [he, hph] at hf'
  cases hf'
  exact hw i o ho ((h.shaped_at hs hph rfl).tx_of_head hhead)

theorem Inv.tx_ne (h : Inv σ sys) {s' : SiteId} {f' : InFlight} (hs : s ∈ sys.sites)
    (hs' : s' ∈ sys.sites) (hne : s' ≠ s) (hf : (sys.procs s).phase.inFlight? = some f)
    (hf' : (sys.procs s').phase.inFlight? = some f') : f'.tx.id ≠ f.tx.id := by
  intro he
  apply hne
  rw [← (h.shaped s' hs' f' hf').atSite.site, he, (h.shaped s hs f hf).atSite.site]

section Local

variable (h : Inv σ sys) (hs : s ∈ sys.sites)
include h hs

/-- A step of the agent of `s` that only sets the state of its site. -/
theorem Inv.local_setState (st : SiteState)
    (hsite : SiteInv sys.world.coord.table σ { sys.world.control s with state := st }
      (Notice.wakeups sys.pending s) p.phase)
    (hshape : ∀ f, p.phase.inFlight? = some f → f.Shaped s)
    (hqueue : ∀ t ∈ p.queue, t.AtSite s)
    (hholder : ∀ i, ∀ l ∈ sys.world.coord.table.holders i, siteOf l.owner = s →
      p.phase.holder? = some l.owner)
    (hquiet : ∀ i, ∀ o ∈ sys.world.coord.table.queue i, siteOf o.tx ≠ s)
    (hW : ∀ i v, p.phase.Written i v ↔ (sys.procs s).phase.Written i v) :
    Inv σ { sys with world := sys.world.setState s st, procs := sys.setProc s p } := by
  have hc := World.control_setState (h.hasControl s hs) st
  refine h.local hs rfl (fun s' hne => ?_) (fun s' => (World.hasControl_setState st).mpr)
    (fun s' hs' _ => h.site s' hs') ?_ hshape hqueue hholder hquiet (h.agrees.congr (writes_setProc hW))
  · rw [hc, if_neg (Ne.symm hne)]
  · rw [hc, if_pos rfl]
    exact hsite

/-- A step of the agent of `s` that only reads and clears the abort flag of its site. -/
theorem Inv.local_takeAbort
    (hsite : SiteInv sys.world.coord.table σ { sys.world.control s with abortRequested := false }
      (Notice.wakeups sys.pending s) p.phase)
    (hshape : ∀ f, p.phase.inFlight? = some f → f.Shaped s)
    (hqueue : ∀ t ∈ p.queue, t.AtSite s)
    (hholder : ∀ i, ∀ l ∈ sys.world.coord.table.holders i, siteOf l.owner = s →
      p.phase.holder? = some l.owner)
    (hquiet : ∀ i, ∀ o ∈ sys.world.coord.table.queue i, siteOf o.tx ≠ s)
    (hW : ∀ i v, p.phase.Written i v ↔ (sys.procs s).phase.Written i v) :
    Inv σ { sys with world := (sys.world.takeAbort s).2, procs := sys.setProc s p } := by
  have hc := World.control_takeAbort (h.hasControl s hs)
  refine h.local hs rfl (fun s' hne => ?_) (fun s' => World.hasControl_takeAbort.mpr)
    (fun s' hs' _ => h.site s' hs') ?_ hshape hqueue hholder hquiet (h.agrees.congr (writes_setProc hW))
  · rw [hc, if_neg (Ne.symm hne)]
  · rw [hc, if_pos rfl]
    exact hsite

end Local

/-! ### Steps that change the table or the store -/

/-- A lock request: granted, the agent goes on with the lock; refused, its operation joins the
queue and the agent waits. -/
theorem Inv.request (h : Inv σ sys) (hs : s ∈ sys.sites) (hph : (sys.procs s).phase = .request f)
    {o : Operation} {g : Bool} {t' : LockTable} (hhead : f.rest.head? = some o)
    (hreq : sys.world.coord.table.request o = .ok (g, t')) :
    Inv σ
      { sys with
        world := { sys.world with coord := { sys.world.coord with table := t' } }
        procs := sys.setProc s { sys.procs s with phase := if g then .granted f else .wait f } } := by
  have hsi := h.site_at hs hph
  obtain ⟨hws, hflag, hblocked, hlive, -⟩ := hsi
  have hsh : f.Shaped s := h.shaped_at hs hph rfl
  have hos : siteOf o.tx = s := by rw [hsh.tx_of_head hhead]; exact hsh.atSite.site
  have hquiet := h.no_waiter (s := s) (by rw [hph]; rfl)
  have hnew : o ∉ sys.world.coord.table.queue o.item := fun ho => hquiet _ o ho hos
  have hcov : ∀ o' : Operation, o'.tx = f.tx.id → sys.world.coord.table.Covers o' → t'.Covers o' :=
    fun o' _ hc => hc.request hreq
  have hinf : ∀ f', (if g then Phase.granted f else .wait f).inFlight? = some f' → f' = f := by
    intro f' hf'
    cases g <;> exact (Option.some.inj hf').symm
  have hhold : (if g then Phase.granted f else .wait f).holder? = some f.tx.id := by cases g <;> rfl
  constructor
  · exact h.wellFormed.request hreq
  · intro i
    show (t'.queue i).Nodup
    cases g with
    | true =>
      rw [LockTable.queue_request_granted hreq]
      exact h.nodup i
    | false =>
      rw [(LockTable.request_refused hreq).2]
      split
      · rename_i hi
        subst hi
        refine List.nodup_append.mpr ⟨h.nodup _, List.nodup_cons.mpr ⟨List.not_mem_nil, .nil⟩, ?_⟩
        intro a ha b hb
        rw [List.mem_singleton] at hb
        subst hb
        rintro rfl
        exact hnew ha
      · exact h.nodup i
  · exact h.bound
  · exact h.hasControl
  · exact h.pending
  · intro s' hs'
    by_cases he : s' = s
    · subst he
      simpa only [setProc_self] using h.queue s' hs'
    · simpa only [setProc_ne _ _ he] using h.queue s' hs'
  · intro s' hs'
    by_cases he : s' = s
    · subst he
      simp only [setProc_self]
      intro f' hf'
      rw [hinf f' hf']
      exact hsh
    · simpa only [setProc_ne _ _ he] using h.shaped s' hs'
  · intro s' hs'
    by_cases he : s' = s
    · subst he
      simp only [setProc_self]
      cases g with
      | true => exact ⟨hws, hflag, hlive.keeps hsh hcov, o, hhead, LockTable.covers_request_granted hreq⟩
      | false =>
        simp only [Bool.false_eq_true, if_false]
        rw [hws]
        refine WaitState.queued (hlive.keeps hsh hcov) hblocked hflag hhead ?_
        rw [(LockTable.request_refused hreq).2, if_pos rfl]
        exact List.mem_append_right _ (List.mem_singleton_self o)
    · simp only [setProc_ne _ _ he]
      refine (h.site s' hs').keeps (h.shaped s' hs') fun f' hf' => LockTable.keeps_request hreq ?_
      intro hof
      exact he (by rw [← (h.shaped s' hs' f' hf').atSite.site, ← hof, hos])
  · intro i l hl
    rcases LockTable.owner_request hreq hl with ⟨l₀, hl₀, hown⟩ | hown
    · obtain ⟨hsite, hholder⟩ := h.owners i l₀ hl₀
      rw [hown] at hsite hholder
      refine ⟨hsite, ?_⟩
      by_cases he : siteOf l.owner = s
      · rw [he] at hholder ⊢
        rw [hph] at hholder
        simp only [setProc_self, hhold]
        exact hholder
      · simpa only [setProc_ne _ _ he] using hholder
    · rw [hown, hos]
      refine ⟨hs, ?_⟩
      simp only [setProc_self, hhold]
      rw [hsh.tx_of_head hhead]
  · intro i o' ho'
    rcases LockTable.waiter_request hreq ho' with ho' | rfl
    · obtain ⟨hsite, f', hf', hhead'⟩ := h.waiters i o' ho'
      exact ⟨hsite, f', by simpa only [setProc_ne _ _ (hquiet i o' ho')] using hf', hhead'⟩
    · cases g with
      | true =>
        rw [LockTable.queue_request_granted hreq] at ho'
        exact absurd hos (hquiet i _ ho')
      | false =>
        refine ⟨hos ▸ hs, f, ?_, hhead⟩
        simp only [hos, setProc_self]
        rfl
  · refine h.agrees.congr (writes_setProc (written_quiet ?_ (by rw [hph]; exact fun _ _ => id)))
    cases g <;> exact fun _ _ => id

theorem Inv.commit_write (h : Inv σ sys) (hs : s ∈ sys.sites) {k : String} {v : Int}
    {more : List (String × Int)} (hph : (sys.procs s).phase = .commit f ((k, v) :: more)) :
    Inv σ
      { sys with
        world := { sys.world with
          store := { sys.world.store with items := sys.world.store.items.insert k v } }
        procs := sys.setProc s { sys.procs s with phase := .commit f more } } := by
  have hsi := h.site_at hs hph
  obtain ⟨hws, hlive, hrest, hsuf⟩ := hsi
  have hsorted := hlive.sorted
  have hmem : (k, v) ∈ f.staging.toCommit.entries := hsuf.subset List.mem_cons_self
  have hnot : (k, v) ∉ more := by
    have hpw : ((k, v) :: more).Pairwise fun a b => a.1 < b.1 :=
      List.Pairwise.sublist hsuf.sublist hsorted
    exact fun hm => String.lt_irrefl _ ((List.pairwise_cons.mp hpw).1 _ hm)
  -- another commit in progress that wrote `k` wrote the same value: the serial one
  have hagree : ∀ s' ∈ sys.sites, s' ≠ s → ∀ v', (sys.procs s').phase.Written k v' → v' = v := by
    intro s' hs' hne v' hw
    obtain ⟨f', rest', hph', hmem', -⟩ := Phase.written_cases hw
    have hne' := h.tx_ne hs hs' hne (show (sys.procs s).phase.inFlight? = some f by rw [hph]; rfl)
      (show (sys.procs s').phase.inFlight? = some f' by rw [hph']; rfl)
    obtain ⟨l, hl, hown, -⟩ := h.committer hs hph hmem
    obtain ⟨l', hl', hown', -⟩ := h.committer hs' hph' hmem'
    rw [h.written_serial hs' hph' hmem' hl (hown ▸ hne'.symm),
      h.written_serial hs hph hmem hl' (hown' ▸ hne')]
  have hW : ∀ i v', (Phase.commit f more).Written i v' ↔
      (sys.procs s).phase.Written i v' ∨ (i = k ∧ v' = v) := by
    intro i v'
    rw [hph]
    simp only [Phase.Written, List.mem_cons, Prod.mk.injEq, not_or]
    constructor
    · rintro ⟨hm, hn⟩
      by_cases hik : i = k ∧ v' = v
      · exact .inr hik
      · exact .inl ⟨hm, hik, hn⟩
    · rintro (⟨hm, -, hn⟩ | ⟨rfl, rfl⟩)
      · exact ⟨hm, hn⟩
      · exact ⟨hmem, hnot⟩
  refine h.local hs rfl (fun _ _ => rfl) (fun _ h' => h') (fun s' hs' _ => h.site s' hs')
    ⟨hws, hlive, hrest, (List.suffix_cons _ _).trans hsuf⟩ (h.shaped_keep hs (by rw [hph]; rfl))
    (h.queue s hs) (h.holder_keep (by rw [hph]; rfl)) (h.no_waiter (by rw [hph]; rfl)) ?_
  refine { h.agrees with sorted := h.agrees.sorted.insert k v, written := ?_, unwritten := ?_ }
  · rintro i v' ⟨s', hs', hw⟩
    show (sys.world.store.items.insert k v).get? i = some v'
    rw [ItemMap.get?_insert]
    by_cases he : s' = s
    · subst he
      simp only [setProc_self] at hw
      rcases (hW i v').mp hw with hw | ⟨rfl, rfl⟩
      · split
        · rename_i hki
          subst hki
          rw [hph] at hw
          rw [← hsorted.mem_entries_iff.mp hmem, ← hsorted.mem_entries_iff.mp hw.1]
        · exact h.agrees.written i v' ⟨s', hs', hw⟩
      · simp
    · simp only [setProc_ne _ _ he] at hw
      split
      · rename_i hki
        subst hki
        rw [hagree s' hs' he v' hw]
      · exact h.agrees.written i v' ⟨s', hs', hw⟩
  · intro i hn
    show (sys.world.store.items.insert k v).get? i = σ.items.get? i
    rw [ItemMap.get?_insert]
    split
    · rename_i hki
      subst hki
      exact absurd ⟨s, hs, by simpa only [setProc_self] using (hW k v).mpr (.inr ⟨rfl, rfl⟩)⟩ (hn v)
    · refine h.agrees.unwritten i fun v' ⟨s', hs', hw⟩ => hn v' ⟨s', hs', ?_⟩
      by_cases he : s' = s
      · subst he
        simpa only [setProc_self] using (hW i v').mpr (.inl hw)
      · simpa only [setProc_ne _ _ he] using hw

/-- The step that finishes a commit: the serial store moves past the committed transaction, and
every other transaction in flight still reads in it what it read before, since a lock protects
each item it read. -/
theorem Inv.commit_done (h : Inv σ sys) (hs : s ∈ sys.sites) (hph : (sys.procs s).phase = .commit f []) :
    ∃ σ', Transaction.runSerially [f.tx] σ = .ok σ' ∧
      Inv σ' { sys with procs := sys.setProc s { sys.procs s with phase := .release f .committed } } := by
  have hsi := h.site_at hs hph
  obtain ⟨hws, hlive, hrest, -⟩ := hsi
  have hsh : f.Shaped s := h.shaped_at hs hph rfl
  have hb := h.agrees.serialBudget
  have hb' : (σ.putAll f.staging.toCommit.entries).budget = none := hb
  have hrun : f.tx.runAlone σ = .ok (σ.putAll f.staging.toCommit.entries) := by
    refine Transaction.runAlone_of_executeAll hb ?_
    rw [← hsh.done_of_nil hrest]
    exact hlive.staged
  have hget : ∀ i, (∀ v, (i, v) ∉ f.staging.toCommit.entries) →
      (σ.putAll f.staging.toCommit.entries).items.get? i = σ.items.get? i :=
    fun i hi => ItemMap.get?_foldl_insert_of_not_mem _ _ hi
  have hget' : ∀ i v, (i, v) ∈ f.staging.toCommit.entries →
      (σ.putAll f.staging.toCommit.entries).items.get? i = some v :=
    fun i v hv => ItemMap.get?_foldl_insert_of_mem _ hlive.sorted hv
  -- an item another transaction holds a lock on keeps its serial value
  have hvalue : ∀ i, ∀ l ∈ sys.world.coord.table.holders i, l.owner ≠ f.tx.id →
      (σ.putAll f.staging.toCommit.entries).value i = σ.value i := by
    intro i l hl hne
    by_cases hi : ∃ v, (i, v) ∈ f.staging.toCommit.entries
    · obtain ⟨v, hv⟩ := hi
      rw [Store.value, hget' i v hv, Option.getD_some]
      exact h.written_serial hs hph hv hl hne
    · rw [Store.value, Store.value, hget i fun v hv => hi ⟨v, hv⟩]
  refine ⟨_, by rw [Transaction.runSerially, hrun]; rfl, ?_⟩
  refine h.local hs rfl (fun _ _ => rfl) (fun _ h' => h') ?_ hws
    (h.shaped_keep hs (by rw [hph]; rfl)) (h.queue s hs) (h.holder_keep (by rw [hph]; rfl))
    (h.no_waiter (by rw [hph]; rfl)) ?_
  · -- every other transaction in flight stays live against the new serial store
    intro s' hs' hne
    refine (h.site s' hs').mono (h.shaped s' hs') (fun f' _ => LockTable.Keeps.refl _ _) ?_
    intro f' hf' hlive'
    have hsh' := h.shaped s' hs' f' hf'
    refine ⟨hlive'.covered, Staging.executeAll_congr hb hb' (fun o ho hk => ?_) hlive'.staged⟩
    have hl : o.requiresLock = true := by simp [Operation.requiresLock, hk]
    obtain ⟨l, hl', hown, -, -⟩ := (hlive'.covered o ho hl).exists_lock
    refine (hvalue o.item l hl' ?_).symm
    rw [hown, hsh'.tx_of_mem (.inl ho)]
    exact h.tx_ne hs hs' hne (by rw [hph]; rfl) hf'
  · refine { h.agrees with
      serialBudget := hb'
      failure := h.agrees.failure
      serialSorted := h.agrees.serialSorted.foldl_insert _
      written := ?_
      unwritten := ?_ }
    · rintro i v ⟨s', hs', hw⟩
      refine h.agrees.written i v ⟨s', hs', ?_⟩
      by_cases he : s' = s
      · subst he
        simp only [setProc_self] at hw
        exact hw.elim
      · simpa only [setProc_ne _ _ he] using hw
    · intro i hn
      by_cases hi : ∃ v, (i, v) ∈ f.staging.toCommit.entries
      · obtain ⟨v, hv⟩ := hi
        rw [hget' i v hv]
        exact h.agrees.written i v ⟨s, hs, by rw [hph]; exact ⟨hv, List.not_mem_nil⟩⟩
      · rw [hget i fun v hv => hi ⟨v, hv⟩]
        refine h.agrees.unwritten i fun v hw' => ?_
        obtain ⟨s', hs', hw⟩ := hw'
        by_cases he : s' = s
        · subst he
          rw [hph] at hw
          exact hi ⟨v, hw.1⟩
        · exact hn v ⟨s', hs', by simpa only [setProc_ne _ _ he] using hw⟩

/-! ### One lemma per phase -/

section Phases

variable (h : Inv σ sys) (hs : s ∈ sys.sites)
  (hstep : (sys.procs s).step s sys.world = some (p, w, ns, c))
include h hs hstep

theorem Inv.step_next (hph : (sys.procs s).phase = .next) :
    ∃ σ', Transaction.runSerially c.toList σ = .ok σ' ∧
      Inv σ' { sys with world := w, procs := sys.setProc s p, pending := sys.pending ++ ns } := by
  have hws : Notice.wakeups sys.pending s = [] := h.site_at hs hph
  have hfree := h.no_lock (s := s) (by rw [hph]; rfl)
  have hquiet := h.no_waiter (s := s) (by rw [hph]; rfl)
  have hW : ∀ (q : Phase), q.Written = Phase.Written .next → ∀ i v,
      q.Written i v ↔ (sys.procs s).phase.Written i v := fun q hq i v => by rw [hph, hq]
  unfold Proc.step at hstep
  rw [hph] at hstep
  cases hq : (sys.procs s).queue with
  | nil =>
    rw [hq] at hstep
    simp only [Option.some.injEq, Prod.mk.injEq] at hstep
    obtain ⟨rfl, rfl, rfl, rfl⟩ := hstep
    refine ⟨σ, rfl, ?_⟩
    rw [List.append_nil]
    exact h.local_setState hs .idle hws (fun f hf => by cases hf) (fun t ht => by cases ht)
      (fun i l hl he => absurd he (hfree i l hl)) hquiet (hW .idle rfl)
  | cons t ts =>
    rw [hq] at hstep
    simp only [Option.some.injEq, Prod.mk.injEq] at hstep
    obtain ⟨rfl, rfl, rfl, rfl⟩ := hstep
    have ht : t.AtSite s := h.queue s hs t (by rw [hq]; exact List.mem_cons_self)
    refine ⟨σ, rfl, ?_⟩
    rw [List.append_nil]
    refine h.local_takeAbort hs ⟨hws, rfl, InFlight.live_start _ _ t⟩ ?_
      (fun t' ht' => h.queue s hs t' (by rw [hq]; exact List.mem_cons_of_mem _ ht'))
      (fun i l hl he => absurd he (hfree i l hl)) hquiet (hW (.begin _) rfl)
    intro f hf
    cases hf
    exact ⟨ht, List.suffix_refl _⟩

theorem Inv.step_begin (hph : (sys.procs s).phase = .begin f) :
    ∃ σ', Transaction.runSerially c.toList σ = .ok σ' ∧
      Inv σ' { sys with world := w, procs := sys.setProc s p, pending := sys.pending ++ ns } := by
  have hsi := h.site_at hs hph
  obtain ⟨hws, hflag, hlive⟩ := hsi
  have hsh : f.Shaped s := h.shaped_at hs hph rfl
  unfold Proc.step at hstep
  rw [hph] at hstep
  simp only [Option.some.injEq, Prod.mk.injEq] at hstep
  obtain ⟨rfl, rfl, rfl, rfl⟩ := hstep
  refine ⟨σ, rfl, ?_⟩
  rw [List.append_nil]
  have hfree := h.no_lock (s := s) (by rw [hph]; rfl)
  exact h.local_setState hs .running ⟨hws, hflag, hlive⟩ (fun f' hf' => by cases hf'; exact hsh)
    (h.queue s hs) (fun i l hl he => absurd he (hfree i l hl))
    (h.no_waiter (by rw [hph]; rfl)) (fun i v => by rw [hph]; exact Iff.rfl)

theorem Inv.step_check (hph : (sys.procs s).phase = .check f) :
    ∃ σ', Transaction.runSerially c.toList σ = .ok σ' ∧
      Inv σ' { sys with world := w, procs := sys.setProc s p, pending := sys.pending ++ ns } := by
  have hsi := h.site_at hs hph
  obtain ⟨hws, hflag, hlive⟩ := hsi
  have hsh : f.Shaped s := h.shaped_at hs hph rfl
  unfold Proc.step at hstep
  rw [hph, World.takeAbort_eq_pair, hflag] at hstep
  simp only [Option.some.injEq, Prod.mk.injEq, Bool.false_eq_true, if_false] at hstep
  obtain ⟨rfl, rfl, rfl, rfl⟩ := hstep
  refine ⟨σ, rfl, ?_⟩
  rw [List.append_nil]
  -- the phase after the check follows the operations left
  have hshape : ∀ q : Phase, q.inFlight? = some f → ∀ f', q.inFlight? = some f' → f'.Shaped s :=
    fun q hq f' hf' => by rw [hq] at hf'; cases hf'; exact hsh
  have hholder : ∀ q : Phase, q.holder? = some f.tx.id → ∀ u,
      (sys.procs s).phase.holder? = some u → q.holder? = some u :=
    fun q hq u hu => by rw [hph] at hu; rw [hq]; exact hu
  have hW : ∀ q : Phase, (∀ i v, ¬ q.Written i v) → ∀ i v,
      q.Written i v ↔ (sys.procs s).phase.Written i v :=
    fun q hq i v => by rw [hph]; exact iff_of_false (hq i v) id
  cases hr : f.rest with
  | nil =>
    refine h.local_takeAbort hs ⟨hws, hlive, hr, List.suffix_refl _⟩ (hshape _ rfl) (h.queue s hs)
      (h.holder_same (hholder _ rfl)) (h.no_waiter (by rw [hph]; rfl)) (hW _ ?_)
    intro i v hw
    exact hw.2 hw.1
  | cons o more =>
    have hhead : f.rest.head? = some o := by rw [hr]; rfl
    by_cases hl : o.requiresLock = true
    · simp only [hl, if_true]
      exact h.local_takeAbort hs ⟨hws, rfl, hlive, o, hhead, hl⟩ (hshape _ rfl) (h.queue s hs)
        (h.holder_same (hholder _ rfl)) (h.no_waiter (by rw [hph]; rfl)) (hW _ fun _ _ => id)
    · simp only [hl, Bool.false_eq_true, if_false]
      refine h.local_takeAbort hs ⟨hws, rfl, hlive, fun o' ho' hl' => ?_⟩ (hshape _ rfl)
        (h.queue s hs) (h.holder_same (hholder _ rfl)) (h.no_waiter (by rw [hph]; rfl))
        (hW _ fun _ _ => id)
      rw [hhead] at ho'
      cases ho'
      exact absurd hl' hl

theorem Inv.step_block (hph : (sys.procs s).phase = .block f) :
    ∃ σ', Transaction.runSerially c.toList σ = .ok σ' ∧
      Inv σ' { sys with world := w, procs := sys.setProc s p, pending := sys.pending ++ ns } := by
  have hsi := h.site_at hs hph
  obtain ⟨hws, hflag, hlive, hhead⟩ := hsi
  unfold Proc.step at hstep
  rw [hph] at hstep
  simp only [Option.some.injEq, Prod.mk.injEq] at hstep
  obtain ⟨rfl, rfl, rfl, rfl⟩ := hstep
  refine ⟨σ, rfl, ?_⟩
  rw [List.append_nil]
  exact h.local_setState hs .blocked ⟨hws, hflag, rfl, hlive, hhead⟩
    (h.shaped_keep hs (by rw [hph]; rfl)) (h.queue s hs) (h.holder_keep (by rw [hph]; rfl))
    (h.no_waiter (by rw [hph]; rfl)) (written_quiet (fun _ _ => id) (by rw [hph]; exact fun _ _ => id))

theorem Inv.step_granted (hph : (sys.procs s).phase = .granted f) :
    ∃ σ', Transaction.runSerially c.toList σ = .ok σ' ∧
      Inv σ' { sys with world := w, procs := sys.setProc s p, pending := sys.pending ++ ns } := by
  have hsi := h.site_at hs hph
  obtain ⟨hws, hflag, hlive, hcov⟩ := hsi
  unfold Proc.step at hstep
  rw [hph] at hstep
  simp only [Option.some.injEq, Prod.mk.injEq] at hstep
  obtain ⟨rfl, rfl, rfl, rfl⟩ := hstep
  refine ⟨σ, rfl, ?_⟩
  rw [List.append_nil]
  exact h.local_setState hs .running ⟨hws, .inl ⟨hflag, hlive, hcov⟩⟩
    (h.shaped_keep hs (by rw [hph]; rfl)) (h.queue s hs) (h.holder_keep (by rw [hph]; rfl))
    (h.no_waiter (by rw [hph]; rfl)) (written_quiet (fun _ _ => id) (by rw [hph]; exact fun _ _ => id))

theorem Inv.step_wait (hph : (sys.procs s).phase = .wait f) :
    ∃ σ', Transaction.runSerially c.toList σ = .ok σ' ∧
      Inv σ' { sys with world := w, procs := sys.setProc s p, pending := sys.pending ++ ns } := by
  have hsi := h.site_at hs hph
  unfold Proc.step at hstep
  rw [hph] at hstep
  dsimp only at hstep
  split at hstep
  · cases hstep
  · rename_i hnb
    simp only [Option.some.injEq, Prod.mk.injEq] at hstep
    obtain ⟨rfl, rfl, rfl, rfl⟩ := hstep
    obtain ⟨hws, hstate⟩ := hsi.running hnb
    have hwaits : sys.world.coord.table.WaitsNone f.tx.id := by
      rcases hstate with ⟨-, -, -, hw⟩ | ⟨-, hd⟩
      · exact hw
      · exact hd.2
    refine ⟨σ, rfl, ?_⟩
    rw [List.append_nil]
    refine h.local hs rfl (fun _ _ => rfl) (fun _ h' => h') (fun s' hs' _ => h.site s' hs') ?_
      (h.shaped_keep hs (by rw [hph]; rfl)) (h.queue s hs) (h.holder_keep (by rw [hph]; rfl))
      (h.no_waiter_of_wait hs hph hwaits)
      (h.agrees.congr (writes_setProc (written_quiet (fun _ _ => id)
        (by rw [hph]; exact fun _ _ => id))))
    rcases hstate with ⟨hflag, hlive, hcov, -⟩ | ⟨hflag, hd⟩
    · exact ⟨hws, .inl ⟨hflag, hlive, hcov⟩⟩
    · exact ⟨hws, .inr ⟨hflag, hd⟩⟩

theorem Inv.step_recheck (hph : (sys.procs s).phase = .recheck f) :
    ∃ σ', Transaction.runSerially c.toList σ = .ok σ' ∧
      Inv σ' { sys with world := w, procs := sys.setProc s p, pending := sys.pending ++ ns } := by
  have hsi := h.site_at hs hph
  obtain ⟨hws, hstate⟩ := hsi
  unfold Proc.step at hstep
  rw [hph, World.takeAbort_eq_pair] at hstep
  simp only [Option.some.injEq, Prod.mk.injEq] at hstep
  obtain ⟨rfl, rfl, rfl, rfl⟩ := hstep
  refine ⟨σ, rfl, ?_⟩
  rw [List.append_nil]
  rcases hstate with ⟨hflag, hlive, hcov⟩ | ⟨hflag, hdoomed⟩
  · simp only [hflag, Bool.false_eq_true, if_false]
    exact h.local_takeAbort hs ⟨hws, rfl, hlive, hcov.headAllowed⟩
      (h.shaped_keep hs (by rw [hph]; rfl)) (h.queue s hs) (h.holder_keep (by rw [hph]; rfl))
      (h.no_waiter (by rw [hph]; rfl))
      (written_quiet (fun _ _ => id) (by rw [hph]; exact fun _ _ => id))
  · simp only [hflag, if_true]
    refine h.local_takeAbort hs hws (h.shaped_keep hs (by rw [hph]; rfl)) (h.queue s hs) ?_
      (h.no_waiter (by rw [hph]; rfl))
      (written_quiet (fun _ _ => id) (by rw [hph]; exact fun _ _ => id))
    -- the aborted transaction holds no lock any more
    intro i l hl he
    have hu := h.holder_of_lock hl he
    rw [hph] at hu
    exact absurd (Option.some.inj hu).symm (hdoomed.1 i l hl)

theorem Inv.step_execute (hph : (sys.procs s).phase = .execute f) :
    ∃ σ', Transaction.runSerially c.toList σ = .ok σ' ∧
      Inv σ' { sys with world := w, procs := sys.setProc s p, pending := sys.pending ++ ns } := by
  have hsi := h.site_at hs hph
  obtain ⟨hws, hflag, hlive, hallow⟩ := hsi
  have hsh : f.Shaped s := h.shaped_at hs hph rfl
  unfold Proc.step at hstep
  rw [hph] at hstep
  dsimp only at hstep
  cases hr : f.rest with
  | nil => rw [hr] at hstep; cases hstep
  | cons o more =>
    rw [hr] at hstep
    have hhead : f.rest.head? = some o := by rw [hr]; rfl
    dsimp only at hstep
    split at hstep
    · rename_i st store hex
      simp only [Option.some.injEq, Prod.mk.injEq] at hstep
      obtain ⟨rfl, rfl, rfl, rfl⟩ := hstep
      obtain rfl := Staging.execute_store h.agrees.budget hex
      -- a read sees the serial value of its item, which its lock protects
      have hv : o.kind = .read → sys.world.store.value o.item = σ.value o.item := by
        intro hk
        have hl : o.requiresLock = true := by simp [Operation.requiresLock, hk]
        obtain ⟨l, hl', hown, -, -⟩ := (hallow o hhead hl).exists_lock
        refine h.value_eq hl' fun f' rest' hc => ?_
        rw [hown, hsh.tx_of_head hhead, hsh.atSite.site, hph] at hc
        cases hc
      have hex' := Staging.execute_congr h.agrees.budget h.agrees.serialBudget hv hex
      refine ⟨σ, rfl, ?_⟩
      rw [List.append_nil]
      exact h.local hs rfl (fun _ _ => rfl) (fun _ h' => h') (fun s' hs' _ => h.site s' hs')
        ⟨hws, hflag, hlive.advance hsh hr (hallow o hhead) hex'⟩
        (fun f' hf' => by cases hf'; exact (hsh.advance hr st).1) (h.queue s hs)
        (h.holder_keep (by rw [hph]; rfl)) (h.no_waiter (by rw [hph]; rfl))
        (h.agrees.congr (writes_setProc (written_quiet (fun _ _ => id)
          (by rw [hph]; exact fun _ _ => id))))
    · simp only [Option.some.injEq, Prod.mk.injEq] at hstep
      obtain ⟨rfl, rfl, rfl, rfl⟩ := hstep
      refine ⟨σ, rfl, ?_⟩
      rw [List.append_nil]
      exact h.local hs rfl (fun _ _ => rfl) (fun _ h' => h') (fun s' hs' _ => h.site s' hs') hws
        (h.shaped_keep hs (by rw [hph]; rfl)) (h.queue s hs) (h.holder_keep (by rw [hph]; rfl))
        (h.no_waiter (by rw [hph]; rfl))
        (h.agrees.congr (writes_setProc (written_quiet (fun _ _ => id)
          (by rw [hph]; exact fun _ _ => id))))

theorem Inv.step_abandon (hph : (sys.procs s).phase = .abandon f) :
    ∃ σ', Transaction.runSerially c.toList σ = .ok σ' ∧
      Inv σ' { sys with world := w, procs := sys.setProc s p, pending := sys.pending ++ ns } := by
  have hws : Notice.wakeups sys.pending s = [] := h.site_at hs hph
  unfold Proc.step at hstep
  rw [hph] at hstep
  simp only [Option.some.injEq, Prod.mk.injEq] at hstep
  obtain ⟨rfl, rfl, rfl, rfl⟩ := hstep
  refine ⟨σ, rfl, ?_⟩
  rw [List.append_nil]
  exact h.local_setState hs .aborting hws (h.shaped_keep hs (by rw [hph]; rfl)) (h.queue s hs)
    (h.holder_keep (by rw [hph]; rfl)) (h.no_waiter (by rw [hph]; rfl))
    (written_quiet (fun _ _ => id) (by rw [hph]; exact fun _ _ => id))

theorem Inv.step_abandoned (hph : (sys.procs s).phase = .abandoned f) :
    ∃ σ', Transaction.runSerially c.toList σ = .ok σ' ∧
      Inv σ' { sys with world := w, procs := sys.setProc s p, pending := sys.pending ++ ns } := by
  have hws : Notice.wakeups sys.pending s = [] := h.site_at hs hph
  unfold Proc.step at hstep
  rw [hph] at hstep
  simp only [Option.some.injEq, Prod.mk.injEq] at hstep
  obtain ⟨rfl, rfl, rfl, rfl⟩ := hstep
  refine ⟨σ, rfl, ?_⟩
  rw [List.append_nil]
  exact h.local_setState hs .running hws (fun _ hf => by cases hf) (h.queue s hs)
    (h.holder_keep (by rw [hph]; rfl)) (h.no_waiter (by rw [hph]; rfl))
    (written_quiet (fun _ _ => id) (by rw [hph]; exact fun _ _ => id))

theorem Inv.step_request (hph : (sys.procs s).phase = .request f) :
    ∃ σ', Transaction.runSerially c.toList σ = .ok σ' ∧
      Inv σ' { sys with world := w, procs := sys.setProc s p, pending := sys.pending ++ ns } := by
  have hsi := h.site_at hs hph
  obtain ⟨-, -, -, -, o, hhead, hlock⟩ := hsi
  obtain ⟨g, t', hreq⟩ := LockTable.request_ok (t := sys.world.coord.table) hlock
  unfold Proc.step at hstep
  rw [hph] at hstep
  dsimp only at hstep
  cases hr : f.rest with
  | nil => rw [hr] at hhead; cases hhead
  | cons o' more =>
    rw [hr] at hstep hhead
    cases hhead
    simp only [World.request, Coordinator.request_of_ok hreq, Option.some.injEq,
      Prod.mk.injEq] at hstep
    obtain ⟨rfl, rfl, rfl, rfl⟩ := hstep
    refine ⟨σ, rfl, ?_⟩
    rw [List.append_nil]
    exact h.request hs hph (by rw [hr]; rfl) hreq

theorem Inv.step_commit {rest : List (String × Int)} (hph : (sys.procs s).phase = .commit f rest) :
    ∃ σ', Transaction.runSerially c.toList σ = .ok σ' ∧
      Inv σ' { sys with world := w, procs := sys.setProc s p, pending := sys.pending ++ ns } := by
  unfold Proc.step at hstep
  rw [hph] at hstep
  dsimp only at hstep
  cases rest with
  | nil =>
    simp only [Option.some.injEq, Prod.mk.injEq] at hstep
    obtain ⟨rfl, rfl, rfl, rfl⟩ := hstep
    rw [List.append_nil]
    exact h.commit_done hs hph
  | cons kv more =>
    obtain ⟨k, v⟩ := kv
    simp only [Store.write_of_budget h.agrees.budget, Option.some.injEq, Prod.mk.injEq] at hstep
    obtain ⟨rfl, rfl, rfl, rfl⟩ := hstep
    refine ⟨σ, rfl, ?_⟩
    rw [List.append_nil]
    exact h.commit_write hs hph

end Phases

end System
end TwoPhaseLocking
