import TwoPhaseLocking.Proofs.Deadlock.Detection
import TwoPhaseLocking.Proofs.System.Agent

/-!
The coordinator's side of a run. A release, or the abort of a deadlock victim, grants waiting
operations and sends an unblock to each of their sites; each such site waits for exactly that
call, and the victim's site for its abort. Delivering a call moves its site on, from granted to
woken or from struck to aborted.
-/
namespace TwoPhaseLocking

namespace LockTable

variable {t t₀ t' : LockTable} {tx u : TxId} {sites : List SiteId} {o : Operation}

theorem Covers.of_holders (h : t.Covers o) (hh : ∀ i, t'.holders i = t.holders i) :
    t'.Covers o := by
  obtain ⟨r, hr, l, hl, hown, hm⟩ := h
  exact ⟨r, hr, l, by rw [hh]; exact hl, hown, hm⟩

theorem Releasing.sites_nodup {ls : List Lock} (h : Releasing tx t₀ ls t' sites) : sites.Nodup :=
  h.sitesSorted.imp Nat.ne_of_lt

/-- A release from `t₀`, which is `t` with some of the released transaction's waiting operations
dropped, keeps what another transaction relies on, unless it grants that transaction's
operation. -/
theorem Releasing.keeps (hrel : Releasing tx t₀ [] t' sites) (hh : ∀ i, t₀.holders i = t.holders i)
    (hq : ∀ i, ∀ o ∈ t₀.queue i, o ∈ t.queue i)
    (hq' : ∀ i, ∀ o ∈ t.queue i, o.tx ≠ tx → o ∈ t₀.queue i) (hu : u ≠ tx)
    (hsite : siteOf u ∉ sites) : t.Keeps t' u where
  covers o ho hc := hrel.covers o (by rw [ho]; exact hu) (hc.of_holders hh)
  doomed hd := by
    refine ⟨fun i l hl hown => ?_, fun i o ho => hd.2 i o (hq i o (hrel.queue_sub i o ho))⟩
    rcases hrel.owners i l hl with ⟨l₀, hl₀, he⟩ | ⟨o, ho, he⟩
    · rw [hh] at hl₀
      exact hd.1 i l₀ hl₀ (he.trans hown)
    · exact hd.2 i o (hq i o ho) (he.trans hown)
  waitsNone hw i o ho := hw i o (hq i o (hrel.queue_sub i o ho))
  queued o ho hmem := by
    rcases hrel.waiting o.item o (hq' o.item o hmem (by rw [ho]; exact hu)) with
      ⟨hmem', -⟩ | ⟨-, -, hs⟩
    · exact hmem'
    · rw [ho] at hs
      exact absurd hs hsite

end LockTable

namespace Coordinator

variable {ε : Type}

theorem release_eq (c : Coordinator ε) (tx : TxId) :
    c.release tx = ((c.table.release tx).2, { c with table := (c.table.release tx).1 },
      { c with table := (c.table.release tx).1 }.notices
        ((c.table.release tx).2.flatMap fun s => [(s, .write), (s, .unblock)])) := rfl

/-- A check keeps the bound sites; it finds no deadlock and changes no lock, or it aborts a
transaction that waits and calls the victim's site and the sites the abort granted. -/
theorem check_cases (c : Coordinator ε) :
    c.check.2.1.sites = c.sites ∧
      ((c.check.2.1.table = c.table ∧ c.check.2.2 = []) ∨
        ∃ v, (∃ i, ∃ o ∈ c.table.queue i, o.tx = v) ∧ c.check.2.1.table = (c.table.abort v).1 ∧
          c.check.2.2 = c.check.2.1.notices
            ((siteOf v, .abort) :: (c.table.abort v).2.map (·, .unblock))) := by
  unfold check
  dsimp only
  rcases LockTable.resolveDeadlock_cases c.table with hr | ⟨v, hv, hr⟩
  · rw [hr]
    exact ⟨rfl, .inl ⟨rfl, rfl⟩⟩
  · rw [hr]
    exact ⟨rfl, .inr ⟨v, hv, rfl, rfl⟩⟩

theorem endpoint?_of_sites {c c' : Coordinator ε} (h : c'.sites = c.sites) (s : SiteId) :
    c'.endpoint? s = c.endpoint? s := by
  unfold endpoint?
  rw [h]

end Coordinator

section Deliver

variable {t : LockTable} {σ : Store} {f : InFlight} {c : SiteControl} {ws l₁ l₂ : List SiteCall}
  {k : SiteCall}

/-- The call on its way to a waiting site reaches it: an unblock wakes a granted site, an abort
a struck one. -/
theorem WaitState.deliver (h : WaitState t σ f c ws) (hws : ws = l₁ ++ k :: l₂) :
    WaitState t σ f (c.receive k) (l₁ ++ l₂) := by
  cases h with
  | queued | woken | aborted => simp at hws
  | granted live blocked flag covered waitsNone =>
    obtain ⟨rfl, rfl, rfl⟩ : l₁ = [] ∧ k = .unblock ∧ l₂ = [] := by
      simpa [List.singleton_eq_append_iff] using hws
    rw [SiteControl.receive_unblock_blocked blocked]
    exact .woken live rfl flag covered waitsNone
  | struck doomed blocked flag =>
    obtain ⟨rfl, rfl, rfl⟩ : l₁ = [] ∧ k = .abort ∧ l₂ = [] := by
      simpa [List.singleton_eq_append_iff] using hws
    rw [SiteControl.receive_abort_blocked blocked]
    exact .aborted doomed rfl rfl

/-- Only a waiting site has calls on their way, and a call reaching it moves it on. -/
theorem SiteInv.deliver {p : Phase} (h : SiteInv t σ c (l₁ ++ k :: l₂) p) :
    SiteInv t σ (c.receive k) (l₁ ++ l₂) p := by
  cases p with
  | wait f => exact WaitState.deliver h rfl
  | _ => exact absurd (h.quiet rfl) (by simp)

end Deliver

namespace System

variable {σ : Store} {sys : System} {s : SiteId} {f : InFlight} {tx : TxId}
  {t₀ t' : LockTable} {sites : List SiteId}

section Releasing

variable (h : Inv σ sys) (hrel : LockTable.Releasing tx t₀ [] t' sites)
  (hh : ∀ i, t₀.holders i = sys.world.coord.table.holders i)
  (hq : ∀ i, ∀ o ∈ t₀.queue i, o ∈ sys.world.coord.table.queue i)
include h hrel hh hq

/-- A site whose waiting operation a release grants is a site of the system that waited for it;
with the unblock on its way, it is granted. -/
theorem Inv.granted (hsite : s ∈ sites) :
    s ∈ sys.sites ∧ SiteInv t' σ (sys.world.control s) (Notice.wakeups sys.pending s ++ [.unblock])
      (sys.procs s).phase := by
  obtain ⟨i, o, ho₀, hos⟩ := hrel.sites_waited s hsite
  have ho := hq i o ho₀
  obtain ⟨hs, f, hf, hhead⟩ := h.waiters i o ho
  rw [hos] at hs hf
  have hsh : f.Shaped s := h.shaped s hs f (by rw [hf]; rfl)
  have hotx : o.tx = f.tx.id := hsh.tx_of_head hhead
  have hsi := h.site s hs
  rw [hf] at hsi ⊢
  obtain ⟨hws, hblocked, hflag, hlive⟩ := hsi.queued_of_mem hsh hhead ho
  have hgrant : o ∉ t'.queue i ∧ t'.Covers o := by
    rcases hrel.waiting i o ho₀ with ⟨-, hns⟩ | ⟨hnq, hcov, -⟩
    · rw [hos] at hns
      exact absurd hsite hns
    · exact ⟨hnq, hcov⟩
  -- the granted transaction holds a lock after the release, so it is not the released one
  have hne : f.tx.id ≠ tx := by
    obtain ⟨l, hl, hown, -⟩ := hgrant.2.exists_lock
    intro he
    exact hrel.holdsNone o.item l hl (by rw [hown, hotx, he])
  refine ⟨hs, ?_⟩
  rw [hws, List.nil_append]
  refine .granted (hlive.keeps hsh fun o' ho' hc => hrel.covers o' (by rw [ho']; exact hne)
    (hc.of_holders hh)) hblocked hflag ⟨o, hhead, hgrant.2⟩ ?_
  -- the transaction waited for one operation only, the granted one
  intro j o' ho' ho'tx
  have ho'₀ := hq j o' (hrel.queue_sub j o' ho')
  obtain ⟨-, f', hf', hhead'⟩ := h.waiters j o' ho'₀
  rw [ho'tx, hsh.atSite.site, hf] at hf'
  cases hf'
  rw [hhead] at hhead'
  cases hhead'
  have hj : j = i := (h.wellFormed.queued j o ho'₀).1.symm.trans (h.wellFormed.queued i o ho).1
  exact hgrant.1 (hj ▸ ho')

/-- After a release each lock belongs to a transaction that held one before or whose waiting
operation was granted; either way the agent of its site may hold locks, for that transaction. -/
theorem Inv.owner_of_released {i : String} {l : Lock} (hl : l ∈ t'.holders i) :
    siteOf l.owner ∈ sys.sites ∧ (sys.procs (siteOf l.owner)).phase.holder? = some l.owner := by
  rcases hrel.owners i l hl with ⟨l₀, hl₀, he⟩ | ⟨o, ho, he⟩
  · rw [hh] at hl₀
    rw [← he]
    exact h.owners i l₀ hl₀
  · obtain ⟨hs, f, hf, hhead⟩ := h.waiters i o (hq i o ho)
    rw [← he]
    refine ⟨hs, ?_⟩
    rw [hf]
    show some f.tx.id = some o.tx
    rw [(h.shaped _ hs f (by rw [hf]; rfl)).tx_of_head hhead]

/-- A site of the system whose transaction is not the released one: granted if the release
granted its waiting operation, and otherwise as it was. -/
theorem Inv.released_site (hq' : ∀ i, ∀ o ∈ sys.world.coord.table.queue i, o.tx ≠ tx → o ∈ t₀.queue i)
    (hs : s ∈ sys.sites) (hne : ∀ f, (sys.procs s).phase.inFlight? = some f → f.tx.id ≠ tx) :
    SiteInv t' σ (sys.world.control s)
      (Notice.wakeups sys.pending s ++ if s ∈ sites then [.unblock] else []) (sys.procs s).phase := by
  by_cases hm : s ∈ sites
  · rw [if_pos hm]
    exact (h.granted hrel hh hq hm).2
  · rw [if_neg hm, List.append_nil]
    refine (h.site s hs).keeps (h.shaped s hs) fun f hf => hrel.keeps hh hq hq' (hne f hf) ?_
    rw [(h.shaped s hs f hf).atSite.site]
    exact hm

end Releasing

/-- The release that ends a transaction: the agent goes on to its next one, and each site whose
waiting operation was granted gets its write and its unblock. -/
theorem Inv.release (h : Inv σ sys) (hs : s ∈ sys.sites) {out : Outcome}
    (hph : (sys.procs s).phase = .release f out) :
    Inv σ
      { sys with
        world := { sys.world with coord := (sys.world.coord.release f.tx.id).2.1 }
        procs := sys.setProc s
          { sys.procs s with phase := .next, report := (sys.procs s).report.record f.tx.id out }
        pending := sys.pending ++ (sys.world.coord.release f.tx.id).2.2 } := by
  have hsh : f.Shaped s := h.shaped_at hs hph rfl
  have hquiet := h.no_waiter (s := s) (by rw [hph]; rfl)
  obtain ⟨t', sites, hr⟩ : ∃ t' sites, sys.world.coord.table.release f.tx.id = (t', sites) :=
    ⟨_, _, rfl⟩
  have hrel : LockTable.Releasing f.tx.id sys.world.coord.table [] t' sites := by
    have := LockTable.releasing_release h.wellFormed h.nodup
      (h.waitsNone hsh.atSite.site (by rw [hph]; rfl)) h.oneWaiterPerSite
    rwa [hr] at this
  have hsites : ∀ s' ∈ sites, s' ∈ sys.sites :=
    fun s' hm => (h.granted hrel (fun _ => rfl) (fun _ _ ho => ho) hm).1
  have hns : s ∉ sites := by
    intro hm
    obtain ⟨i, o, ho, hos⟩ := hrel.sites_waited s hm
    exact hquiet i o ho hos
  have hnotices : { sys.world.coord with table := t' }.notices
      (sites.flatMap fun s => [(s, .write), (s, .unblock)]) =
      (sites.flatMap fun s => [(s, SiteCall.write), (s, .unblock)]).map fun p => ⟨p.1, (), p.2⟩ := by
    refine Coordinator.notices_of_bound _ fun p hp => ?_
    obtain ⟨s', hs', hp⟩ := List.mem_flatMap.mp hp
    simp only [List.mem_cons, List.not_mem_nil, or_false] at hp
    rcases hp with rfl | rfl <;> exact h.bound s' (hsites s' hs')
  have hwake : ∀ s', Notice.wakeups (sys.pending ++
      (sites.flatMap fun s => [(s, SiteCall.write), (s, .unblock)]).map fun p => ⟨p.1, (), p.2⟩) s' =
      Notice.wakeups sys.pending s' ++ if s' ∈ sites then [.unblock] else [] := by
    intro s'
    rw [Notice.wakeups_append, Notice.wakeups_release hrel.sites_nodup]
  rw [Coordinator.release_eq]
  simp only [hr, hnotices]
  constructor
  · have := h.wellFormed.release f.tx.id
    rwa [hr] at this
  · exact hrel.nodup
  · exact h.bound
  · exact h.hasControl
  · intro n hn
    rcases List.mem_append.mp hn with hn | hn
    · exact h.pending n hn
    · obtain ⟨⟨s', k⟩, hp, rfl⟩ := List.mem_map.mp hn
      obtain ⟨s'', hs'', hp⟩ := List.mem_flatMap.mp hp
      simp only [List.mem_cons, Prod.mk.injEq, List.not_mem_nil, or_false] at hp
      rcases hp with ⟨rfl, -⟩ | ⟨rfl, -⟩ <;> exact hsites _ hs''
  · intro s' hs'
    by_cases he : s' = s
    · subst he
      simpa only [setProc_self] using h.queue s' hs'
    · simpa only [setProc_ne _ _ he] using h.queue s' hs'
  · intro s' hs'
    by_cases he : s' = s
    · subst he
      simp only [setProc_self]
      intro f' hf'
      cases hf'
    · simpa only [setProc_ne _ _ he] using h.shaped s' hs'
  · intro s' hs'
    simp only [hwake]
    by_cases he : s' = s
    · subst he
      have hws : Notice.wakeups sys.pending s' = [] := h.site_at hs' hph
      rw [hws, if_neg hns, setProc_self]
      rfl
    · rw [setProc_ne _ _ he]
      exact h.released_site hrel (fun _ => rfl) (fun _ _ ho => ho) (fun _ _ ho _ => ho) hs'
        fun f' hf' => h.tx_ne hs hs' he (by rw [hph]; rfl) hf'
  · intro i l hl
    obtain ⟨hsite, hhold⟩ := h.owner_of_released hrel (fun _ => rfl) (fun _ _ ho => ho) hl
    -- the released transaction holds nothing any more, so the lock is not of this site
    have hne : siteOf l.owner ≠ s := by
      intro he
      rw [he, hph] at hhold
      exact hrel.holdsNone i l hl (Option.some.inj hhold).symm
    refine ⟨hsite, ?_⟩
    simpa only [setProc_ne _ _ hne] using hhold
  · intro i o ho
    have ho₀ := hrel.queue_sub i o ho
    obtain ⟨hsite, f', hf', hhead⟩ := h.waiters i o ho₀
    exact ⟨hsite, f', by simpa only [setProc_ne _ _ (hquiet i o ho₀)] using hf', hhead⟩
  · exact h.agrees.congr
      (writes_setProc (written_quiet (fun _ _ => id) (by rw [hph]; exact fun _ _ => id)))

theorem Inv.step_release (h : Inv σ sys) (hs : s ∈ sys.sites) {p : Proc} {w : World}
    {ns : List (Notice Unit)} {c : Option Transaction}
    (hstep : (sys.procs s).step s sys.world = some (p, w, ns, c)) {out : Outcome}
    (hph : (sys.procs s).phase = .release f out) :
    ∃ σ', Transaction.runSerially c.toList σ = .ok σ' ∧
      Inv σ' { sys with world := w, procs := sys.setProc s p, pending := sys.pending ++ ns } := by
  unfold Proc.step at hstep
  rw [hph] at hstep
  simp only [Option.some.injEq, Prod.mk.injEq] at hstep
  obtain ⟨rfl, rfl, rfl, rfl⟩ := hstep
  exact ⟨σ, rfl, h.release hs hph⟩

theorem Inv.coord_congr (h : Inv σ sys) {c : Coordinator Unit}
    (ht : c.table = sys.world.coord.table) (hsites : c.sites = sys.world.coord.sites) :
    Inv σ { sys with world := { sys.world with coord := c } } where
  wellFormed := by simpa only [ht] using h.wellFormed
  nodup := by simpa only [ht] using h.nodup
  bound s hs := by
    show c.endpoint? s = some ()
    rw [Coordinator.endpoint?_of_sites hsites]
    exact h.bound s hs
  hasControl := h.hasControl
  pending := h.pending
  queue := h.queue
  shaped := h.shaped
  site s hs := by
    have hsi := h.site s hs
    rw [← ht] at hsi
    exact hsi
  owners := by simpa only [ht] using h.owners
  waiters := by simpa only [ht] using h.waiters
  agrees := h.agrees

/-- A deadlock check. With no deadlock only its count changes; with one, the victim's site gets
its abort and each site whose waiting operation the abort granted gets its unblock. -/
theorem Inv.check (h : Inv σ sys) :
    Inv σ
      { sys with
        world := { sys.world with coord := sys.world.coord.check.2.1 }
        pending := sys.pending ++ sys.world.coord.check.2.2 } := by
  obtain ⟨hsites, ⟨htab, hns⟩ | ⟨v, ⟨i, ov, hov, rfl⟩, htab, hns⟩⟩ :=
    Coordinator.check_cases sys.world.coord
  · rw [hns, List.append_nil]
    exact h.coord_congr htab hsites
  have hwf := h.wellFormed
  obtain ⟨t', sites, hab⟩ : ∃ t' sites, sys.world.coord.table.abort ov.tx = (t', sites) :=
    ⟨_, _, rfl⟩
  rw [hab] at htab hns
  -- the abort is a release from the table without the victim's waiting operations
  have hrel := LockTable.releasing_abort hwf h.nodup h.oneWaiterPerSite ov.tx
  rw [hab] at hrel
  have hh : ∀ j, (sys.world.coord.table.removeBlocked ov.tx).holders j =
      sys.world.coord.table.holders j := fun _ => rfl
  have hq : ∀ j, ∀ o ∈ (sys.world.coord.table.removeBlocked ov.tx).queue j,
      o ∈ sys.world.coord.table.queue j :=
    fun _ _ ho => ((LockTable.mem_queue_removeBlocked hwf).mp ho).1
  have hq' : ∀ j, ∀ o ∈ sys.world.coord.table.queue j, o.tx ≠ ov.tx →
      o ∈ (sys.world.coord.table.removeBlocked ov.tx).queue j :=
    fun _ _ ho hne => (LockTable.mem_queue_removeBlocked hwf).mpr ⟨ho, hne⟩
  obtain ⟨hsv, fv, hfv, hheadv⟩ := h.waiters i ov hov
  have hshv : fv.Shaped (siteOf ov.tx) := h.shaped _ hsv fv (by rw [hfv]; rfl)
  have hsiv := h.site _ hsv
  rw [hfv] at hsiv
  obtain ⟨hwsv, hblockedv, hflagv, -⟩ := hsiv.queued_of_mem hshv hheadv hov
  have hgranted : ∀ s' ∈ sites, s' ∈ sys.sites := fun s' hm => (h.granted hrel hh hq hm).1
  -- the victim's site had one waiting operation, the victim's, and the abort dropped it
  have hnv : siteOf ov.tx ∉ sites := by
    intro hm
    obtain ⟨j, o, ho, hos⟩ := hrel.sites_waited _ hm
    have ho' := (LockTable.mem_queue_removeBlocked hwf).mp ho
    exact ho'.2 (by rw [h.oneWaiterPerSite j i o ho'.1 ov hov hos])
  have hnotices : sys.world.coord.check.2.1.notices
      ((siteOf ov.tx, .abort) :: sites.map (·, .unblock)) =
      ((siteOf ov.tx, SiteCall.abort) :: sites.map (·, SiteCall.unblock)).map
        fun p => ⟨p.1, (), p.2⟩ := by
    refine Coordinator.notices_of_bound _ fun p hp => ?_
    rw [Coordinator.endpoint?_of_sites hsites]
    rcases List.mem_cons.mp hp with rfl | hp
    · exact h.bound _ hsv
    · obtain ⟨s', hs', rfl⟩ := List.mem_map.mp hp
      exact h.bound s' (hgranted s' hs')
  have hwake : ∀ s', Notice.wakeups (sys.pending ++
      ((siteOf ov.tx, SiteCall.abort) :: sites.map (·, SiteCall.unblock)).map
        fun p => ⟨p.1, (), p.2⟩) s' =
      Notice.wakeups sys.pending s' ++ ((if siteOf ov.tx = s' then [.abort] else []) ++
        if s' ∈ sites then [.unblock] else []) := by
    intro s'
    rw [Notice.wakeups_append, Notice.wakeups_check _ _ hrel.sites_nodup]
  rw [hns, hnotices]
  constructor
  · have := hwf.abort ov.tx
    rw [hab] at this
    simpa only [htab] using this
  · simpa only [htab] using hrel.nodup
  · intro s hs
    show sys.world.coord.check.2.1.endpoint? s = some ()
    rw [Coordinator.endpoint?_of_sites hsites]
    exact h.bound s hs
  · exact h.hasControl
  · intro n hn
    rcases List.mem_append.mp hn with hn | hn
    · exact h.pending n hn
    · obtain ⟨⟨s', k⟩, hp, rfl⟩ := List.mem_map.mp hn
      rcases List.mem_cons.mp hp with hp | hp
      · cases hp
        exact hsv
      · obtain ⟨s'', hs'', he⟩ := List.mem_map.mp hp
        cases he
        exact hgranted _ hs''
  · exact h.queue
  · exact h.shaped
  · intro s' hs'
    simp only [htab, hwake]
    by_cases he : siteOf ov.tx = s'
    · subst he
      rw [if_pos rfl, if_neg hnv, hwsv, hfv]
      have hotx : ov.tx = fv.tx.id := hshv.tx_of_head hheadv
      refine .struck ⟨?_, ?_⟩ hblockedv hflagv
      · rw [← hotx]
        exact hrel.holdsNone
      · rw [← hotx]
        exact fun j o ho => LockTable.waitsNone_removeBlocked hwf ov.tx j o (hrel.queue_sub j o ho)
    · rw [if_neg he, List.nil_append]
      refine h.released_site hrel hh hq hq' hs' fun f' hf' hv => he ?_
      rw [← hv]
      exact (h.shaped s' hs' f' hf').atSite.site
  · intro j l hl
    simp only [htab] at hl
    exact h.owner_of_released hrel hh hq hl
  · intro j o ho
    simp only [htab] at ho
    exact h.waiters j o (hq j o (hrel.queue_sub j o ho))
  · exact h.agrees

theorem Inv.deliver (h : Inv σ sys) {before after : List (Notice Unit)} {n : Notice Unit}
    (hp : sys.pending = before ++ n :: after) :
    Inv σ { sys with world := sys.world.deliver n.site n.call, pending := before ++ after } := by
  have hn : n.site ∈ sys.sites := h.pending n (by rw [hp]; simp)
  have hctl := World.control_deliver (h.hasControl n.site hn) n.call
  have hwake : ∀ s', Notice.wakeups sys.pending s' = Notice.wakeups before s' ++
      ((if n.site = s' ∧ n.call ≠ .write then [n.call] else []) ++ Notice.wakeups after s') := by
    intro s'
    rw [hp, Notice.wakeups_append, Notice.wakeups_cons]
  constructor
  · simpa only [World.coord_deliver] using h.wellFormed
  · simpa only [World.coord_deliver] using h.nodup
  · simpa only [World.coord_deliver] using h.bound
  · exact fun s' hs' => (World.hasControl_deliver n.call).mpr (h.hasControl s' hs')
  · intro m hm
    refine h.pending m ?_
    rw [hp]
    rcases List.mem_append.mp hm with hm | hm
    · exact List.mem_append_left _ hm
    · exact List.mem_append_right _ (List.mem_cons_of_mem _ hm)
  · exact h.queue
  · exact h.shaped
  · intro s' hs'
    have hsi := h.site s' hs'
    rw [hwake] at hsi
    simp only [World.coord_deliver, hctl, Notice.wakeups_append]
    by_cases he : n.site = s'
    · subst he
      rw [if_pos rfl]
      by_cases hk : n.call = .write
      · rw [hk, SiteControl.receive_write]
        rw [if_neg (fun hc => hc.2 hk)] at hsi
        exact hsi
      · rw [if_pos ⟨rfl, hk⟩] at hsi
        exact hsi.deliver
    · rw [if_neg he]
      rw [if_neg (fun hc => he hc.1)] at hsi
      exact hsi
  · simpa only [World.coord_deliver] using h.owners
  · simpa only [World.coord_deliver] using h.waiters
  · have hag := h.agrees
    rw [← World.store_deliver sys.world n.site n.call] at hag
    exact hag

end System
end TwoPhaseLocking
