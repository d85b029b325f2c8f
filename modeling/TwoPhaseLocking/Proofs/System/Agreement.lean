import TwoPhaseLocking.Proofs.System.Serializable
import TwoPhaseLocking.System.Faults

/-!
What the agents and the coordinator agree on along every run. A blocked agent never misses the
call that ends its wait (`Run.wakeup_pending`); and once an agent has finished a transaction,
the coordinator holds nothing of it and it is reported aborted exactly when a deadlock check
chose it as victim (`VictimRun.outcomes_agree`), as long as lock requests do not fail.
-/
namespace TwoPhaseLocking

namespace Notice

theorem exists_of_mem_wakeups {ns : List (Notice Unit)} {s : SiteId} {k : SiteCall}
    (h : k ∈ wakeups ns s) : ∃ n ∈ ns, n.site = s ∧ n.call = k := by
  obtain ⟨n, hn, rfl⟩ := List.mem_map.mp h
  obtain ⟨hmem, hsite⟩ := List.mem_filter.mp hn
  exact ⟨n, hmem, (of_decide_eq_true hsite).1, rfl⟩

theorem abort_mem_wakeups_append {ns ns' : List (Notice Unit)} {s : SiteId}
    (h : ∀ n ∈ ns', n.call ≠ .abort) : SiteCall.abort ∈ wakeups (ns ++ ns') s ↔
      SiteCall.abort ∈ wakeups ns s := by
  rw [wakeups_append, List.mem_append, or_iff_left_iff_imp]
  intro hk
  obtain ⟨n, hn, -, hnk⟩ := exists_of_mem_wakeups hk
  exact absurd hnk (h n hn)

end Notice

/-- A waiting site that is still blocked has its operation queued, or one unblock or one abort
on its way. -/
theorem WaitState.blocked {t : LockTable} {σ : Store} {f : InFlight} {c : SiteControl}
    {ws : List SiteCall} (h : WaitState t σ f c ws) (hb : c.state = .blocked) :
    (∃ o, f.rest.head? = some o ∧ o ∈ t.queue o.item) ∨ ws = [.unblock] ∨ ws = [.abort] := by
  cases h with
  | queued _ _ _ head mem => exact .inl ⟨_, head, mem⟩
  | granted => exact .inr (.inl rfl)
  | woken _ running => rw [hb] at running; cases running
  | struck => exact .inr (.inr rfl)
  | aborted _ running => rw [hb] at running; cases running

/-! ### Wake-ups -/

namespace System

variable {sys₀ sys : System} {C : List Transaction} {s : SiteId} {f : InFlight}

/-- No wake-up is lost: an agent that waits for the lock of its next operation while its site is
blocked still has that operation in the coordinator's queue, or an unblock or an abort on its
way to its site. Once every call on its way has been delivered, a blocked agent's operation is
therefore still queued: it was neither granted nor dropped behind the agent's back. -/
theorem Run.wakeup_pending (h₀ : Initial sys₀) (hrun : Run sys₀ C sys) (hs : s ∈ sys.sites)
    (hph : (sys.procs s).phase = .wait f) (hb : (sys.world.control s).state = .blocked) :
    (∃ o, f.rest.head? = some o ∧ o ∈ sys.world.coord.table.queue o.item) ∨
      ∃ n ∈ sys.pending, n.site = s ∧ (n.call = .unblock ∨ n.call = .abort) := by
  obtain ⟨σ, -, h⟩ := hrun.inv h₀
  have hw : WaitState sys.world.coord.table σ f (sys.world.control s)
      (Notice.wakeups sys.pending s) := h.site_at hs hph
  rcases hw.blocked hb with hq | hws | hws
  · exact .inl hq
  · obtain ⟨n, hn, hns, hk⟩ := Notice.exists_of_mem_wakeups (hws ▸ List.mem_singleton_self _)
    exact .inr ⟨n, hn, hns, .inl hk⟩
  · obtain ⟨n, hn, hns, hk⟩ := Notice.exists_of_mem_wakeups (hws ▸ List.mem_singleton_self _)
    exact .inr ⟨n, hn, hns, .inr hk⟩

def writeX : Transaction := ⟨10001, [⟨10001, "x", .write⟩]⟩

def readX : Transaction := ⟨20001, [⟨20001, "x", .read⟩]⟩

/-- Site 1 writes `x` and site 2 reads it. -/
def writerReader : System := start [1, 2] (fun s => if s = 1 then [writeX] else [readX]) {}

theorem writerReader_initial : Initial writerReader := by
  refine start_initial ?_ rfl ItemMap.sorted_empty
  intro s hs t ht
  simp only [List.mem_cons, List.not_mem_nil, or_false] at hs
  rcases hs with rfl | rfl <;> simp at ht <;> subst ht <;> exact ⟨by decide, by decide⟩

/-- Site 1 takes the write lock on `x`; the read of site 2 is then refused, and its agent waits
while its site is blocked, with the read still queued. -/
theorem writerReader_reader_waits : ∃ sys f, Initial writerReader ∧ Run writerReader [] sys ∧
    (sys.procs 2).phase = .wait f ∧ (sys.world.control 2).state = .blocked ∧
    ((∃ o, f.rest.head? = some o ∧ o ∈ sys.world.coord.table.queue o.item) ∨
      ∃ n ∈ sys.pending, n.site = 2 ∧ (n.call = .unblock ∨ n.call = .abort)) := by
  have h₀ := writerReader_initial
  have h1 : (1 : SiteId) ∈ [1, 2] := List.mem_cons_self
  have h2 : (2 : SiteId) ∈ [1, 2] := List.mem_cons_of_mem _ (List.mem_singleton_self 2)
  -- site 1: take, begin, check, block, request (granted)
  have r := Run.tail (Run.refl writerReader) (Step.agent (s := 1) h1 rfl)
  iterate 4 have r := Run.tail r (Step.agent (s := 1) h1 rfl)
  -- site 2: take, begin, check, block, request (refused)
  iterate 5 have r := Run.tail r (Step.agent (s := 2) h2 rfl)
  exact ⟨_, _, h₀, r, rfl, rfl, Run.wakeup_pending h₀ r h2 rfl rfl⟩

end System

namespace Coordinator

variable {ε : Type}

/-- A check that found a deadlock names its victim, a transaction that waits, and calls the
victim's site with an abort and the sites the abort granted with an unblock. -/
theorem check_victim (c : Coordinator ε) :
    c.check.2.1.sites = c.sites ∧
      ((c.check.1 = none ∧ c.check.2.2 = []) ∨
        ∃ v, (∃ i, ∃ o ∈ c.table.queue i, o.tx = v) ∧ c.check.1.map (·.victim) = some v ∧
          c.check.2.2 = c.check.2.1.notices
            ((siteOf v, .abort) :: (c.table.abort v).2.map (·, .unblock))) := by
  unfold check
  dsimp only
  rcases LockTable.resolveDeadlock_cases c.table with hr | ⟨v, hv, hr⟩
  · rw [hr]
    exact ⟨rfl, .inl ⟨rfl, rfl⟩⟩
  · rw [hr]
    exact ⟨rfl, .inr ⟨v, hv, rfl, rfl⟩⟩

end Coordinator

namespace Notice

/-- An abort among the notices for some calls reaches a site exactly when the site is bound and
one of the calls is an abort on it. -/
theorem abort_mem_wakeups_notices {c : Coordinator Unit} {calls : List (SiteId × SiteCall)}
    {s : SiteId} :
    SiteCall.abort ∈ wakeups (c.notices calls) s ↔
      c.endpoint? s = some () ∧ (s, SiteCall.abort) ∈ calls := by
  simp only [wakeups, Coordinator.notices, List.mem_map, List.mem_filter, List.mem_filterMap,
    Option.map_eq_some_iff, decide_eq_true_eq]
  constructor
  · rintro ⟨_, ⟨⟨⟨s', k⟩, hp, e, he, rfl⟩, rfl, -⟩, rfl⟩
    exact ⟨he, hp⟩
  · rintro ⟨he, hp⟩
    exact ⟨_, ⟨⟨_, hp, (), he, rfl⟩, rfl, SiteCall.noConfusion⟩, rfl⟩

end Notice

/-! ### How transactions ended -/

namespace SiteReport

/-- The transactions a site has finished: committed, then aborted, then failed. -/
def finished (r : SiteReport) : List TxId := r.committed ++ r.aborted ++ r.failed

theorem finished_record_perm (r : SiteReport) (tx : TxId) (o : Outcome) :
    (r.record tx o).finished.Perm (r.finished ++ [tx]) := by
  rw [List.perm_iff_count]
  intro u
  cases o <;> simp only [record, finished, List.count_append] <;> omega

theorem mem_finished_record {r : SiteReport} {tx u : TxId} {o : Outcome} :
    u ∈ (r.record tx o).finished ↔ u ∈ r.finished ∨ u = tx := by
  rw [(finished_record_perm r tx o).mem_iff, List.mem_append, List.mem_singleton]

theorem mem_aborted_record {r : SiteReport} {tx u : TxId} {o : Outcome} :
    u ∈ (r.record tx o).aborted ↔ u ∈ r.aborted ∨ (u = tx ∧ o = .aborted) := by
  cases o <;> simp [record]

end SiteReport

namespace Phase

/-- The transaction in flight has been chosen as a deadlock victim, as its agent, the abort flag
of its site and the calls on their way to the site show: while the agent waits, an abort is on
its way or has arrived; when it checks after the wait, the flag is up; and then it abandons the
transaction. -/
def Struck (c : SiteControl) (ws : List SiteCall) : Phase → Prop
  | .wait _ => SiteCall.abort ∈ ws ∨ c.abortRequested = true
  | .recheck _ => c.abortRequested = true
  | .abandon _ | .abandoned _ => True
  | _ => False

theorem struck_congr (q : Phase) {c c' : SiteControl} {ws ws' : List SiteCall}
    (hflag : c'.abortRequested = c.abortRequested)
    (habort : SiteCall.abort ∈ ws' ↔ SiteCall.abort ∈ ws) : q.Struck c' ws' ↔ q.Struck c ws := by
  cases q <;> simp only [Struck, hflag, habort]

end Phase

/-- The ids of a site's transactions: those its agent finished, the one in flight, and those not
started yet. -/
def Proc.ids (p : Proc) : List TxId :=
  p.report.finished ++ (p.phase.inFlight?.map (·.tx.id)).toList ++ p.queue.map (·.id)

/-- What the report and the transactions of site `s` say about the deadlock victims `V`, given
its control block and the calls on their way to it. Its transactions have distinct ids; a
finished one was aborted exactly when it is a victim; the one in flight is a victim exactly when
its agent shows it struck; none of those not started is a victim; and a release never ends a
transaction as aborted. -/
structure SiteOutcome (V : List TxId) (s : SiteId) (c : SiteControl) (ws : List SiteCall)
    (p : Proc) : Prop where
  ids : p.ids.Nodup
  finishedSite : ∀ u ∈ p.report.finished, siteOf u = s
  finished : ∀ u ∈ p.report.finished, (u ∈ p.report.aborted ↔ u ∈ V)
  current : ∀ f, p.phase.inFlight? = some f → (f.tx.id ∈ V ↔ p.phase.Struck c ws)
  fresh : ∀ t ∈ p.queue, t.id ∉ V
  released : ∀ f o, p.phase = .release f o → o ≠ .aborted

namespace SiteOutcome

variable {V : List TxId} {s : SiteId} {c c' : SiteControl} {ws ws' : List SiteCall} {p : Proc}
  {f : InFlight}

theorem not_finished_of_inFlight (h : SiteOutcome V s c ws p) (hf : p.phase.inFlight? = some f) :
    f.tx.id ∉ p.report.finished := by
  intro hmem
  have hnd := h.ids
  rw [Proc.ids, hf, Option.map_some, Option.toList_some] at hnd
  exact (List.nodup_append.mp (List.nodup_append.mp hnd).1).2.2 _ hmem _
    (List.mem_singleton_self _) rfl

theorem not_queued_of_inFlight (h : SiteOutcome V s c ws p) (hf : p.phase.inFlight? = some f) :
    ∀ t ∈ p.queue, t.id ≠ f.tx.id := by
  intro t ht he
  have hnd := h.ids
  rw [Proc.ids, hf] at hnd
  exact (List.nodup_append.mp hnd).2.2 f.tx.id (by simp) t.id (List.mem_map_of_mem ht) he.symm

theorem calls (h : SiteOutcome V s c ws p) (hflag : c'.abortRequested = c.abortRequested)
    (habort : SiteCall.abort ∈ ws' ↔ SiteCall.abort ∈ ws) : SiteOutcome V s c' ws' p where
  ids := h.ids
  finishedSite := h.finishedSite
  finished := h.finished
  current f hf := (h.current f hf).trans (p.phase.struck_congr hflag habort).symm
  fresh := h.fresh
  released := h.released

theorem keep (h : SiteOutcome V s c ws p) {q₀ q : Phase} (hph : p.phase = q₀)
    (hid : q.inFlight?.map (·.tx.id) = q₀.inFlight?.map (·.tx.id))
    (hstruck : q.Struck c' ws' ↔ q₀.Struck c ws)
    (hrel : ∀ f o, q = .release f o → o ≠ .aborted) :
    SiteOutcome V s c' ws' { p with phase := q } where
  ids := by
    have hnd := h.ids
    rwa [Proc.ids, hph, ← hid] at hnd
  finishedSite := h.finishedSite
  finished := h.finished
  current f hf := by
    rw [hf, ← hph] at hid
    obtain ⟨f₀, hf₀, he⟩ := Option.map_eq_some_iff.mp hid.symm
    have he : f₀.tx.id = f.tx.id := he
    show f.tx.id ∈ V ↔ q.Struck c' ws'
    rw [← he, h.current f₀ hf₀, hph]
    exact hstruck.symm
  fresh := h.fresh
  released := hrel

theorem start (h : SiteOutcome V s c ws p) {t : Transaction} {ts : List Transaction}
    (hph : p.phase = .next) (hq : p.queue = t :: ts) :
    SiteOutcome V s c' ws' { p with queue := ts, phase := .begin ⟨t, t.ops, {}, false⟩ } where
  ids := by
    have hnd := h.ids
    rw [Proc.ids, hph, hq] at hnd
    simpa [Proc.ids, Phase.inFlight?] using hnd
  finishedSite := h.finishedSite
  finished := h.finished
  current f hf := by
    cases hf
    exact iff_of_false (h.fresh t (by rw [hq]; exact List.mem_cons_self)) id
  fresh t' ht' := h.fresh t' (by rw [hq]; exact List.mem_cons_of_mem _ ht')
  released _ _ hr := by cases hr

/-- The agent finishes its transaction with outcome `o`, aborted exactly when it is a victim. -/
theorem finish (h : SiteOutcome V s c ws p) (hf : p.phase.inFlight? = some f)
    (hsite : siteOf f.tx.id = s) {o : Outcome} (hv : f.tx.id ∈ V ↔ o = .aborted) :
    SiteOutcome V s c' ws' { p with phase := .next, report := p.report.record f.tx.id o } where
  ids := by
    have hnd := h.ids
    rw [Proc.ids, hf] at hnd
    refine ((((SiteReport.finished_record_perm _ _ _).append_right _).append_right _).nodup_iff).mpr ?_
    simpa [Phase.inFlight?] using hnd
  finishedSite u hu := by
    rcases SiteReport.mem_finished_record.mp hu with hu | rfl
    · exact h.finishedSite u hu
    · exact hsite
  finished u hu := by
    rw [SiteReport.mem_aborted_record]
    rcases SiteReport.mem_finished_record.mp hu with hu | rfl
    · rw [← h.finished u hu]
      have hne : u ≠ f.tx.id := fun he => h.not_finished_of_inFlight hf (he ▸ hu)
      simp [hne]
    · have hna : f.tx.id ∉ p.report.aborted := fun ha =>
        h.not_finished_of_inFlight hf (by simp [SiteReport.finished, ha])
      simp [hna, hv]
  current _ hf' := by cases hf'
  fresh := h.fresh
  released _ _ hr := by cases hr

theorem victim (h : SiteOutcome V s c ws p) {v : TxId} (hv : siteOf v ≠ s)
    (hf : ∀ f, p.phase.inFlight? = some f → siteOf f.tx.id = s)
    (hq : ∀ t ∈ p.queue, siteOf t.id = s) : SiteOutcome (V ++ [v]) s c ws p where
  ids := h.ids
  finishedSite := h.finishedSite
  finished u hu := by
    have hne : u ≠ v := fun he => hv (he ▸ h.finishedSite u hu)
    simp [h.finished u hu, hne]
  current f' hf' := by
    have hne : f'.tx.id ≠ v := fun he => hv (he ▸ hf f' hf')
    simp [← h.current f' hf', hne]
  fresh t ht := by
    have hne : t.id ≠ v := fun he => hv (he ▸ hq t ht)
    simp [h.fresh t ht, hne]
  released := h.released

/-- A deadlock check chose the transaction this site waits for, and sent it an abort. -/
theorem strike (h : SiteOutcome V s c ws p) (hph : p.phase = .wait f)
    (habort : SiteCall.abort ∈ ws') : SiteOutcome (V ++ [f.tx.id]) s c ws' p where
  ids := h.ids
  finishedSite := h.finishedSite
  finished u hu := by
    have hne : u ≠ f.tx.id := fun he =>
      h.not_finished_of_inFlight (f := f) (by rw [hph]; rfl) (he ▸ hu)
    simp [h.finished u hu, hne]
  current f' hf' := by
    rw [hph] at hf' ⊢
    cases hf'
    exact iff_of_true (by simp) (.inl habort)
  fresh t ht := by
    have hne := h.not_queued_of_inFlight (f := f) (by rw [hph]; rfl) t ht
    simp [h.fresh t ht, hne]
  released := h.released

end SiteOutcome

namespace System

variable {σ : Store} {sys sys₀ : System} {V : List TxId} {s : SiteId} {p : Proc} {w : World}
  {ns : List (Notice Unit)} {c : Option Transaction} {f : InFlight}

/-- Every site's report and transactions agree with the victims `V`. -/
def Outcomes (V : List TxId) (sys : System) : Prop :=
  ∀ s ∈ sys.sites, SiteOutcome V s (sys.world.control s) (Notice.wakeups sys.pending s)
    (sys.procs s)

theorem Outcomes.local (ho : Outcomes V sys)
    (hctl : ∀ s', s' ≠ s → w.control s' = sys.world.control s')
    (hns : ∀ n ∈ ns, n.call ≠ .abort)
    (hsite : SiteOutcome V s (w.control s) (Notice.wakeups (sys.pending ++ ns) s) p) :
    Outcomes V { sys with world := w, procs := sys.setProc s p, pending := sys.pending ++ ns } := by
  intro s' hs'
  by_cases he : s' = s
  · subst he
    simpa only [setProc_self] using hsite
  · simp only [setProc_ne _ _ he, hctl s' he]
    exact (ho s' hs').calls rfl (Notice.abort_mem_wakeups_append hns)

theorem Outcomes.quiet (ho : Outcomes V sys) (hctl : ∀ s', w.control s' = sys.world.control s')
    (hsite : SiteOutcome V s (sys.world.control s) (Notice.wakeups sys.pending s) p) :
    Outcomes V { sys with world := w, procs := sys.setProc s p, pending := sys.pending ++ [] } := by
  refine ho.local (fun s' _ => hctl s') (fun _ hn => by cases hn) ?_
  rw [List.append_nil, hctl]
  exact hsite

section Local

variable (h : Inv σ sys) (ho : Outcomes V sys) (hs : s ∈ sys.sites)
include h ho hs

theorem Outcomes.setState (st : SiteState)
    (hsite : SiteOutcome V s { (sys.world.control s) with state := st } (Notice.wakeups sys.pending s)
      p) :
    Outcomes V
      { sys with
        world := sys.world.setState s st
        procs := sys.setProc s p
        pending := sys.pending ++ [] } := by
  have hc := World.control_setState (h.hasControl s hs) st
  refine ho.local (fun s' hne => by rw [hc, if_neg (Ne.symm hne)]) (fun _ hn => by cases hn) ?_
  rw [hc, if_pos rfl, List.append_nil]
  exact hsite

theorem Outcomes.takeAbort
    (hsite : SiteOutcome V s { (sys.world.control s) with abortRequested := false }
      (Notice.wakeups sys.pending s) p) :
    Outcomes V
      { sys with
        world := (sys.world.takeAbort s).2
        procs := sys.setProc s p
        pending := sys.pending ++ [] } := by
  have hc := World.control_takeAbort (h.hasControl s hs)
  refine ho.local (fun s' hne => by rw [hc, if_neg (Ne.symm hne)]) (fun _ hn => by cases hn) ?_
  rw [hc, if_pos rfl, List.append_nil]
  exact hsite

end Local

theorem release_notices_call (c : Coordinator Unit) (tx : TxId) :
    ∀ n ∈ (c.release tx).2.2, n.call ≠ .abort := by
  intro n hn
  rw [Coordinator.release_eq] at hn
  obtain ⟨⟨s', k⟩, hp, he⟩ := List.mem_filterMap.mp hn
  obtain ⟨e, -, rfl⟩ := Option.map_eq_some_iff.mp he
  obtain ⟨s'', -, hp⟩ := List.mem_flatMap.mp hp
  simp only [List.mem_cons, Prod.mk.injEq, List.not_mem_nil, or_false] at hp
  rcases hp with ⟨-, rfl⟩ | ⟨-, rfl⟩ <;> simp

/-- A step of an agent keeps what the reports say, with the victims unchanged. -/
theorem Outcomes.agent (h : Inv σ sys) (ho : Outcomes V sys) (hs : s ∈ sys.sites)
    (hstep : (sys.procs s).step s sys.world = some (p, w, ns, c)) :
    Outcomes V { sys with world := w, procs := sys.setProc s p, pending := sys.pending ++ ns } := by
  have hsite := ho s hs
  unfold Proc.step at hstep
  cases hph : (sys.procs s).phase with
  | next =>
    rw [hph] at hstep
    dsimp only at hstep
    split at hstep
    · simp only [Option.some.injEq, Prod.mk.injEq] at hstep
      obtain ⟨rfl, rfl, rfl, rfl⟩ := hstep
      exact ho.setState h hs .idle (hsite.keep hph rfl Iff.rfl fun _ _ hr => by cases hr)
    · rename_i t ts hq
      simp only [Option.some.injEq, Prod.mk.injEq] at hstep
      obtain ⟨rfl, rfl, rfl, rfl⟩ := hstep
      exact ho.takeAbort h hs (hsite.start hph hq)
  | begin f =>
    simp only [hph, Option.some.injEq, Prod.mk.injEq] at hstep
    obtain ⟨rfl, rfl, rfl, rfl⟩ := hstep
    exact ho.setState h hs .running (hsite.keep hph rfl Iff.rfl fun _ _ hr => by cases hr)
  | check f =>
    obtain ⟨-, hflag, -⟩ := h.site_at hs hph
    rw [hph, World.takeAbort_eq_pair, hflag] at hstep
    simp only [Option.some.injEq, Prod.mk.injEq, Bool.false_eq_true, if_false] at hstep
    obtain ⟨rfl, rfl, rfl, rfl⟩ := hstep
    refine ho.takeAbort h hs (hsite.keep hph ?_ ?_ ?_)
    -- the agent goes on to commit, to ask for a lock, or to run the next operation
    · split
      · rfl
      · split <;> rfl
    · split
      · exact Iff.rfl
      · split <;> exact Iff.rfl
    · intro f' o hr
      split at hr
      · cases hr
      · split at hr <;> cases hr
  | block f =>
    simp only [hph, Option.some.injEq, Prod.mk.injEq] at hstep
    obtain ⟨rfl, rfl, rfl, rfl⟩ := hstep
    exact ho.setState h hs .blocked (hsite.keep hph rfl Iff.rfl fun _ _ hr => by cases hr)
  | request f =>
    obtain ⟨hws, hflag, -, -, -⟩ := h.site_at hs hph
    rw [hph] at hstep
    dsimp only at hstep
    split at hstep
    · rename_i o more hr
      simp only [Option.some.injEq, Prod.mk.injEq] at hstep
      obtain ⟨rfl, rfl, rfl, rfl⟩ := hstep
      refine ho.quiet (World.control_of_controls rfl) (hsite.keep hph ?_ ?_ fun _ _ hr => ?_)
      · split <;> rfl
      · -- a refused request leaves the agent waiting, with no call on its way and no flag up
        split
        · exact Iff.rfl
        · simp [Phase.Struck, hws, hflag]
      · split at hr <;> cases hr
    · cases hstep
  | granted f =>
    obtain ⟨-, hflag, -, -⟩ := h.site_at hs hph
    simp only [hph, Option.some.injEq, Prod.mk.injEq] at hstep
    obtain ⟨rfl, rfl, rfl, rfl⟩ := hstep
    refine ho.setState h hs .running (hsite.keep hph rfl ?_ fun _ _ hr => by cases hr)
    simp [Phase.Struck, hflag]
  | wait f =>
    rw [hph] at hstep
    dsimp only at hstep
    split at hstep
    · cases hstep
    · rename_i hnb
      simp only [Option.some.injEq, Prod.mk.injEq] at hstep
      obtain ⟨rfl, rfl, rfl, rfl⟩ := hstep
      -- a site no longer blocked has no call on its way
      obtain ⟨hws, -⟩ := (h.site_at hs hph).running hnb
      exact ho.quiet (fun _ => rfl)
        (hsite.keep hph rfl (by simp [Phase.Struck, hws]) fun _ _ hr => by cases hr)
  | recheck f =>
    rw [hph, World.takeAbort_eq_pair] at hstep
    simp only [Option.some.injEq, Prod.mk.injEq] at hstep
    obtain ⟨rfl, rfl, rfl, rfl⟩ := hstep
    refine ho.takeAbort h hs (hsite.keep hph ?_ ?_ ?_)
    · split <;> rfl
    · -- the flag taken decides between abandoning and running the operation
      split
      · rename_i hflag
        exact iff_of_true trivial hflag
      · rename_i hflag
        simp [Phase.Struck, hflag]
    · intro f' o hr
      split at hr <;> cases hr
  | execute f =>
    rw [hph] at hstep
    dsimp only at hstep
    split at hstep
    · split at hstep
      · simp only [Option.some.injEq, Prod.mk.injEq] at hstep
        obtain ⟨rfl, rfl, rfl, rfl⟩ := hstep
        exact ho.quiet (World.control_of_controls rfl)
          (hsite.keep hph rfl Iff.rfl fun _ _ hr => by cases hr)
      · simp only [Option.some.injEq, Prod.mk.injEq] at hstep
        obtain ⟨rfl, rfl, rfl, rfl⟩ := hstep
        exact ho.quiet (fun _ => rfl)
          (hsite.keep hph rfl Iff.rfl fun _ _ hr => by cases hr; simp)
    · cases hstep
  | commit f rest =>
    rw [hph] at hstep
    dsimp only at hstep
    split at hstep
    · simp only [Option.some.injEq, Prod.mk.injEq] at hstep
      obtain ⟨rfl, rfl, rfl, rfl⟩ := hstep
      exact ho.quiet (fun _ => rfl)
        (hsite.keep hph rfl Iff.rfl fun _ _ hr => by cases hr; simp)
    · split at hstep
      · simp only [Option.some.injEq, Prod.mk.injEq] at hstep
        obtain ⟨rfl, rfl, rfl, rfl⟩ := hstep
        exact ho.quiet (World.control_of_controls rfl)
          (hsite.keep hph rfl Iff.rfl fun _ _ hr => by cases hr)
      · simp only [Option.some.injEq, Prod.mk.injEq] at hstep
        obtain ⟨rfl, rfl, rfl, rfl⟩ := hstep
        exact ho.quiet (fun _ => rfl)
          (hsite.keep hph rfl Iff.rfl fun _ _ hr => by cases hr; simp)
  | release f o =>
    simp only [hph, Option.some.injEq, Prod.mk.injEq] at hstep
    obtain ⟨rfl, rfl, rfl, rfl⟩ := hstep
    have hf : (sys.procs s).phase.inFlight? = some f := by rw [hph]; rfl
    refine ho.local (fun s' _ => World.control_of_controls rfl s')
      (release_notices_call _ _) ?_
    rw [World.control_of_controls rfl s]
    -- a release ends a transaction that is no victim, and not as aborted
    refine hsite.finish hf (h.shaped_at hs hph rfl).atSite.site ?_
    have hno := hsite.released f o hph
    rw [hsite.current f hf, hph]
    exact iff_of_false id hno
  | abandon f =>
    simp only [hph, Option.some.injEq, Prod.mk.injEq] at hstep
    obtain ⟨rfl, rfl, rfl, rfl⟩ := hstep
    exact ho.setState h hs .aborting (hsite.keep hph rfl Iff.rfl fun _ _ hr => by cases hr)
  | abandoned f =>
    simp only [hph, Option.some.injEq, Prod.mk.injEq] at hstep
    obtain ⟨rfl, rfl, rfl, rfl⟩ := hstep
    have hf : (sys.procs s).phase.inFlight? = some f := by rw [hph]; rfl
    refine ho.setState h hs .running (hsite.finish hf (h.shaped_at hs hph rfl).atSite.site ?_)
    -- an abandoned transaction is a victim
    rw [hsite.current f hf, hph]
    exact iff_of_true trivial rfl
  | idle =>
    rw [hph] at hstep
    cases hstep

theorem Outcomes.deliver (h : Inv σ sys) (ho : Outcomes V sys) {before after : List (Notice Unit)}
    {n : Notice Unit} (hp : sys.pending = before ++ n :: after) :
    Outcomes V { sys with world := sys.world.deliver n.site n.call, pending := before ++ after } := by
  have hn : n.site ∈ sys.sites := h.pending n (by rw [hp]; simp)
  have hctl := World.control_deliver (h.hasControl n.site hn) n.call
  intro s' hs'
  have hsite := ho s' hs'
  have hwake : Notice.wakeups sys.pending s' = Notice.wakeups before s' ++
      ((if n.site = s' ∧ n.call ≠ .write then [n.call] else []) ++ Notice.wakeups after s') := by
    rw [hp, Notice.wakeups_append, Notice.wakeups_cons]
  rw [hwake] at hsite
  simp only [hctl, Notice.wakeups_append]
  by_cases he : n.site = s'
  · subst he
    rw [if_pos rfl]
    by_cases hk : n.call = .write
    · rw [hk, SiteControl.receive_write]
      rw [if_neg fun hc => hc.2 hk, List.nil_append] at hsite
      exact hsite
    · rw [if_pos ⟨rfl, hk⟩] at hsite
      -- only a waiting agent has a call on its way; an unblock leaves the flag, an abort raises it
      obtain ⟨f, hf⟩ : ∃ f, (sys.procs n.site).phase = .wait f := by
        cases hq : (sys.procs n.site).phase
        case wait f => exact ⟨f, rfl⟩
        all_goals
          have := (h.site n.site hn).quiet (by rw [hq]; rfl)
          rw [hwake, if_pos ⟨rfl, hk⟩] at this
          simp at this
      refine ⟨hsite.ids, hsite.finishedSite, hsite.finished, fun f' hf' => ?_, hsite.fresh,
        hsite.released⟩
      rw [hsite.current f' hf', hf]
      cases hc : n.call with
      | write => exact absurd hc hk
      | unblock =>
        have hflag : ((sys.world.control n.site).receive .unblock).abortRequested =
            (sys.world.control n.site).abortRequested := by
          simp only [SiteControl.receive, SiteControl.releaseBlock]
          split <;> rfl
        simp [Phase.Struck, hflag]
      | abort => simp [Phase.Struck]
  · rw [if_neg he]
    rw [if_neg fun hc => he hc.1, List.nil_append] at hsite
    exact hsite

/-- A deadlock check that found one adds its victim to the victims. -/
theorem Outcomes.check (h : Inv σ sys) (ho : Outcomes V sys) :
    Outcomes (V ++ (sys.world.coord.check.1.map (·.victim)).toList)
      { sys with
        world := { sys.world with coord := sys.world.coord.check.2.1 }
        pending := sys.pending ++ sys.world.coord.check.2.2 } := by
  intro s' hs'
  dsimp only at hs' ⊢
  -- a check changes no site's control block
  show SiteOutcome _ _ (sys.world.control s') _ _
  rw [Notice.wakeups_append]
  obtain ⟨hsites, ⟨hnone, hns⟩ | ⟨v, ⟨i, o, ho', hov⟩, hv, hns⟩⟩ :=
    Coordinator.check_victim sys.world.coord
  · rw [hnone, hns, Option.map_none, Option.toList_none, List.append_nil, Notice.wakeups_nil,
      List.append_nil]
    exact ho s' hs'
  rw [hv, Option.toList_some]
  -- the victim waits at its site, which gets the abort; every other site at most an unblock
  obtain ⟨hsv, fv, hfv, hheadv⟩ := h.waiters i o ho'
  rw [hov] at hsv hfv
  have hfvid : fv.tx.id = v := by
    rw [← hov, (h.shaped_at hsv hfv rfl).tx_of_head hheadv]
  by_cases he : siteOf v = s'
  · subst he
    have hb : sys.world.coord.check.2.1.endpoint? (siteOf v) = some () := by
      rw [Coordinator.endpoint?_of_sites hsites]
      exact h.bound _ hsv
    have habort : SiteCall.abort ∈ Notice.wakeups sys.world.coord.check.2.2 (siteOf v) := by
      rw [hns]
      exact Notice.abort_mem_wakeups_notices.mpr ⟨hb, List.mem_cons_self⟩
    have := (ho _ hsv).strike hfv (List.mem_append_right (Notice.wakeups sys.pending (siteOf v)) habort)
    rwa [hfvid] at this
  · refine ((ho s' hs').victim he (fun f hf => (h.shaped s' hs' f hf).atSite.site)
      (fun t ht => (h.queue s' hs' t ht).site)).calls rfl ?_
    rw [List.mem_append, or_iff_left_iff_imp]
    intro hk
    rw [hns] at hk
    have hcall := (Notice.abort_mem_wakeups_notices.mp hk).2
    simp only [List.mem_cons, Prod.mk.injEq, List.mem_map, reduceCtorEq, and_false,
      exists_false, or_false] at hcall
    exact absurd hcall.1.symm he

/-- A run that also records the victims of the deadlock checks along it, in the order they were
chosen. -/
inductive VictimRun : System → List TxId → System → Prop
  | refl (sys : System) : VictimRun sys [] sys
  /-- The agent of a site takes its next step. -/
  | agent {sys sys' : System} {V : List TxId} {s : SiteId} {p : Proc} {w : World}
      {ns : List (Notice Unit)} {c : Option Transaction} :
      VictimRun sys V sys' → s ∈ sys'.sites → (sys'.procs s).step s sys'.world = some (p, w, ns, c) →
      VictimRun sys V
        { sys' with world := w, procs := sys'.setProc s p, pending := sys'.pending ++ ns }
  /-- A pending notice reaches its site. -/
  | deliver {sys sys' : System} {V : List TxId} (before after : List (Notice Unit))
      (n : Notice Unit) :
      VictimRun sys V sys' → sys'.pending = before ++ n :: after →
      VictimRun sys V
        { sys' with world := sys'.world.deliver n.site n.call, pending := before ++ after }
  /-- The coordinator runs a deadlock check. -/
  | check {sys sys' : System} {V : List TxId} :
      VictimRun sys V sys' →
      VictimRun sys (V ++ (sys'.world.coord.check.1.map (·.victim)).toList)
        { sys' with
          world := { sys'.world with coord := sys'.world.coord.check.2.1 }
          pending := sys'.pending ++ sys'.world.coord.check.2.2 }

/-- A system before any transaction ran: nothing reported yet, and the transactions of each site
have distinct ids, as the site's id generator hands them out. -/
structure Fresh (sys : System) : Prop where
  report : ∀ s ∈ sys.sites, (sys.procs s).report.finished = []
  ids : ∀ s ∈ sys.sites, ((sys.procs s).queue.map (·.id)).Nodup

theorem fresh_start {sites : List SiteId} {queues : SiteId → List Transaction} {store : Store}
    (hq : ∀ s ∈ sites, ((queues s).map (·.id)).Nodup) : Fresh (start sites queues store) where
  report _ _ := rfl
  ids := hq

theorem Fresh.outcomes (h₀ : Initial sys₀) (hf : Fresh sys₀) : Outcomes [] sys₀ := by
  intro s hs
  have hph := h₀.phase s hs
  refine ⟨?_, ?_, ?_, ?_, fun _ _ => List.not_mem_nil, ?_⟩
  · rw [Proc.ids, hf.report s hs, hph]
    exact hf.ids s hs
  · rw [hf.report s hs]
    intro u hu
    cases hu
  · rw [hf.report s hs]
    intro u hu
    cases hu
  · rw [hph]
    intro f hf'
    cases hf'
  · rw [hph]
    intro f o hr
    cases hr

/-- Along a run with its victims, the invariant and the agreement of the reports with the
victims hold together. -/
theorem VictimRun.inv (h₀ : Initial sys₀) (hf : Fresh sys₀) (hrun : VictimRun sys₀ V sys) :
    ∃ σ, Inv σ sys ∧ Outcomes V sys := by
  induction hrun with
  | refl => exact ⟨_, h₀.inv, hf.outcomes h₀⟩
  | agent _ hs hstep ih =>
    obtain ⟨σ, h, ho⟩ := ih
    obtain ⟨σ', -, h'⟩ := h.agent hs hstep
    exact ⟨σ', h', ho.agent h hs hstep⟩
  | deliver before after n _ hp ih =>
    obtain ⟨σ, h, ho⟩ := ih
    exact ⟨σ, h.deliver hp, ho.deliver h hp⟩
  | check _ ih =>
    obtain ⟨σ, h, ho⟩ := ih
    exact ⟨σ, h.check, ho.check h⟩

/-- A site and the coordinator agree on how each transaction ended. Once the agent of a site has
finished a transaction, the coordinator holds no lock and no waiting operation of it, and the
site reports it aborted exactly when a deadlock check chose it as victim. -/
theorem VictimRun.outcomes_agree (h₀ : Initial sys₀) (hf : Fresh sys₀)
    (hrun : VictimRun sys₀ V sys) (hs : s ∈ sys.sites) {u : TxId}
    (hu : u ∈ (sys.procs s).report.finished) :
    sys.world.coord.table.HoldsNone u ∧ sys.world.coord.table.WaitsNone u ∧
      (u ∈ (sys.procs s).report.aborted ↔ u ∈ V) := by
  obtain ⟨σ, h, ho⟩ := hrun.inv h₀ hf
  have hsite := ho s hs
  have husite : siteOf u = s := hsite.finishedSite u hu
  -- a lock or a waiting operation of `u` would belong to the transaction in flight at its site
  refine ⟨fun i l hl hown => ?_, fun i o ho' hotx => ?_, hsite.finished u hu⟩
  · obtain ⟨f, hf', hfu⟩ := Phase.exists_inFlight?_of_holder? (h.holder_of_lock hl (hown ▸ husite))
    exact hsite.not_finished_of_inFlight hf' (hfu.trans hown ▸ hu)
  · obtain ⟨-, f, hf', hhead⟩ := h.waiters i o ho'
    rw [hotx, husite] at hf'
    have hid : f.tx.id = u := ((h.shaped_at hs hf' rfl).tx_of_head hhead).symm.trans hotx
    exact hsite.not_finished_of_inFlight (f := f) (by rw [hf']; rfl) (hid ▸ hu)

/-- The write of site 1 fails for want of a computed value, and its agent releases its lock: the
coordinator then holds nothing of it, and no check chose it. -/
theorem writerReader_writer_released : ∃ sys, VictimRun writerReader [] sys ∧
    sys.world.coord.table.HoldsNone 10001 ∧ sys.world.coord.table.WaitsNone 10001 ∧
      (10001 ∈ (sys.procs 1).report.aborted ↔ 10001 ∈ ([] : List TxId)) := by
  have hf : Fresh writerReader := fresh_start fun s _ => by
    by_cases h : s = 1 <;> simp [h, writeX, readX]
  have h1 : (1 : SiteId) ∈ [1, 2] := List.mem_cons_self
  -- take, begin, check, block, request (granted), recheck, execute (fails), release
  have r := VictimRun.agent (VictimRun.refl writerReader) (s := 1) h1 rfl
  iterate 8 have r := VictimRun.agent r (s := 1) h1 rfl
  exact ⟨_, r, VictimRun.outcomes_agree writerReader_initial hf r h1 (by decide)⟩

def readXY : Transaction := ⟨10001, [⟨10001, "x", .read⟩, ⟨10001, "y", .read⟩]⟩

/-- Site 1 runs the transaction reading `x`, then `y`. -/
def readerXY : System := start [1] (fun _ => [readXY]) {}

/-- With endpoints that fail, a finished transaction can keep its locks: the read lock on `x`
is granted, the request for `y` is lost on the way, and the agent ends the transaction as failed
without releasing the lock. -/
theorem readerXY_lost_request_keeps_lock : ∃ sys, Initial readerXY ∧ Fresh readerXY ∧
    FaultyRun readerXY [] sys ∧ 10001 ∈ (sys.procs 1).report.finished ∧
    ¬ sys.world.coord.table.HoldsNone 10001 := by
  have h₀ : Initial readerXY := by
    refine start_initial ?_ rfl ItemMap.sorted_empty
    intro s hs t ht
    simp only [List.mem_singleton] at hs ht
    subst hs ht
    exact ⟨by decide, by decide⟩
  have hf : Fresh readerXY := fresh_start fun _ _ => by simp [readXY]
  have h1 : (1 : SiteId) ∈ [1] := List.mem_singleton_self 1
  -- take, begin, check, block, request (granted), recheck, read, check, block, request
  have r := FaultyRun.tail (FaultyRun.refl readerXY) (.step (Step.agent (s := 1) h1 rfl))
  iterate 9 have r := FaultyRun.tail r (.step (Step.agent (s := 1) h1 rfl))
  have r := FaultyRun.tail r (.fail (s := 1) (k := .lost) h1 rfl)
  exact ⟨_, h₀, hf, r, by decide, fun h => h "x" ⟨.read, "x", 10001⟩ (by decide) rfl⟩

end System
end TwoPhaseLocking
