import TwoPhaseLocking.Proofs.System.Coordinator

/-!
Serializability of the system. Every step keeps the invariant, relative to the store that the
commits finished so far leave when run one after another; so does every run from an initial
system. When no commit is in progress the store is that serial store, and throughout no
operation runs and no commit writes without the lock it needs.
-/
namespace TwoPhaseLocking

attribute [ext] Store

namespace System

variable {σ : Store} {sys sys₀ : System} {s : SiteId} {p : Proc} {w : World}
  {ns : List (Notice Unit)} {c : Option Transaction} {C : List Transaction}

theorem Inv.agent (h : Inv σ sys) (hs : s ∈ sys.sites)
    (hstep : (sys.procs s).step s sys.world = some (p, w, ns, c)) :
    ∃ σ', Transaction.runSerially c.toList σ = .ok σ' ∧
      Inv σ' { sys with world := w, procs := sys.setProc s p, pending := sys.pending ++ ns } := by
  cases hph : (sys.procs s).phase with
  | next => exact h.step_next hs hstep hph
  | begin f => exact h.step_begin hs hstep hph
  | check f => exact h.step_check hs hstep hph
  | block f => exact h.step_block hs hstep hph
  | request f => exact h.step_request hs hstep hph
  | granted f => exact h.step_granted hs hstep hph
  | wait f => exact h.step_wait hs hstep hph
  | recheck f => exact h.step_recheck hs hstep hph
  | execute f => exact h.step_execute hs hstep hph
  | commit f rest => exact h.step_commit hs hstep hph
  | release f out => exact h.step_release hs hstep hph
  | abandon f => exact h.step_abandon hs hstep hph
  | abandoned f => exact h.step_abandoned hs hstep hph
  | idle =>
    unfold Proc.step at hstep
    rw [hph] at hstep
    cases hstep

/-- A step keeps the invariant, moving the serial store on by the commit it finished. -/
theorem Inv.step (h : Inv σ sys) {sys' : System} (hstep : Step sys c sys') :
    ∃ σ', Transaction.runSerially c.toList σ = .ok σ' ∧ Inv σ' sys' := by
  cases hstep with
  | agent hs hst => exact h.agent hs hst
  | deliver before after n hp => exact ⟨σ, rfl, h.deliver hp⟩
  | check => exact ⟨σ, rfl, h.check⟩

/-- A run from an initial system keeps the invariant relative to the store that its finished
commits leave when run one after another on the initial store. -/
theorem Run.inv (h₀ : Initial sys₀) (hrun : Run sys₀ C sys) :
    ∃ σ, Transaction.runSerially C sys₀.world.store = .ok σ ∧ Inv σ sys := by
  induction hrun with
  | refl => exact ⟨_, rfl, h₀.inv⟩
  | tail _ hstep ih =>
    obtain ⟨σ, hC, h⟩ := ih
    obtain ⟨σ', hc, h'⟩ := h.step hstep
    exact ⟨σ', by rw [Transaction.runSerially_append hC, hc], h'⟩

/-! ### The store -/

theorem Inv.store_eq (h : Inv σ sys)
    (hidle : ∀ s ∈ sys.sites, ∀ f rest, (sys.procs s).phase ≠ .commit f rest) :
    sys.world.store = σ := by
  have hnone : ∀ i v, ¬ sys.Writes i v := by
    rintro i v ⟨s, hs, hw⟩
    obtain ⟨f, rest, hq, -⟩ := Phase.written_cases hw
    exact hidle s hs f rest hq
  have hitems : sys.world.store.items = σ.items :=
    ItemMap.Sorted.ext h.agrees.sorted h.agrees.serialSorted
      fun i => h.agrees.unwritten i fun v => hnone i v
  apply Store.ext
  · exact hitems
  · rw [h.agrees.budget, h.agrees.serialBudget]
  · exact h.agrees.failure.symm

/-- Conflict-serializability: whenever no commit is in progress, the store is what running the
transactions whose commits finished, one after another in the order they finished, makes of
the initial store. -/
theorem Run.store_eq_serial (h₀ : Initial sys₀) (hrun : Run sys₀ C sys)
    (hidle : ∀ s ∈ sys.sites, ∀ f rest, (sys.procs s).phase ≠ .commit f rest) :
    Transaction.runSerially C sys₀.world.store = .ok sys.world.store := by
  obtain ⟨σ, hC, h⟩ := hrun.inv h₀
  rw [hC, h.store_eq hidle]

/-- Both readers of `x` take their shared lock; then site 2 and site 1 in turn read, commit and
release, and the store is the one their serial run in that order leaves. -/
theorem sharedReaders_store_serial : ∃ sys, Initial sharedReaders ∧
    Run sharedReaders [readOfX 20001, readOfX 10001] sys ∧
    (∀ s ∈ sys.sites, ∀ f rest, (sys.procs s).phase ≠ .commit f rest) ∧
    Transaction.runSerially [readOfX 20001, readOfX 10001] sharedReaders.world.store =
      .ok sys.world.store := by
  have h₀ := sharedReaders_initial
  have h1 : (1 : SiteId) ∈ [1, 2] := List.mem_cons_self
  have h2 : (2 : SiteId) ∈ [1, 2] := List.mem_cons_of_mem _ (List.mem_singleton_self 2)
  -- site 1: take, begin, check, block, request, granted, recheck
  have r := Run.tail (Run.refl sharedReaders) (Step.agent (s := 1) h1 rfl)
  iterate 6 have r := Run.tail r (Step.agent (s := 1) h1 rfl)
  -- site 2: the same seven, then read, check, write back, finish, release
  iterate 12 have r := Run.tail r (Step.agent (s := 2) h2 rfl)
  -- site 1: read, check, write back, finish, release
  iterate 5 have r := Run.tail r (Step.agent (s := 1) h1 rfl)
  refine (fun hidle => ⟨_, h₀, r, hidle, Run.store_eq_serial h₀ r hidle⟩) ?_
  -- both agents are back before their next transaction
  intro s hs f rest h
  obtain rfl | rfl : s = 1 ∨ s = 2 := by simpa [sharedReaders, start] using hs
  all_goals simp [setProc] at h

/-! ### The locks -/

/-- The locks the agents rely on. An agent about to run a read holds a read or read/write lock
on its item, one about to run a write a write or read/write lock; a committing agent holds a
lock on every item it staged and a write or read/write lock on every item its transaction
writes; an agent back from waiting holds the lock of its operation, unless its transaction was
aborted, in which case the abort flag of its site is set. -/
structure LockSafe (sys : System) : Prop where
  read : ∀ s ∈ sys.sites, ∀ f o more, (sys.procs s).phase = .execute f → f.rest = o :: more →
    o.kind = .read → ∃ l ∈ sys.world.coord.table.holders o.item, l.owner = f.tx.id ∧
      (l.mode = .read ∨ l.mode = .readWrite)
  write : ∀ s ∈ sys.sites, ∀ f o more, (sys.procs s).phase = .execute f → f.rest = o :: more →
    o.kind = .write → ∃ l ∈ sys.world.coord.table.holders o.item, l.owner = f.tx.id ∧
      (l.mode = .write ∨ l.mode = .readWrite)
  staged : ∀ s ∈ sys.sites, ∀ f rest, (sys.procs s).phase = .commit f rest →
    ∀ i v, (i, v) ∈ f.staging.toCommit.entries →
      ∃ l ∈ sys.world.coord.table.holders i, l.owner = f.tx.id
  written : ∀ s ∈ sys.sites, ∀ f rest, (sys.procs s).phase = .commit f rest →
    ∀ o ∈ f.tx.ops, o.kind = .write → ∃ l ∈ sys.world.coord.table.holders o.item,
      l.owner = f.tx.id ∧ (l.mode = .write ∨ l.mode = .readWrite)
  woken : ∀ s ∈ sys.sites, ∀ f, (sys.procs s).phase = .recheck f →
    f.HeadCovered sys.world.coord.table ∨
      ((sys.world.control s).abortRequested = true ∧ sys.world.coord.table.Doomed f.tx.id)

theorem Inv.head_lock (h : Inv σ sys) (hs : s ∈ sys.sites) {f : InFlight} {o : Operation}
    {more : List Operation} (hph : (sys.procs s).phase = .execute f) (hr : f.rest = o :: more)
    (hk : o.requiresLock = true) :
    ∃ l ∈ sys.world.coord.table.holders o.item, l.owner = f.tx.id ∧
      (o.kind = .read → l.mode = .read ∨ l.mode = .readWrite) ∧
      (o.kind = .write → l.mode = .write ∨ l.mode = .readWrite) := by
  have hsi := h.site_at hs hph
  obtain ⟨-, -, -, hallowed⟩ := hsi
  have hhead : f.rest.head? = some o := by rw [hr]; rfl
  obtain ⟨l, hl, hown, hmode⟩ := (hallowed o hhead hk).exists_lock
  rw [(h.shaped_at hs hph rfl).tx_of_head hhead] at hown
  exact ⟨l, hl, hown, hmode⟩

theorem LockSafe.of_inv (h : Inv σ sys) : LockSafe sys where
  read s hs f o more hph hr hk := by
    obtain ⟨l, hl, hown, hread, -⟩ := h.head_lock hs hph hr (by simp [Operation.requiresLock, hk])
    exact ⟨l, hl, hown, hread hk⟩
  write s hs f o more hph hr hk := by
    obtain ⟨l, hl, hown, -, hwrite⟩ := h.head_lock hs hph hr (by simp [Operation.requiresLock, hk])
    exact ⟨l, hl, hown, hwrite hk⟩
  staged s hs f rest hph i v hv := by
    obtain ⟨l, hl, hown, -⟩ := h.committer hs hph hv
    exact ⟨l, hl, hown⟩
  written s hs f rest hph o ho hk := by
    have hsi := h.site_at hs hph
    obtain ⟨-, hlive, hrest, -⟩ := hsi
    have hsh : f.Shaped s := h.shaped_at hs hph rfl
    -- a committing transaction has run all its operations, each under its lock
    rw [← hsh.done_of_nil hrest] at ho
    have hcov := hlive.covered o ho (by simp [Operation.requiresLock, hk])
    obtain ⟨l, hl, hown, -, hwrite⟩ := hcov.exists_lock
    exact ⟨l, hl, hown.trans (hsh.tx_of_mem (.inl ho)), hwrite hk⟩
  woken s hs f hph := by
    have hsi := h.site_at hs hph
    obtain ⟨-, ⟨-, -, hcov⟩ | ⟨hflag, hdoomed⟩⟩ := hsi
    · exact .inl hcov
    · exact .inr ⟨hflag, hdoomed⟩

/-- No operation runs unlocked, in every state a run from an initial system reaches. -/
theorem Run.lockSafe (h₀ : Initial sys₀) (hrun : Run sys₀ C sys) : LockSafe sys := by
  obtain ⟨σ, -, h⟩ := hrun.inv h₀
  exact LockSafe.of_inv h

/-- Both readers of `x` hold their shared lock and are about to run their reads. -/
theorem sharedReaders_lockSafe_while_both_read : ∃ sys f₁ f₂, Initial sharedReaders ∧
    Run sharedReaders [] sys ∧ (sys.procs 1).phase = .execute f₁ ∧
    (sys.procs 2).phase = .execute f₂ ∧ LockSafe sys := by
  have h₀ := sharedReaders_initial
  have h1 : (1 : SiteId) ∈ [1, 2] := List.mem_cons_self
  have h2 : (2 : SiteId) ∈ [1, 2] := List.mem_cons_of_mem _ (List.mem_singleton_self 2)
  -- each site: take, begin, check, block, request, granted, recheck
  have r := Run.tail (Run.refl sharedReaders) (Step.agent (s := 1) h1 rfl)
  iterate 6 have r := Run.tail r (Step.agent (s := 1) h1 rfl)
  iterate 7 have r := Run.tail r (Step.agent (s := 2) h2 rfl)
  exact ⟨_, _, _, h₀, r, rfl, rfl, Run.lockSafe h₀ r⟩

end System
end TwoPhaseLocking
