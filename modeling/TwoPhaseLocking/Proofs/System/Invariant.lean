import TwoPhaseLocking.Proofs.Lock.Ownership
import TwoPhaseLocking.Proofs.System.World
import TwoPhaseLocking.Proofs.Transaction.Serial

/-!
The invariant of a running system (`Inv`), relative to the serial store `σ` that running the
finished commits one after another leaves: what holds of each site depends on where its agent
stands (`SiteInv`), every lock belongs to the transaction in flight at its site, and the store is
`σ` but for what commits in progress have written.
-/
namespace TwoPhaseLocking

namespace Transaction

/-- A transaction of site `s`: its id comes from the site's generator, and its operations are
its own. -/
structure AtSite (s : SiteId) (t : Transaction) : Prop where
  site : siteOf t.id = s
  ops_tx : ∀ o ∈ t.ops, o.tx = t.id

end Transaction

namespace InFlight

variable {f : InFlight} {s : SiteId} {o : Operation} {more : List Operation}

def done (f : InFlight) : List Operation := f.tx.ops.take (f.tx.ops.length - f.rest.length)

/-- A transaction of site `s` in flight, with the operations to run a suffix of its own. -/
structure Shaped (s : SiteId) (f : InFlight) : Prop where
  atSite : f.tx.AtSite s
  suffix : f.rest <:+ f.tx.ops

theorem Shaped.done_append (h : f.Shaped s) : f.done ++ f.rest = f.tx.ops := by
  obtain ⟨pre, hpre⟩ := h.suffix
  have hlen : f.tx.ops.length - f.rest.length = pre.length := by
    rw [← hpre, List.length_append]
    omega
  rw [done, hlen, ← hpre, List.take_left]

theorem Shaped.tx_of_mem (h : f.Shaped s) (ho : o ∈ f.done ∨ o ∈ f.rest) : o.tx = f.tx.id := by
  apply h.atSite.ops_tx
  rw [← h.done_append]
  exact List.mem_append.mpr ho

theorem Shaped.tx_of_head (h : f.Shaped s) (ho : f.rest.head? = some o) : o.tx = f.tx.id :=
  h.tx_of_mem (.inr (List.mem_of_head? ho))

theorem Shaped.done_of_nil (h : f.Shaped s) (hr : f.rest = []) : f.done = f.tx.ops := by
  rw [← h.done_append, hr, List.append_nil]

theorem Shaped.advance (h : f.Shaped s) (hr : f.rest = o :: more) (st : Staging) :
    ({ f with rest := more, staging := st } : InFlight).Shaped s ∧
      ({ f with rest := more, staging := st } : InFlight).done = f.done ++ [o] := by
  have hops : f.tx.ops = (f.done ++ [o]) ++ more := by
    rw [← h.done_append, hr, List.append_assoc, List.singleton_append]
  refine ⟨⟨h.atSite, ⟨f.done ++ [o], hops.symm⟩⟩, ?_⟩
  have hlen : f.tx.ops.length - more.length = (f.done ++ [o]).length := by
    rw [hops, List.length_append]
    omega
  have hd : ({ f with rest := more, staging := st } : InFlight).done =
      f.tx.ops.take (f.done ++ [o]).length := by
    show f.tx.ops.take (f.tx.ops.length - more.length) = _
    rw [hlen]
  rw [hd, hops, List.take_left]

end InFlight

/-! ### Where an agent stands -/

namespace Phase

def inFlight? : Phase → Option InFlight
  | .next | .idle => none
  | .begin f | .check f | .block f | .request f | .granted f | .wait f | .recheck f
  | .execute f | .commit f _ | .release f _ | .abandon f | .abandoned f => some f

/-- The transaction that may hold locks: the one in flight from its first abort check until its
release, or until it is abandoned. -/
def holder? : Phase → Option TxId
  | .check f | .block f | .request f | .granted f | .wait f | .recheck f | .execute f
  | .commit f _ | .release f _ => some f.tx.id
  | _ => none

def isWait : Phase → Bool
  | .wait _ => true
  | _ => false

/-- The commit in progress has written `v` to item `i`. -/
def Written : Phase → String → Int → Prop
  | .commit f rest, i, v => (i, v) ∈ f.staging.toCommit.entries ∧ (i, v) ∉ rest
  | _, _, _ => False

theorem exists_inFlight?_of_holder? {p : Phase} {u : TxId} (hu : p.holder? = some u) :
    ∃ f, p.inFlight? = some f ∧ f.tx.id = u := by
  cases p <;> simp_all [inFlight?, holder?]

end Phase

/-! ### The lock table seen from one transaction -/

namespace LockTable

variable {t t' : LockTable} {u : TxId}

/-- The transaction holds nothing and waits for nothing: a deadlock check aborted it. -/
def Doomed (t : LockTable) (u : TxId) : Prop := t.HoldsNone u ∧ t.WaitsNone u

/-- What a change of the table leaves of a transaction: the locks that allow its operations,
its having been aborted, its having no waiting operation, and its waiting operations. -/
structure Keeps (t t' : LockTable) (u : TxId) : Prop where
  covers : ∀ o : Operation, o.tx = u → t.Covers o → t'.Covers o
  doomed : t.Doomed u → t'.Doomed u
  waitsNone : t.WaitsNone u → t'.WaitsNone u
  queued : ∀ o : Operation, o.tx = u → o ∈ t.queue o.item → o ∈ t'.queue o.item

theorem Keeps.refl (t : LockTable) (u : TxId) : t.Keeps t u :=
  ⟨fun _ _ h => h, id, id, fun _ _ h => h⟩

end LockTable

namespace InFlight

variable {f : InFlight} {t t' : LockTable} {σ : Store}

/-- The transaction in flight holds a lock that allows each lock-taking operation it ran, and
has staged what its operations stage when run against `σ`. -/
structure Live (t : LockTable) (σ : Store) (f : InFlight) : Prop where
  covered : ∀ o ∈ f.done, o.requiresLock = true → t.Covers o
  staged : ({} : Staging).executeAll f.tx.id f.done σ = .ok (f.staging, σ)

def HeadLocks (f : InFlight) : Prop := ∃ o, f.rest.head? = some o ∧ o.requiresLock = true

def HeadCovered (t : LockTable) (f : InFlight) : Prop := ∃ o, f.rest.head? = some o ∧ t.Covers o

def HeadAllowed (t : LockTable) (f : InFlight) : Prop :=
  ∀ o, f.rest.head? = some o → o.requiresLock = true → t.Covers o

theorem Live.keeps {s : SiteId} (h : f.Live t σ) (hs : f.Shaped s)
    (hc : ∀ o : Operation, o.tx = f.tx.id → t.Covers o → t'.Covers o) : f.Live t' σ :=
  ⟨fun o ho hl => hc o (hs.tx_of_mem (.inl ho)) (h.covered o ho hl), h.staged⟩

theorem HeadCovered.keeps {s : SiteId} (h : f.HeadCovered t) (hs : f.Shaped s)
    (hc : ∀ o : Operation, o.tx = f.tx.id → t.Covers o → t'.Covers o) : f.HeadCovered t' := by
  obtain ⟨o, ho, hco⟩ := h
  exact ⟨o, ho, hc o (hs.tx_of_head ho) hco⟩

theorem HeadAllowed.keeps {s : SiteId} (h : f.HeadAllowed t) (hs : f.Shaped s)
    (hc : ∀ o : Operation, o.tx = f.tx.id → t.Covers o → t'.Covers o) : f.HeadAllowed t' :=
  fun o ho hl => hc o (hs.tx_of_head ho) (h o ho hl)

theorem HeadCovered.headAllowed (h : f.HeadCovered t) : f.HeadAllowed t := by
  obtain ⟨o, ho, hc⟩ := h
  intro o' ho' _
  rw [ho] at ho'
  cases ho'
  exact hc

end InFlight

/-! ### What holds of one site -/

/-- The states of a site whose agent waits for the lock of its next operation, with the calls on
their way to the site. -/
inductive WaitState (t : LockTable) (σ : Store) (f : InFlight) : SiteControl → List SiteCall → Prop
  /-- The operation waits in its queue. -/
  | queued {c : SiteControl} {o : Operation} (live : f.Live t σ) (blocked : c.state = .blocked)
      (flag : c.abortRequested = false) (head : f.rest.head? = some o) (mem : o ∈ t.queue o.item) :
      WaitState t σ f c []
  /-- A release or an abort granted the operation; the unblock is on its way. -/
  | granted {c : SiteControl} (live : f.Live t σ) (blocked : c.state = .blocked)
      (flag : c.abortRequested = false) (covered : f.HeadCovered t)
      (waitsNone : t.WaitsNone f.tx.id) : WaitState t σ f c [.unblock]
  /-- The unblock arrived. -/
  | woken {c : SiteControl} (live : f.Live t σ) (running : c.state = .running)
      (flag : c.abortRequested = false) (covered : f.HeadCovered t)
      (waitsNone : t.WaitsNone f.tx.id) : WaitState t σ f c []
  /-- A deadlock check aborted the transaction; the abort is on its way. -/
  | struck {c : SiteControl} (doomed : t.Doomed f.tx.id) (blocked : c.state = .blocked)
      (flag : c.abortRequested = false) : WaitState t σ f c [.abort]
  /-- The abort arrived. -/
  | aborted {c : SiteControl} (doomed : t.Doomed f.tx.id) (running : c.state = .running)
      (flag : c.abortRequested = true) : WaitState t σ f c []

/-- What holds of a site, given the lock table, the serial store, the site's control block and
the calls on their way to it, by where its agent stands. -/
def SiteInv (t : LockTable) (σ : Store) (c : SiteControl) (ws : List SiteCall) : Phase → Prop
  | .begin f | .check f => ws = [] ∧ c.abortRequested = false ∧ f.Live t σ
  | .block f => ws = [] ∧ c.abortRequested = false ∧ f.Live t σ ∧ f.HeadLocks
  | .request f =>
    ws = [] ∧ c.abortRequested = false ∧ c.state = .blocked ∧ f.Live t σ ∧ f.HeadLocks
  | .granted f => ws = [] ∧ c.abortRequested = false ∧ f.Live t σ ∧ f.HeadCovered t
  | .wait f => WaitState t σ f c ws
  | .recheck f =>
    ws = [] ∧ ((c.abortRequested = false ∧ f.Live t σ ∧ f.HeadCovered t) ∨
      (c.abortRequested = true ∧ t.Doomed f.tx.id))
  | .execute f => ws = [] ∧ c.abortRequested = false ∧ f.Live t σ ∧ f.HeadAllowed t
  | .commit f rest => ws = [] ∧ f.Live t σ ∧ f.rest = [] ∧ rest <:+ f.staging.toCommit.entries
  | .next | .release _ _ | .abandon _ | .abandoned _ | .idle => ws = []

section Mono

variable {t t' : LockTable} {σ σ' : Store} {f : InFlight} {c : SiteControl} {ws : List SiteCall}
  {s : SiteId}

/-- What holds of a waiting site carries over to another table and serial store that keep what
its transaction relies on. -/
theorem WaitState.mono (h : WaitState t σ f c ws) (hs : f.Shaped s) (hk : t.Keeps t' f.tx.id)
    (hL : f.Live t σ → f.Live t' σ') : WaitState t' σ' f c ws := by
  cases h with
  | queued live blocked flag head mem =>
    exact .queued (hL live) blocked flag head (hk.queued _ (hs.tx_of_head head) mem)
  | granted live blocked flag covered waitsNone =>
    exact .granted (hL live) blocked flag (covered.keeps hs hk.covers) (hk.waitsNone waitsNone)
  | woken live running flag covered waitsNone =>
    exact .woken (hL live) running flag (covered.keeps hs hk.covers) (hk.waitsNone waitsNone)
  | struck doomed blocked flag => exact .struck (hk.doomed doomed) blocked flag
  | aborted doomed running flag => exact .aborted (hk.doomed doomed) running flag

/-- A waiting site whose site is no longer blocked has no call on its way: its operation was
granted, or its transaction aborted. -/
theorem WaitState.running (h : WaitState t σ f c ws) (hnb : c.state ≠ .blocked) :
    ws = [] ∧ ((c.abortRequested = false ∧ f.Live t σ ∧ f.HeadCovered t ∧ t.WaitsNone f.tx.id) ∨
      (c.abortRequested = true ∧ t.Doomed f.tx.id)) := by
  cases h with
  | queued _ blocked => exact absurd blocked hnb
  | granted _ blocked => exact absurd blocked hnb
  | woken live _ flag covered waitsNone => exact ⟨rfl, .inl ⟨flag, live, covered, waitsNone⟩⟩
  | struck _ blocked => exact absurd blocked hnb
  | aborted doomed _ flag => exact ⟨rfl, .inr ⟨flag, doomed⟩⟩

theorem WaitState.queued_of_mem (h : WaitState t σ f c ws) (hs : f.Shaped s) {o : Operation}
    {i : String} (hhead : f.rest.head? = some o) (hmem : o ∈ t.queue i) :
    ws = [] ∧ c.state = .blocked ∧ c.abortRequested = false ∧ f.Live t σ := by
  have hwaits : ¬ t.WaitsNone f.tx.id := fun hw => hw i o hmem (hs.tx_of_head hhead)
  cases h with
  | queued live blocked flag => exact ⟨rfl, blocked, flag, live⟩
  | granted _ _ _ _ waitsNone => exact absurd waitsNone hwaits
  | woken _ _ _ _ waitsNone => exact absurd waitsNone hwaits
  | struck doomed => exact absurd doomed.2 hwaits
  | aborted doomed => exact absurd doomed.2 hwaits

/-- What holds of a site carries over to another table and serial store that keep what its
transaction relies on. -/
theorem SiteInv.mono {p : Phase} (h : SiteInv t σ c ws p)
    (hs : ∀ f, p.inFlight? = some f → f.Shaped s)
    (hk : ∀ f, p.inFlight? = some f → t.Keeps t' f.tx.id)
    (hL : ∀ f, p.inFlight? = some f → f.Live t σ → f.Live t' σ') : SiteInv t' σ' c ws p := by
  cases p with
  | begin f | check f =>
    obtain ⟨hws, hflag, hlive⟩ := h
    exact ⟨hws, hflag, hL f rfl hlive⟩
  | block f =>
    obtain ⟨hws, hflag, hlive, hhead⟩ := h
    exact ⟨hws, hflag, hL f rfl hlive, hhead⟩
  | request f =>
    obtain ⟨hws, hflag, hblocked, hlive, hhead⟩ := h
    exact ⟨hws, hflag, hblocked, hL f rfl hlive, hhead⟩
  | granted f =>
    obtain ⟨hws, hflag, hlive, hhead⟩ := h
    exact ⟨hws, hflag, hL f rfl hlive, hhead.keeps (hs f rfl) (hk f rfl).covers⟩
  | wait f => exact WaitState.mono h (hs f rfl) (hk f rfl) (hL f rfl)
  | recheck f =>
    obtain ⟨hws, ⟨hflag, hlive, hhead⟩ | ⟨hflag, hdoomed⟩⟩ := h
    · exact ⟨hws, .inl ⟨hflag, hL f rfl hlive, hhead.keeps (hs f rfl) (hk f rfl).covers⟩⟩
    · exact ⟨hws, .inr ⟨hflag, (hk f rfl).doomed hdoomed⟩⟩
  | execute f =>
    obtain ⟨hws, hflag, hlive, hhead⟩ := h
    exact ⟨hws, hflag, hL f rfl hlive, hhead.keeps (hs f rfl) (hk f rfl).covers⟩
  | commit f rest =>
    obtain ⟨hws, hlive, hrest, hsuf⟩ := h
    exact ⟨hws, hL f rfl hlive, hrest, hsuf⟩
  | next | release | abandon | abandoned | idle => exact h

theorem SiteInv.keeps {p : Phase} (h : SiteInv t σ c ws p)
    (hs : ∀ f, p.inFlight? = some f → f.Shaped s)
    (hk : ∀ f, p.inFlight? = some f → t.Keeps t' f.tx.id) : SiteInv t' σ c ws p :=
  h.mono hs hk fun f hf hl => hl.keeps (hs f hf) (hk f hf).covers

end Mono

theorem SiteInv.quiet {t : LockTable} {σ : Store} {c : SiteControl} {ws : List SiteCall}
    {p : Phase} (h : SiteInv t σ c ws p) (hp : p.isWait = false) : ws = [] := by
  cases p <;> simp_all [SiteInv, Phase.isWait]

/-! ### The invariant -/

namespace System

def Writes (sys : System) (i : String) (v : Int) : Prop :=
  ∃ s ∈ sys.sites, (sys.procs s).phase.Written i v

/-- The store is the serial store `σ` but for the values the commits in progress have written
(`W`); neither store fails, and both are well-formed maps. -/
structure Agrees (σ store : Store) (W : String → Int → Prop) : Prop where
  budget : store.budget = none
  serialBudget : σ.budget = none
  failure : σ.failure = store.failure
  sorted : store.items.Sorted
  serialSorted : σ.items.Sorted
  written : ∀ i v, W i v → store.items.get? i = some v
  unwritten : ∀ i, (∀ v, ¬ W i v) → store.items.get? i = σ.items.get? i

/-- The invariant of a running system, relative to the serial store `σ`. -/
structure Inv (σ : Store) (sys : System) : Prop where
  wellFormed : sys.world.coord.table.WellFormed
  nodup : ∀ i, (sys.world.coord.table.queue i).Nodup
  bound : ∀ s ∈ sys.sites, sys.world.coord.endpoint? s = some ()
  hasControl : ∀ s ∈ sys.sites, sys.world.HasControl s
  pending : ∀ n ∈ sys.pending, n.site ∈ sys.sites
  queue : ∀ s ∈ sys.sites, ∀ t ∈ (sys.procs s).queue, t.AtSite s
  shaped : ∀ s ∈ sys.sites, ∀ f, (sys.procs s).phase.inFlight? = some f → f.Shaped s
  site : ∀ s ∈ sys.sites, SiteInv sys.world.coord.table σ (sys.world.control s)
    (Notice.wakeups sys.pending s) (sys.procs s).phase
  owners : ∀ i, ∀ l ∈ sys.world.coord.table.holders i,
    siteOf l.owner ∈ sys.sites ∧ (sys.procs (siteOf l.owner)).phase.holder? = some l.owner
  waiters : ∀ i, ∀ o ∈ sys.world.coord.table.queue i, siteOf o.tx ∈ sys.sites ∧
    ∃ f, (sys.procs (siteOf o.tx)).phase = .wait f ∧ f.rest.head? = some o
  agrees : Agrees σ sys.world.store sys.Writes

/-- A system as it starts: a fresh lock table, no call on its way, every site bound and with a
control block, every agent before its first transaction, with transactions of its own site, and
a store that never fails. -/
structure Initial (sys : System) : Prop where
  table : sys.world.coord.table = .empty
  pending : sys.pending = []
  bound : ∀ s ∈ sys.sites, sys.world.coord.endpoint? s = some ()
  hasControl : ∀ s ∈ sys.sites, sys.world.HasControl s
  phase : ∀ s ∈ sys.sites, (sys.procs s).phase = .next
  queue : ∀ s ∈ sys.sites, ∀ t ∈ (sys.procs s).queue, t.AtSite s
  budget : sys.world.store.budget = none
  sorted : sys.world.store.items.Sorted

theorem Initial.inv {sys : System} (h : Initial sys) : Inv sys.world.store sys where
  wellFormed := h.table ▸ LockTable.wellFormed_empty
  nodup i := by rw [h.table]; exact List.nodup_nil
  bound := h.bound
  hasControl := h.hasControl
  pending n hn := by rw [h.pending] at hn; cases hn
  queue := h.queue
  shaped s hs f hf := by rw [h.phase s hs] at hf; cases hf
  site s hs := by
    rw [h.phase s hs, h.pending]
    rfl
  owners i l hl := by rw [h.table] at hl; cases hl
  waiters i o ho := by rw [h.table] at ho; cases ho
  agrees :=
    { budget := h.budget
      serialBudget := h.budget
      failure := rfl
      sorted := h.sorted
      serialSorted := h.sorted
      written := fun i v ⟨s, hs, hw⟩ => by rw [h.phase s hs] at hw; cases hw
      unwritten := fun _ _ => rfl }

/-- The system with the given sites bound, each with a control block and its queue of
transactions, on the given store. -/
def start (sites : List SiteId) (queues : SiteId → List Transaction) (store : Store) : System where
  world :=
    { coord := { sites := sites.map (·, ()) }
      controls := sites.map fun s => { site := s }
      store := store }
  sites := sites
  procs s := { queue := queues s, report := { site := s } }

theorem start_initial {sites : List SiteId} {queues : SiteId → List Transaction} {store : Store}
    (hq : ∀ s ∈ sites, ∀ t ∈ queues s, t.AtSite s) (hb : store.budget = none)
    (hsorted : store.items.Sorted) : Initial (start sites queues store) where
  table := rfl
  pending := rfl
  bound s hs := by
    have hsome : ((sites.map (·, ())).find? (·.1 = s)).isSome :=
      List.find?_isSome.mpr ⟨(s, ()), List.mem_map_of_mem hs, by simp⟩
    obtain ⟨x, hx⟩ := Option.isSome_iff_exists.mp hsome
    show ((sites.map (·, ())).find? (·.1 = s)).map (·.2) = some ()
    rw [hx]
    rfl
  hasControl s hs := ⟨{ site := s }, List.mem_map_of_mem hs, rfl⟩
  phase _ _ := rfl
  queue := hq
  budget := hb
  sorted := hsorted

def readOfX (u : TxId) : Transaction := ⟨u, [⟨u, "x", .read⟩]⟩

/-- Sites 1 and 2 each run a transaction reading `x`, on the store where `x` is 1. -/
def sharedReaders : System :=
  start [1, 2] (fun s => if s = 1 then [readOfX 10001] else [readOfX 20001])
    { items := ⟨[("x", 1)]⟩ }

theorem sharedReaders_initial : Initial sharedReaders := by
  refine start_initial ?_ rfl (List.pairwise_singleton _ _)
  intro s hs t ht
  simp only [List.mem_cons, List.not_mem_nil, or_false] at hs
  rcases hs with rfl | rfl <;> simp at ht <;> subst ht <;> exact ⟨by decide, by decide⟩

section Facts

variable {σ : Store} {sys : System} {s : SiteId} {f : InFlight} {u : TxId}

@[simp] theorem setProc_self (sys : System) (s : SiteId) (p : Proc) : sys.setProc s p s = p := by
  simp [setProc]

theorem setProc_ne (sys : System) {s s' : SiteId} (p : Proc) (h : s' ≠ s) :
    sys.setProc s p s' = sys.procs s' := by
  simp [setProc, h]

theorem Inv.site_of_holder (h : Inv σ sys) (hs : s ∈ sys.sites)
    (hu : (sys.procs s).phase.holder? = some u) : siteOf u = s := by
  obtain ⟨f, hf, rfl⟩ := Phase.exists_inFlight?_of_holder? hu
  exact (h.shaped s hs f hf).atSite.site

theorem Inv.site_at (h : Inv σ sys) (hs : s ∈ sys.sites) {q : Phase}
    (hph : (sys.procs s).phase = q) :
    SiteInv sys.world.coord.table σ (sys.world.control s) (Notice.wakeups sys.pending s) q := by
  rw [← hph]
  exact h.site s hs

theorem Inv.shaped_at (h : Inv σ sys) (hs : s ∈ sys.sites) {q : Phase}
    (hph : (sys.procs s).phase = q) (hq : q.inFlight? = some f) : f.Shaped s :=
  h.shaped s hs f (by rw [hph]; exact hq)

theorem Inv.oneWaiterPerSite (h : Inv σ sys) : sys.world.coord.table.OneWaiterPerSite := by
  intro i j o ho o' ho' hsite
  obtain ⟨f, hf, hhead⟩ := (h.waiters i o ho).2
  obtain ⟨f', hf', hhead'⟩ := (h.waiters j o' ho').2
  rw [hsite, hf'] at hf
  cases hf
  rw [hhead] at hhead'
  exact Option.some.inj hhead'

theorem Inv.no_waiter (h : Inv σ sys) (hp : (sys.procs s).phase.isWait = false) :
    ∀ i, ∀ o ∈ sys.world.coord.table.queue i, siteOf o.tx ≠ s := by
  intro i o ho he
  obtain ⟨f, hf, -⟩ := (h.waiters i o ho).2
  rw [he] at hf
  rw [hf] at hp
  cases hp

theorem Inv.waitsNone (h : Inv σ sys) (hu : siteOf u = s)
    (hp : (sys.procs s).phase.isWait = false) : sys.world.coord.table.WaitsNone u :=
  fun i o ho hou => h.no_waiter hp i o ho (hou ▸ hu)

theorem Inv.holder_of_lock (h : Inv σ sys) {i : String} {l : Lock}
    (hl : l ∈ sys.world.coord.table.holders i) (he : siteOf l.owner = s) :
    (sys.procs s).phase.holder? = some l.owner :=
  he ▸ (h.owners i l hl).2

end Facts

end System
end TwoPhaseLocking
