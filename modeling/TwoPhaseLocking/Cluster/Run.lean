import TwoPhaseLocking.Site.Agent
import TwoPhaseLocking.Cluster.Action
import TwoPhaseLocking.Transaction.Script

/-!
A cluster run on a virtual clock: a coordinator, one agent per site, an optional deadlock
monitor and scripted interventions, all on one thread. Time jumps to the earliest timer only
when nothing can run; the run ends once every agent has finished, or at the deadline.
-/
namespace TwoPhaseLocking

/-- What runs on the clock. -/
inductive Task where
  /-- The deadlock monitor, checking once per period. -/
  | monitor
  /-- The scripted interventions, in list order, each at its time. -/
  | actions
  | agent (site : SiteId)
  deriving DecidableEq, Repr, Inhabited

/-- A timer: the task it wakes and when. -/
structure Timer where
  due : Nat
  task : Task
  deriving DecidableEq, Repr, Inhabited

namespace Timer

/-- Adds a timer to timers kept in firing order: by due time, and among timers due at once,
in the order they were set. -/
def insert (t : Timer) : List Timer → List Timer
  | [] => [t]
  | u :: us => if t.due < u.due then t :: u :: us else u :: insert t us

@[simp] theorem length_insert (t : Timer) (ts : List Timer) : (insert t ts).length = ts.length + 1 := by
  induction ts with
  | nil => rfl
  | cons u us ih => simp only [insert]; split <;> simp [ih]

end Timer

/-- The state of a cluster run. -/
structure Cluster where
  world : World
  agents : List Agent
  /-- Interventions not yet made, each with its time. -/
  pending : List (Nat × Action)
  /-- Interventions made, with the time each was made. -/
  results : List (Nat × ActionResult) := []
  /-- The period of the deadlock monitor, if there is one. -/
  monitor : Option Nat := none
  timers : List Timer := []
  /-- Tasks ready to run, in running order. -/
  ready : List Task := []

namespace Cluster

def agent? (c : Cluster) (s : SiteId) : Option Agent := c.agents.find? (·.site = s)

def setAgent (c : Cluster) (a : Agent) : Cluster :=
  { c with agents := c.agents.map fun b => if b.site = a.site then a else b }

def arm (c : Cluster) (due : Nat) (t : Task) : Cluster :=
  { c with timers := Timer.insert ⟨due, t⟩ c.timers }

def agentsDone (c : Cluster) : Bool := c.agents.all (·.finishedAt.isSome)

def actionsDone (c : Cluster) : Bool := c.pending.isEmpty

/-- Queues a task behind the ready ones, unless it is ready already. -/
def wake (c : Cluster) (t : Task) : Cluster :=
  if t ∈ c.ready then c else { c with ready := c.ready ++ [t] }

/-- Queues the agents of the sites the last task released from their wait. -/
def collectWoken (c : Cluster) : Cluster :=
  let sites := c.world.woken
  let c := { c with world := { c.world with woken := [] } }
  sites.foldl (fun c s =>
    match c.agent? s with
    | some a => if (a.current.map (·.waiting)).getD false then c.wake (.agent s) else c
    | none => c) c

/-- Makes every intervention that is due, in list order. -/
def act (w : World) : List (Nat × Action) → List (Nat × ActionResult) →
    World × List (Nat × Action) × List (Nat × ActionResult)
  | [], done => (w, [], done)
  | (t, a) :: rest, done =>
    if t ≤ w.now then
      let (r, w') := a.perform w
      act w' rest (done ++ [(w.now, r)])
    else (w, (t, a) :: rest, done)

/-- Runs one task until it sleeps, waits or ends. A task that runs drops the timer it had set;
it sets a new one if it sleeps or waits. -/
def runTask (c : Cluster) (t : Task) : Cluster :=
  let c := { c with timers := c.timers.filter (·.task != t) }
  let c := match t with
    | .monitor =>
      match c.monitor with
      | some p => let (_, w) := c.world.check; ({ c with world := w }).arm (w.now + p) .monitor
      | none => c
    | .actions =>
      let (w, pending, results) := act c.world c.pending c.results
      let c := { c with world := w, pending := pending, results := results }
      match pending with
      | (due, _) :: _ => c.arm due .actions
      | [] => c
    | .agent s =>
      match c.agent? s with
      | some a =>
        let (a, w, p) := a.resume c.world
        let c := ({ c with world := w }).setAgent a
        match p with
        | .sleep due => c.arm due (.agent s)
        | .wait due => c.arm due (.agent s)
        | .finished => c
      | none => c
  c.collectWoken

/-- Moves the clock to `now` and queues the tasks of every timer due by then, in firing
order. -/
def advance (c : Cluster) (now : Nat) : Cluster :=
  let due := c.timers.takeWhile (·.due ≤ now)
  let c := { c with world := { c.world with now := now }, timers := c.timers.drop due.length }
  due.foldl (fun c t => c.wake t.task) c

/-- What the run waits for. -/
inductive Stage where
  /-- Every agent to finish, until the deadline. -/
  | agents (deadline : Nat)
  /-- The interventions to finish, until the limit; the run ended at `endMs`. -/
  | actions (limit : Nat) (endMs : Nat) (timedOut : Bool)
  deriving DecidableEq, Repr, Inhabited

/-- How a run ended: whether the deadline cut it short, when it ended, and its final state. -/
structure Finish where
  timedOut : Bool
  endMs : Nat
  cluster : Cluster

/-- What the run does once nothing is ready. -/
inductive Next where
  | go (c : Cluster) (stage : Stage)
  | done (f : Finish)

/-- The deadline has passed with agents still running: the run ends now and waits for the
interventions, if any are left. -/
def timeUp (span : Nat) (c : Cluster) : Next :=
  let now := c.world.now
  if c.actionsDone then .done ⟨true, now, c⟩ else .go c (.actions (now + span) now true)

/-- Once nothing is ready the run looks at its stage; then the clock moves to the next timer
or to the end of the stage, whichever is first. At the end of a stage the run looks before
the tasks woken at that instant run. -/
def idle (span : Nat) (c : Cluster) (stage : Stage) : Next :=
  let stage : Stage := match stage with
    | .agents d => if c.agentsDone then .actions (c.world.now + span) c.world.now false else .agents d
    | s => s
  match stage with
  | .actions l e t =>
    if c.actionsDone then .done ⟨t, e, c⟩
    else match c.timers with
      | u :: _ => if u.due < l then .go (c.advance u.due) stage else .done ⟨t, e, c.advance l⟩
      | [] => .done ⟨t, e, c.advance l⟩
  | .agents d =>
    match c.timers with
    | u :: _ => if u.due < d then .go (c.advance u.due) stage else timeUp span (c.advance d)
    | [] => timeUp span (c.advance d)

/-- Runs tasks until the run is over. `span` is the length of the deadline: after the run
ends, the interventions get that long again. -/
def loop (span : Nat) : Nat → Cluster → Stage → Finish
  | 0, c, .agents _ => ⟨true, c.world.now, c⟩
  | 0, c, .actions _ e t => ⟨t, e, c⟩
  | fuel + 1, c, stage =>
    match c.ready with
    | t :: rest => loop span fuel (({ c with ready := rest }).runTask t) stage
    | [] =>
      match idle span c stage with
      | .go c stage => loop span fuel c stage
      | .done f => f

end Cluster

structure SiteSetup where
  script : String
  settings : AgentSettings := {}
  faults : SiteFaults := {}
  /-- The site's abort flag is raised before the run. -/
  preAbort : Bool := false
  deriving Repr, Inhabited

structure ClusterSetup where
  store : Store := {}
  /-- The period of the deadlock monitor; 0 means no monitor. -/
  monitor : Nat := 0
  deadline : Nat := 60001
  sites : List SiteSetup := []
  actions : List (Nat × Action) := []

namespace ClusterSetup

/-- Registers and binds the sites in order, with ids from 1, and reads their scripts; the
first script that cannot be read stops the setup, with its site. -/
def agents (cs : ClusterSetup) : Except (SiteId × Error) (List Agent × Coordinator Unit) :=
  cs.sites.foldlM (fun (agents, coord) st => do
    let (s, coord) := coord.register
    let coord := match coord.bind s () with
      | .ok c => c
      | .error _ => coord
    match (Script.parse st.script (IdGen.new s)).1 with
    | .error e => throw (s, e)
    | .ok txs => pure (agents ++ [{ site := s, settings := st.settings, faults := st.faults, queue := txs }], coord))
    ([], {})

/-- The state at time 0: the monitor's first check set for one period on, and the
interventions and then the agents, in site order, ready to run. -/
def start (cs : ClusterSetup) : Except (SiteId × Error) Cluster := do
  let (agents, coord) ← cs.agents
  let controls := (agents.zip cs.sites).map fun (a, st) =>
    { site := a.site, abortRequested := st.preAbort : SiteControl }
  let c : Cluster :=
    { world := { coord := coord, controls := controls, store := cs.store },
      agents := agents, pending := cs.actions,
      monitor := if cs.monitor = 0 then none else some cs.monitor,
      ready := .actions :: agents.map (.agent ·.site) }
  pure (if cs.monitor = 0 then c else c.arm cs.monitor .monitor)

/-- A bound on the steps of a run: every instant up to twice the deadline may wake every
task, and beyond that every operation may wake its agent once. -/
def fuel (cs : ClusterSetup) (c : Cluster) : Nat :=
  (2 * cs.deadline + 3) * (c.agents.length + 3) + (c.agents.map Agent.work).foldr (· + ·) 0 * 2 +
    2 * cs.actions.length + 10

def run (cs : ClusterSetup) : Except (SiteId × Error) Cluster.Finish := do
  let c ← cs.start
  pure (Cluster.loop cs.deadline (cs.fuel c) c (.agents cs.deadline))

end ClusterSetup
end TwoPhaseLocking
