import TwoPhaseLocking.Cli.Parse
import TwoPhaseLocking.Cli.Interface
import TwoPhaseLocking.Config.File
import TwoPhaseLocking.Transaction.Load
import TwoPhaseLocking.Net.Link
import TwoPhaseLocking.Json.Writer

/-!
Running the program on a host: read the command line (a refusal ends with status 2), load the
configuration, put the options over it and run the command. A failure ends with status 1 and
its report, `Error: ` and the message, on the error stream.
-/
namespace TwoPhaseLocking

namespace Transaction

/-- The JSON form of a transaction: its id and operations. -/
def toJson (t : Transaction) : Json :=
  .obj [("id", .nat t.id), ("operations", .arr (t.ops.map Operation.toJson))]

end Transaction

/-- The failure report of a library error: its message, and the system's text under a script
file that cannot be read. -/
def Error.toFailure (e : Error) : Failure :=
  ⟨e.message, match e with
    | .scriptFile _ reason => [reason]
    | _ => []⟩

namespace Cli

inductive Format where
  | text
  | json
  deriving DecidableEq, Repr, Inhabited

/-- What the command line asks for. -/
inductive Action where
  | coordinator (host : Option String) (port : Option Nat) (interval : Option Nat)
  | site (transactions : String) (host : Option String) (port : Option Nat)
      (database : Option String) (listenHost : Option String) (listenPort : Nat) (delay : Option Nat)
  | parse (file : String) (site : Nat)
  | configShow
  | configGet (key : String)
  | configPath
  deriving DecidableEq, Repr, Inhabited

/-- A command line that was read: the global settings and the action. -/
structure Invocation where
  format : Format
  quiet : Bool
  verbose : Bool
  action : Action
  deriving DecidableEq, Repr, Inhabited

def Given.get? (g : Given) (i : String) : Option Value := (g.values.find? (·.1 = i)).bind (·.2.head?)

namespace Invocation

/-- The value of an id, from the innermost level that has it. -/
def lookup (levels : List Given) (i : String) : Option Value := levels.reverse.findSome? (·.get? i)

def text? (levels : List Given) (i : String) : Option String :=
  match lookup levels i with
  | some (.text s) => some s
  | _ => none

def num? (levels : List Given) (i : String) : Option Nat :=
  match lookup levels i with
  | some (.num n) => some n
  | _ => none

/-- The invocation that a reading of the command line stands for. -/
def ofGiven (levels : List Given) : Option Invocation := do
  let path := (levels.getLast?.map (·.path)).getD []
  let action ← match path with
    | ["coordinator"] =>
      some (Action.coordinator (text? levels "host") (num? levels "port") (num? levels "check_interval_ms"))
    | ["site"] => do
      let t ← text? levels "transactions"
      some (Action.site t (text? levels "host") (num? levels "port") (text? levels "database")
        (text? levels "listen_host") ((num? levels "listen_port").getD 0) (num? levels "operation_delay_ms"))
    | ["parse"] => do
      let f ← text? levels "file"
      some (Action.parse f ((num? levels "site_id").getD 1))
    | ["config", "show"] => some .configShow
    | ["config", "get"] => do some (Action.configGet (← text? levels "key"))
    | ["config", "path"] => some .configPath
    | _ => none
  pure { format := if text? levels "format" = some "json" then .json else .text,
         quiet := (lookup levels "quiet").isSome, verbose := (lookup levels "verbose").isSome,
         action := action }

end Invocation

/-- The host the program runs on. -/
structure Host where
  files : Files := {}
  network : Network := {}
  /-- The configuration directory the environment names, if it names one. -/
  configDir : Option String := none
  /-- The platform's configuration directory. -/
  platformConfigDir : String := "~/.config"
  /-- After how many milliseconds the user interrupts the program, if ever. -/
  interruptAfter : Option Nat := none
  deriving Inhabited

/-- How a run ends: the status, whether it was interrupted or still waits for an interrupt,
what it wrote, and the files after it. -/
structure Outcome where
  status : Nat
  interrupted : Bool := false
  waiting : Bool := false
  stdout : String := ""
  stderr : String := ""
  files : Files
  deriving Inhabited

namespace Host

def configPath (h : Host) : String := Config.pathIn (Config.dir h.configDir h.platformConfigDir)

def fail (h : Host) (f : Failure) : Outcome := { status := 1, stderr := "Error: " ++ f.report ++ "\n", files := h.files }

def done (h : Host) (out : String) : Outcome := { status := 0, stdout := out, files := h.files }

/-- Runs the coordinator until it is interrupted. -/
def coordinator (h : Host) (c : Config) (quiet : Bool) : Outcome :=
  match c.validate with
  | .error m => h.fail ⟨m, []⟩
  | .ok () =>
    match h.network.listen c.coordinator.host c.coordinator.port with
    | .error e => h.fail ⟨"Failed to listen on " ++ c.address, [e]⟩
    | .ok (here, _) =>
      let greeting := if quiet then "" else s!"Coordinator listening on {here}\nPress Ctrl-C to stop.\n"
      match h.interruptAfter with
      | none => { h.done greeting with waiting := true }
      | some t =>
        let ticks := if t = 0 then 0 else (t - 1) / c.coordinator.checkIntervalMs
        let coord := (List.range ticks).foldl (fun k _ => k.check.2.1) ({} : Coordinator Unit)
        let s := coord.stats
        let counts := if quiet then ""
          else s!"Sites registered: {s.registered}, deadlocks resolved: {s.deadlocksFound}, checks run: {s.checksRun}\n"
        { h.done (greeting ++ counts) with interrupted := true }

/-- Runs a site: it must register with the coordinator first. -/
def site (h : Host) (c : Config) : Outcome :=
  match c.validate with
  | .error m => h.fail ⟨m, []⟩
  | .ok () =>
    let e := h.network.connect c.coordinator.host c.coordinator.port
    h.fail ⟨"Failed to register with coordinator at " ++ c.address, [e.message]⟩

def parse (h : Host) (file : String) (site : Nat) (format : Format) : Outcome :=
  match Script.load h.files file site with
  | .error e => h.fail e.toFailure
  | .ok ts =>
    match format with
    | .json => h.done ((Json.arr (ts.map Transaction.toJson)).pretty ++ "\n")
    | .text => h.done (String.join (ts.map fun t => t.toText ++ "\n"))

/-- Runs a command line that was read, with the configuration loaded. -/
def perform (h : Host) (inv : Invocation) (c : Config) : Outcome :=
  match inv.action with
  | .coordinator host port interval =>
    let k : CoordinatorConfig :=
      { host := host.getD c.coordinator.host, port := port.getD c.coordinator.port,
        checkIntervalMs := interval.getD c.coordinator.checkIntervalMs,
        rpcTimeoutMs := c.coordinator.rpcTimeoutMs }
    h.coordinator { c with coordinator := k } inv.quiet
  | .site _ host port database listenHost _ delay =>
    let k : CoordinatorConfig :=
      { c.coordinator with host := host.getD c.coordinator.host, port := port.getD c.coordinator.port }
    let s : SiteConfig :=
      { c.site with databasePath := database.getD c.site.databasePath,
                    listenHost := listenHost.getD c.site.listenHost,
                    operationDelayMs := delay.getD c.site.operationDelayMs }
    h.site { c with coordinator := k, site := s }
  | .parse file site => h.parse file site inv.format
  | .configShow =>
    match inv.format with
    | .json => h.done (c.toJson.pretty ++ "\n")
    | .text => h.done (String.join (c.list.map fun (k, v) => k ++ " = " ++ v ++ "\n"))
  | .configGet key =>
    match c.get key with
    | .ok v => h.done (v ++ "\n")
    | .error m => h.fail ⟨m, []⟩
  | .configPath => h.done (h.configPath ++ "\n")

/-- Runs the program with the words of its command line. -/
def run (h : Host) (args : List String) : Outcome :=
  match read program args with
  | .error (.show t) => { status := 0, stdout := t, files := h.files }
  | .error (.refuse t) => { status := 2, stderr := t, files := h.files }
  | .ok levels =>
    match Invocation.ofGiven levels with
    | none => { status := 2, files := h.files }
    | some inv =>
      match Config.loadFrom h.files h.configPath with
      | .error f => h.fail f
      | .ok c => h.perform inv c

end Host

end Cli
end TwoPhaseLocking
