import TwoPhaseLocking.Site.Agent
import TwoPhaseLocking.Text.Blank

/-!
The settings of a deployment, each with its default, so an empty file is a whole configuration.
`validate` names the first setting that is not valid: a blank coordinator host, or a zero check
interval, call timeout or blocked-log interval.
-/
namespace TwoPhaseLocking

/-- Where the coordinator listens, and its timing. -/
structure CoordinatorConfig where
  host : String := "127.0.0.1"
  /-- A 16-bit port. -/
  port : Nat := 1099
  checkIntervalMs : Nat := 5000
  /-- The bound on every remote call, in both directions. -/
  rpcTimeoutMs : Nat := 5000
  deriving DecidableEq, Repr, Inhabited

/-- Where a site keeps its items and listens, and its timing. -/
structure SiteConfig where
  databasePath : String := "c2pl.db"
  listenHost : String := "127.0.0.1"
  operationDelayMs : Nat := 100
  blockedLogIntervalMs : Nat := 1000
  deriving DecidableEq, Repr, Inhabited

structure LoggingConfig where
  verbose : Bool := false
  deriving DecidableEq, Repr, Inhabited

structure Config where
  coordinator : CoordinatorConfig := {}
  site : SiteConfig := {}
  logging : LoggingConfig := {}
  deriving DecidableEq, Repr, Inhabited

namespace Config

/-- The first setting that makes the configuration invalid, as a message. -/
def validate (c : Config) : Except String Unit :=
  if (Text.trimString c.coordinator.host).isEmpty then .error "coordinator.host must not be empty"
  else if c.coordinator.checkIntervalMs = 0 then
    .error "coordinator.deadlock_check_interval_ms must be greater than 0"
  else if c.coordinator.rpcTimeoutMs = 0 then .error "coordinator.rpc_timeout_ms must be greater than 0"
  else if c.site.blockedLogIntervalMs = 0 then
    .error "site.blocked_log_interval_ms must be greater than 0"
  else .ok ()

def keys : List String :=
  ["coordinator.host", "coordinator.port", "coordinator.deadlock_check_interval_ms",
   "coordinator.rpc_timeout_ms", "site.database_path", "site.listen_host",
   "site.operation_delay_ms", "site.blocked_log_interval_ms", "logging.verbose"]

/-- The value of a setting by dotted key, as text. -/
def get (c : Config) (key : String) : Except String String :=
  match key with
  | "coordinator.host" => .ok c.coordinator.host
  | "coordinator.port" => .ok (toString c.coordinator.port)
  | "coordinator.deadlock_check_interval_ms" => .ok (toString c.coordinator.checkIntervalMs)
  | "coordinator.rpc_timeout_ms" => .ok (toString c.coordinator.rpcTimeoutMs)
  | "site.database_path" => .ok c.site.databasePath
  | "site.listen_host" => .ok c.site.listenHost
  | "site.operation_delay_ms" => .ok (toString c.site.operationDelayMs)
  | "site.blocked_log_interval_ms" => .ok (toString c.site.blockedLogIntervalMs)
  | "logging.verbose" => .ok (if c.logging.verbose then "true" else "false")
  | _ => .error (s!"Unknown configuration key: {key}. Use " ++ "\x60c2pl config show\x60" ++
      " to see available keys.")

def list (c : Config) : List (String × String) :=
  keys.map fun k => (k, match c.get k with | .ok v => v | .error _ => "")

def address (c : Config) : String := s!"{c.coordinator.host}:{c.coordinator.port}"

def agentSettings (c : Config) : AgentSettings :=
  ⟨c.site.operationDelayMs, c.site.blockedLogIntervalMs⟩

theorem get_ok_of_mem (c : Config) (k : String) (h : k ∈ keys) : ∃ v, c.get k = .ok v := by
  simp only [keys, List.mem_cons, List.not_mem_nil, or_false] at h
  rcases h with h | h | h | h | h | h | h | h | h <;> subst h <;> simp [get]

end Config
end TwoPhaseLocking
