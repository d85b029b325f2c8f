import TwoPhaseLocking.Cli.Spec

/-!
The command line of `c2pl`: run the coordinator, run a site, parse a script, or show the
configuration. The output format, quiet mode and debug logging are global options.
-/
namespace TwoPhaseLocking
namespace Cli
namespace Interface

def format : Opt :=
  { id := "format", long := "format", help := "Output format (text or json)",
    kind := .value "FORMAT" (.choice ["text", "json"]), default := some "text", global := true }

def quiet : Opt :=
  { id := "quiet", long := "quiet", short := some 'q', help := "Quiet mode (minimal output)",
    kind := .switch, global := true }

def verbose : Opt :=
  { id := "verbose", long := "verbose", short := some 'v', help := "Debug logging",
    kind := .switch, global := true }

def help : Opt := { id := "help", long := "help", short := some 'h', help := "Print help", kind := .help }

def version : Opt :=
  { id := "version", long := "version", short := some 'V', help := "Print version", kind := .version }

def portType : ValueType := .bounded 65535

def root : Command :=
  { path := [], about := "Centralized two-phase locking",
    opts := [format, quiet, verbose, help, version],
    subcommands := ["coordinator", "site", "parse", "config", "help"], subcommandRequired := true }

def coordinator : Command :=
  { path := ["coordinator"], about := "Run the lock coordinator until Ctrl-C",
    opts := [
      { id := "host", long := "host", help := "Address to listen on", kind := .value "HOST" .text },
      { id := "port", long := "port", short := some 'p', kind := .value "PORT" portType },
      { id := "check_interval_ms", long := "check-interval-ms",
        help := "Milliseconds between deadlock checks", kind := .value "CHECK_INTERVAL_MS" .unsigned },
      format, quiet, verbose, help] }

def site : Command :=
  { path := ["site"], about := "Run a transaction site against a coordinator",
    opts := [
      { id := "transactions", long := "transactions", short := some 't',
        help := "Transaction script to execute", kind := .value "TRANSACTIONS" .path, required := true },
      { id := "host", long := "host", help := "Coordinator host", kind := .value "HOST" .text },
      { id := "port", long := "port", short := some 'p', help := "Coordinator port",
        kind := .value "PORT" portType },
      { id := "database", long := "database", short := some 'd',
        help := "SQLite database holding the item values", kind := .value "DATABASE" .path },
      format,
      { id := "listen_host", long := "listen-host",
        help := "Address the site listens on for coordinator notifications",
        kind := .value "LISTEN_HOST" .text },
      { id := "listen_port", long := "listen-port",
        help := "Port for coordinator notifications (0 picks a free one)",
        kind := .value "LISTEN_PORT" portType, default := some "0" },
      quiet,
      { id := "operation_delay_ms", long := "operation-delay-ms", help := "Pause after each operation",
        kind := .value "OPERATION_DELAY_MS" .unsigned },
      verbose, help] }

def parse : Command :=
  { path := ["parse"], about := "Parse a transaction script and print the transactions",
    opts := [
      { id := "site_id", long := "site-id", help := "Site id used to number the transactions",
        kind := .value "SITE_ID" (.bounded 4294967295), default := some "1" },
      format, quiet, verbose, help],
    positionals := [{ id := "file", name := "FILE", help := "Transaction script", type := .path }] }

def config : Command :=
  { path := ["config"], about := "Configuration management", opts := [format, quiet, verbose, help],
    subcommands := ["show", "get", "path", "help"], subcommandRequired := true }

def configShow : Command :=
  { path := ["config", "show"], about := "Print the effective configuration",
    opts := [format, quiet, verbose, help] }

def configGet : Command :=
  { path := ["config", "get"], about := "Print one configuration value",
    opts := [format, quiet, verbose, help],
    positionals := [{ id := "key", name := "KEY", type := .text }] }

def configPath : Command :=
  { path := ["config", "path"], about := "Print the config file path",
    opts := [format, quiet, verbose, help] }

end Interface

def program : Program :=
  { name := "c2pl", version := "0.1.0",
    commands := [Interface.root, Interface.coordinator, Interface.site, Interface.parse,
      Interface.config, Interface.configShow, Interface.configGet, Interface.configPath] }

end Cli
end TwoPhaseLocking
