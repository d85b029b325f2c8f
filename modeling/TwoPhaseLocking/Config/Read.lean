import TwoPhaseLocking.Config.Basic
import TwoPhaseLocking.Toml.Reader
import TwoPhaseLocking.Protocol.Frame

/-!
Reading a configuration from TOML text: the known keys of the sections `coordinator`, `site` and
`logging` set their settings, others are skipped, and missing ones keep their defaults. The
first value of a wrong kind or out of range, in the order of the text, is refused.
-/
namespace TwoPhaseLocking
namespace Toml

/-- How a found value is named in a message. -/
def Node.unexpected : Node → String
  | .scalar (.string s) .. => "string " ++ Text.debugQuote s
  | .scalar (.integer i) .. => "integer \x60" ++ toString i ++ "\x60"
  | .scalar (.float neg m e) .. => "floating point \x60" ++ Binary64.toText neg m e ++ "\x60"
  | .scalar (.special t) .. => "floating point \x60" ++ t ++ "\x60"
  | .scalar (.boolean b) .. => "boolean \x60" ++ (if b then "true" else "false") ++ "\x60"
  | .scalar (.datetime _) .. => "map"
  | .array .. | .tables .. => "sequence"
  | .inline .. | .table .. => "map"

/-- The span a complaint about a node points at. -/
def Node.blame : Node → Option (Nat × Nat)
  | .tables items =>
    match items.head?.bind Node.span?, items.getLast?.bind Node.span? with
    | some (a, _), some (_, b) => some (a, b)
    | _, _ => none
  | n => n.span?

def Node.invalidType (n : Node) (expected : String) : ReadFailure :=
  ⟨"invalid type: " ++ n.unexpected ++ ", expected " ++ expected, n.blame⟩

def Node.asString (n : Node) (expected : String := "a string") : Except ReadFailure String :=
  match n with
  | .scalar (.string s) .. => .ok s
  | n => .error (n.invalidType expected)

/-- Reads an integer in `[0, bound]`; `name` is the type's name. -/
def Node.asNat (n : Node) (bound : Nat) (name : String) : Except ReadFailure Nat :=
  match n with
  | .scalar (.integer i) .. =>
    if 0 ≤ i ∧ i ≤ bound then .ok i.toNat
    else .error ⟨"invalid value: integer \x60" ++ toString i ++ "\x60, expected " ++ name, n.blame⟩
  | n => .error (n.invalidType name)

def Node.asBool (n : Node) : Except ReadFailure Bool :=
  match n with
  | .scalar (.boolean b) .. => .ok b
  | n => .error (n.invalidType "a boolean")

/-- A field of a struct of settings: its key, and how a value sets it. -/
structure Field (σ : Type) where
  key : String
  set : σ → Node → Except ReadFailure σ

/-- Reads a struct of settings from a node, starting from `init`, its defaults. A table sets
the fields it has keys for, in the order written, and skips other keys; an array (or array of
tables) sets the fields by position, the missing ones keeping their defaults and extra items
skipped; a date-time reads as a map with no known key and leaves the defaults. -/
def Node.readStruct {σ : Type} (n : Node) (name : String) (fields : List (Field σ)) (init : σ) :
    Except ReadFailure σ :=
  let byKey (es : Entries) : Except ReadFailure σ := es.foldlM (fun s (k, v) =>
      match fields.find? (·.key = k) with
      | some f => f.set s v
      | none => pure s) init
  let byPosition (items : List Node) : Except ReadFailure σ :=
    (fields.zip items).foldlM (fun s (f, v) => f.set s v) init
  match n with
  | .table es .. => byKey es
  | .inline es .. => byKey es
  | .array items .. => byPosition items
  | .tables items => byPosition items
  | .scalar (.datetime _) .. => pure init
  | n => .error (n.invalidType ("struct " ++ name))

def u16Max : Nat := 65535

def u64Max : Nat := 18446744073709551615

/-- Renders a failure against the text it came from: where it is, the line with the span
underlined, and the message. Columns count characters; a span at the very end points one
past the last character. -/
def ReadFailure.render (f : ReadFailure) (src : String) : String :=
  match f.span with
  | none => f.message ++ "\n"
  | some (start, stop) =>
    let bytes := src.toUTF8.toList
    let (line, column) :=
      if bytes.isEmpty then (0, start) else
      let safe := min start (bytes.length - 1)
      let offset := start - safe
      let before := bytes.take safe
      let lineStart := match (before.reverse.findIdx? (· = 10)) with
        | some i => safe - i
        | none => 0
      let line := (bytes.take lineStart).count 10
      let piece := (bytes.drop lineStart).take (safe + 1 - lineStart)
      let column := match String.fromUTF8? (ByteArray.mk piece.toArray) with
        | some s => s.length - 1
        | none => safe - lineStart
      (line, column + offset)
    let lineNum := line + 1
    let gutter := (toString lineNum).length
    let content := (src.splitOn "\n").getD line ""
    let highlight := min (stop - start) (content.utf8ByteSize - column)
    let pad (n : Nat) : String := String.ofList (List.replicate n ' ')
    s!"TOML parse error at line {lineNum}, column {column + 1}\n" ++
      pad (gutter + 1) ++ "|\n" ++
      s!"{lineNum} | {content}\n" ++
      pad (gutter + 1) ++ "|" ++ pad (column + 1) ++ "^" ++
      String.ofList (List.replicate (highlight - 1) '^') ++ "\n" ++
      f.message ++ "\n"

end Toml

namespace CoordinatorConfig

def fields : List (Toml.Field CoordinatorConfig) := [
  ⟨"host", fun c n => return { c with host := ← n.asString }⟩,
  ⟨"port", fun c n => return { c with port := ← n.asNat Toml.u16Max "u16" }⟩,
  ⟨"deadlock_check_interval_ms", fun c n => return { c with checkIntervalMs := ← n.asNat Toml.u64Max "u64" }⟩,
  ⟨"rpc_timeout_ms", fun c n => return { c with rpcTimeoutMs := ← n.asNat Toml.u64Max "u64" }⟩]

end CoordinatorConfig

namespace SiteConfig

def fields : List (Toml.Field SiteConfig) := [
  ⟨"database_path", fun c n => return { c with databasePath := ← n.asString "path string" }⟩,
  ⟨"listen_host", fun c n => return { c with listenHost := ← n.asString }⟩,
  ⟨"operation_delay_ms", fun c n => return { c with operationDelayMs := ← n.asNat Toml.u64Max "u64" }⟩,
  ⟨"blocked_log_interval_ms", fun c n =>
    return { c with blockedLogIntervalMs := ← n.asNat Toml.u64Max "u64" }⟩]

end SiteConfig

namespace LoggingConfig

def fields : List (Toml.Field LoggingConfig) := [
  ⟨"verbose", fun _ n => return { verbose := ← n.asBool }⟩]

end LoggingConfig

namespace Config

/-- The sections of a configuration, in declared order. -/
def fields : List (Toml.Field Config) := [
  ⟨"coordinator", fun c n =>
    return { c with coordinator := ← n.readStruct "CoordinatorConfig" CoordinatorConfig.fields {} }⟩,
  ⟨"site", fun c n => return { c with site := ← n.readStruct "SiteConfig" SiteConfig.fields {} }⟩,
  ⟨"logging", fun c n => return { c with logging := ← n.readStruct "LoggingConfig" LoggingConfig.fields {} }⟩]

def ofToml (src : String) : Except Toml.ReadFailure Config := do
  let root ← Toml.read src
  (Toml.Node.table root false false none).readStruct "Config" fields {}

end Config
end TwoPhaseLocking
