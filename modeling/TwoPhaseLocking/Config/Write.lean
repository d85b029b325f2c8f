import TwoPhaseLocking.Config.Read
import TwoPhaseLocking.Json.Value
import TwoPhaseLocking.Failure

/-!
Writing a configuration, as JSON and as TOML text with one `[section]` per part and its
`key = value` lines in declared order. TOML integers are signed 64-bit numbers, so `serialize`
refuses a 64-bit setting above the greatest of them (`Config.serialize_eq_ok_iff`).
-/
namespace TwoPhaseLocking
namespace Toml

/-- What a string's text holds, for choosing its TOML form. -/
structure StringShape where
  /-- The longest run of single quotes. -/
  singleRun : Nat := 0
  /-- The longest run of double quotes. -/
  doubleRun : Nat := 0
  /-- A control character other than tab and line feed, or delete: only escapes can write it. -/
  control : Bool := false
  backslash : Bool := false
  newline : Bool := false
  deriving DecidableEq, Repr, Inhabited

def StringShape.of (s : String) : StringShape :=
  let step (acc : StringShape × Nat × Nat) (c : Char) : StringShape × Nat × Nat :=
    let (sh, sq, dq) := acc
    let sq := if c = '\'' then sq + 1 else 0
    let dq := if c = '"' then dq + 1 else 0
    ({ singleRun := max sh.singleRun sq, doubleRun := max sh.doubleRun dq,
       control := sh.control || (c ≠ '\t' && c ≠ '\n' && (c.toNat ≤ 0x1F || c.toNat = 0x7F)),
       backslash := sh.backslash || c = '\\', newline := sh.newline || c = '\n' }, sq, dq)
  (s.toList.foldl step ({}, 0, 0)).1

/-- The four forms of a TOML string. -/
inductive StringForm where
  /-- `"..."`, with escapes. -/
  | basic
  /-- `'...'`, the text as it is. -/
  | literal
  /-- Between triple double quotes, over several lines, with escapes. -/
  | multiBasic
  /-- Between triple single quotes, over several lines, the text as it is. -/
  | multiLiteral
  deriving DecidableEq, Repr, Inhabited

/-- The form a string is written in: the first of a basic string needing no escape, a literal
string, a multi-line basic string needing no backslash escape and no escaped quote, a multi-line
literal string, that can hold the text; failing all, a basic string with escapes, multi-line
when the text has a line feed. -/
def StringForm.choose (sh : StringShape) : StringForm :=
  if !sh.control && !sh.backslash && sh.doubleRun = 0 && !sh.newline then .basic
  else if !sh.control && sh.singleRun = 0 && !sh.newline then .literal
  else if !sh.control && !sh.backslash && sh.doubleRun ≤ 2 then .multiBasic
  else if !sh.control && sh.singleRun ≤ 2 then .multiLiteral
  else if sh.newline then .multiBasic
  else .basic

def hex4 (n : Nat) : String :=
  let d (k : Nat) : Char := let v := (n / Nat.pow 16 k) % 16; if v < 10 then Char.ofNat (48 + v) else Char.ofNat (55 + v)
  String.ofList [d 3, d 2, d 1, d 0]

/-- The escape of a character in a basic string, if it needs one. A multi-line string keeps
line feeds and double quotes as they are. -/
def basicEscape (multiLine : Bool) (c : Char) : Option String :=
  if c = '\x08' then some "\\b"
  else if c = '\t' then some "\\t"
  else if c = '\n' then (if multiLine then none else some "\\n")
  else if c = '\x0c' then some "\\f"
  else if c = '\r' then some "\\r"
  else if c = '"' then (if multiLine then none else some "\\\"")
  else if c = '\\' then some "\\\\"
  else if c.toNat ≤ 0x1F ∨ c.toNat = 0x7F then some ("\\u" ++ hex4 c.toNat)
  else none

/-- The body of a multi-line basic string: in a run of double quotes all but the last two are
escaped, so that no three stand together. -/
def multiBasicBody : List Char → List String
  | [] => []
  | c :: rest =>
    let piece := if c = '"' then (if rest.take 2 = ['"', '"'] then "\\\"" else "\"")
      else (basicEscape true c).getD c.toString
    piece :: multiBasicBody rest

/-- The TOML text of a string. A multi-line form starts with a line feed when the text has
one. -/
def quote (s : String) : String :=
  let sh := StringShape.of s
  let lead := if sh.newline then "\n" else ""
  match StringForm.choose sh with
  | .basic => "\"" ++ String.join (s.toList.map fun c => (basicEscape false c).getD c.toString) ++ "\""
  | .literal => "'" ++ s ++ "'"
  | .multiBasic => "\"\"\"" ++ lead ++ String.join (multiBasicBody s.toList) ++ "\"\"\""
  | .multiLiteral => "'''" ++ lead ++ s ++ "'''"

end Toml

namespace Config

/-- The configuration as JSON, sections and fields in declared order. -/
def toJson (c : Config) : Json :=
  .obj [("coordinator", .obj [("host", .str c.coordinator.host), ("port", .nat c.coordinator.port),
      ("deadlock_check_interval_ms", .nat c.coordinator.checkIntervalMs),
      ("rpc_timeout_ms", .nat c.coordinator.rpcTimeoutMs)]),
    ("site", .obj [("database_path", .str c.site.databasePath), ("listen_host", .str c.site.listenHost),
      ("operation_delay_ms", .nat c.site.operationDelayMs),
      ("blocked_log_interval_ms", .nat c.site.blockedLogIntervalMs)]),
    ("logging", .obj [("verbose", .bool c.logging.verbose)])]

def toToml (c : Config) : String :=
  "[coordinator]\n" ++
  "host = " ++ Toml.quote c.coordinator.host ++ "\n" ++
  s!"port = {c.coordinator.port}\n" ++
  s!"deadlock_check_interval_ms = {c.coordinator.checkIntervalMs}\n" ++
  s!"rpc_timeout_ms = {c.coordinator.rpcTimeoutMs}\n" ++
  "\n[site]\n" ++
  "database_path = " ++ Toml.quote c.site.databasePath ++ "\n" ++
  "listen_host = " ++ Toml.quote c.site.listenHost ++ "\n" ++
  s!"operation_delay_ms = {c.site.operationDelayMs}\n" ++
  s!"blocked_log_interval_ms = {c.site.blockedLogIntervalMs}\n" ++
  "\n[logging]\n" ++
  "verbose = " ++ (if c.logging.verbose then "true" else "false") ++ "\n"

/-- Whether every 64-bit setting fits a TOML integer, which is signed; the 16-bit port always
does. -/
def fitsToml (c : Config) : Bool :=
  [c.coordinator.checkIntervalMs, c.coordinator.rpcTimeoutMs, c.site.operationDelayMs,
    c.site.blockedLogIntervalMs].all fun n => (n : Int) ≤ Toml.int64Max

/-- The configuration as TOML text, when every setting fits the format. -/
def serialize (c : Config) : Except String String :=
  if c.fitsToml then .ok c.toToml else .error "out-of-range value for u64 type"

/-- Loads a configuration from the text of the file at `path`, or the defaults when there is
no file; a text that cannot be read, or a configuration that is not valid, fails. -/
def load (text : Option String) (path : String) : Except Failure Config :=
  match text with
  | none => .ok {}
  | some src =>
    match ofToml src with
    | .error e => .error ⟨"Failed to parse config file: " ++ path, [e.render src]⟩
    | .ok c => match c.validate with
      | .ok () => .ok c
      | .error m => .error ⟨m, []⟩

end Config
end TwoPhaseLocking
