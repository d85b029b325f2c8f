import TwoPhaseLocking.Text.Utf8
import TwoPhaseLocking.Text.Debug

/-!
Connection strings of the item database: `sqlite:` (each prefix dropped as often as it repeats),
the database, `:memory:` or a file name with `%XY` escapes, then optionally `?` and `key=value`
options, of which `mode`, `cache`, `immutable` and `vfs` are known.
-/
namespace TwoPhaseLocking
namespace Connection

/-- What a connection string names. -/
inductive Source where
  | memory
  | file (name : String)
  deriving DecidableEq, Repr, Inhabited

/-- A connection string read: its database and the file-system module it asks for. -/
structure Spec where
  source : Source
  vfs : Option String := none
  deriving DecidableEq, Repr, Inhabited

/-- Drops a prefix from the front of a text as often as it repeats. -/
def dropRepeated (pre : String) (s : String) : String :=
  String.ofList (go s.length s.toList)
where
  go : Nat → List Char → List Char
    | 0, cs => cs
    | n + 1, cs => if pre.toList.isPrefixOf cs ∧ pre ≠ "" then go n (cs.drop pre.length) else cs

def hexDigit? (b : UInt8) : Option Nat :=
  let n := b.toNat
  if 0x30 ≤ n ∧ n ≤ 0x39 then some (n - 0x30)
  else if 0x41 ≤ n ∧ n ≤ 0x46 then some (n - 0x41 + 10)
  else if 0x61 ≤ n ∧ n ≤ 0x66 then some (n - 0x61 + 10)
  else none

/-- Replaces each `%` and two hexadecimal digits by the byte they spell; any other `%` stays. -/
def percentDecode : List UInt8 → List UInt8
  | [] => []
  | [b] => [b]
  | [b, h] => [b, h]
  | b :: h :: l :: more =>
    if b = 0x25 then
      match hexDigit? h, hexDigit? l with
      | some x, some y => UInt8.ofNat (16 * x + y) :: percentDecode more
      | _, _ => b :: percentDecode (h :: l :: more)
    else b :: percentDecode (h :: l :: more)
termination_by bs => bs.length

/-- A key or value of the options: `+` is a space, escapes are decoded, and bytes that are not
UTF-8 become U+FFFD. -/
def formDecode (s : String) : String :=
  let spaced := s.toList.map fun c => if c = '+' then ' ' else c
  Utf8.decodeLossy (percentDecode (String.ofList spaced).toUTF8.toList)

/-- The options as pairs, in order: pieces between `&`, empty ones skipped, split at their
first `=` (a piece without one has an empty value). -/
def formPairs (s : String) : List (String × String) :=
  ((s.splitOn "&").filter (· ≠ "")).map fun piece =>
    match piece.splitOn "=" with
    | k :: v :: more => (formDecode k, formDecode ("=".intercalate (v :: more)))
    | k :: [] => (formDecode k, "")
    | [] => ("", "")

def refusal (text : String) : String := "error with configuration: " ++ text

def option (spec : Spec) (kv : String × String) : Except String Spec :=
  let (k, v) := kv
  let unknownValue : Except String Spec :=
    .error (refusal ("unknown value " ++ Text.debugQuote v ++ " for \x60" ++ k ++ "\x60"))
  if k = "mode" then
    if v = "memory" then .ok { spec with source := .memory }
    else if v = "ro" ∨ v = "rw" ∨ v = "rwc" then .ok spec
    else unknownValue
  else if k = "cache" then
    if v = "private" ∨ v = "shared" then .ok spec else unknownValue
  else if k = "immutable" then
    if v = "true" ∨ v = "1" ∨ v = "false" ∨ v = "0" then .ok spec else unknownValue
  else if k = "vfs" then .ok { spec with vfs := some v }
  else .error (refusal ("unknown query parameter \x60" ++ k ++ "\x60 while parsing connection URL"))

def parse (url : String) : Except String Spec := do
  let rest := dropRepeated "sqlite:" (dropRepeated "sqlite://" url)
  let (db, params) := match rest.splitOn "?" with
    | d :: p :: more => (d, some ("?".intercalate (p :: more)))
    | d :: [] => (d, none)
    | [] => ("", none)
  let source ← if db = ":memory:" then pure Source.memory else
    match Utf8.decode (percentDecode db.toUTF8.toList) with
    | .ok name => pure (Source.file name)
    | .error f => throw (refusal f.message)
  match params with
  | none => pure { source := source }
  | some p => (formPairs p).foldlM option { source := source }

theorem option_vfs (spec : Spec) (v : String) : option spec ("vfs", v) = .ok { spec with vfs := some v } := by
  simp [option]

end Connection
end TwoPhaseLocking
