import TwoPhaseLocking.Toml.Document
import TwoPhaseLocking.Json.Binary64

/-!
Reading TOML text into a document (TOML 1.0), by recursive descent over the characters. A
failure records its byte offset, what was being read and what would have been accepted; a
committed one stops the reading, an uncommitted one lets an alternative be tried. Integers are
those of a signed 64-bit integer (`Toml.intOfText_eq_ok_iff`).
-/
namespace TwoPhaseLocking
namespace Toml

/-- The unread text and the byte offset of its first character. -/
structure Cursor where
  rest : List Char
  pos : Nat := 0
  deriving Repr, Inhabited

def Cursor.advance (c : Cursor) : Cursor :=
  match c.rest with
  | [] => c
  | ch :: r => ⟨r, c.pos + ch.utf8Size⟩

structure Fault where
  /-- The byte offset where it was noticed. -/
  pos : Nat
  /-- What was being read, innermost first. -/
  label : Option String := none
  /-- What would have been accepted there. -/
  expected : List String := []
  cause : Option String := none
  /-- A committed failure: no alternative is tried. -/
  committed : Bool := false
  deriving Repr, Inhabited

/-- `invalid <what>`, `expected <list>` and the cause, one per line. -/
def Fault.message (f : Fault) : String :=
  let parts := (f.label.map ("invalid " ++ ·)).toList ++
    (if f.expected.isEmpty then [] else ["expected " ++ ", ".intercalate f.expected]) ++ f.cause.toList
  "\n".intercalate parts

abbrev Parse (α : Type) := StateT Cursor (Except Fault) α

namespace Parse

def peek : Parse (Option Char) := fun c => .ok (c.rest.head?, c)

def peek2 : Parse (List Char) := fun c => .ok (c.rest.take 2, c)

def here : Parse Nat := fun c => .ok (c.pos, c)

/-- Fails here, uncommitted. -/
def fail {α : Type} : Parse α := fun c => .error { pos := c.pos }

def commit {α : Type} (p : Parse α) : Parse α := fun c =>
  match p c with
  | .error f => .error { f with committed := true }
  | r => r

def label {α : Type} (l : String) (p : Parse α) : Parse α := fun c =>
  match p c with
  | .error f => .error { f with label := f.label <|> some l }
  | r => r

def expect {α : Type} (e : String) (p : Parse α) : Parse α := fun c =>
  match p c with
  | .error f => .error { f with expected := f.expected ++ [e] }
  | r => r

/-- `p`, or else `q` from the same place if `p` failed uncommitted. -/
def orElse {α : Type} (p q : Parse α) : Parse α := fun c =>
  match p c with
  | .error f => if f.committed then .error f else q c
  | r => r

/-- `p`, or nothing (reading nothing) if it failed uncommitted. -/
def opt {α : Type} (p : Parse α) : Parse (Option α) := fun c =>
  match p c with
  | .ok (a, c') => .ok (some a, c')
  | .error f => if f.committed then .error f else .ok (none, c)

/-- Checks the result of `p`; a refusal is a failure at the place where `p` started. -/
def check {α β : Type} (p : Parse α) (f : α → Except String β) : Parse β := fun c =>
  match p c with
  | .ok (a, c') => match f a with
    | .ok b => .ok (b, c')
    | .error m => .error { pos := c.pos, cause := some m }
  | .error e => .error e

def charIf (ok : Char → Bool) : Parse Char := fun c =>
  match c.rest with
  | ch :: _ => if ok ch then .ok (ch, c.advance) else .error { pos := c.pos }
  | [] => .error { pos := c.pos }

def char (ch : Char) : Parse Unit := fun c =>
  match c.rest with
  | x :: _ => if x = ch then .ok ((), c.advance) else .error { pos := c.pos }
  | [] => .error { pos := c.pos }

def chars (s : List Char) : Parse Unit := fun c =>
  if s.isPrefixOf c.rest then
    .ok ((), ⟨c.rest.drop s.length, c.pos + (s.map Char.utf8Size).foldr (· + ·) 0⟩)
  else .error { pos := c.pos }

def takeWhile (ok : Char → Bool) : Parse (List Char) := fun c =>
  let (a, r) := c.rest.span ok
  .ok (a, ⟨r, c.pos + (a.map Char.utf8Size).foldr (· + ·) 0⟩)

def eof : Parse Unit := fun c => if c.rest.isEmpty then .ok ((), c) else .error { pos := c.pos }

/-- Runs `p` while it reads something; stops at an uncommitted failure. -/
def many (p : Parse Unit) : Parse Unit := fun c =>
  let rec go : Nat → Cursor → Except Fault (Unit × Cursor)
    | 0, c => .ok ((), c)
    | n + 1, c => match p c with
      | .ok (_, c') => if c'.pos > c.pos then go n c' else .ok ((), c')
      | .error f => if f.committed then .error f else .ok ((), c)
  go (c.rest.length + 1) c

/-- One or more `p` separated by `sep`; a separator not followed by `p` is left unread. -/
def sepBy1 {α : Type} (p : Parse α) (sep : Parse Unit) : Parse (List α) := fun c =>
  match p c with
  | .error f => .error f
  | .ok (a, c1) =>
    let rec go : Nat → List α → Cursor → Except Fault (List α × Cursor)
      | 0, acc, c => .ok (acc, c)
      | n + 1, acc, c => match sep c with
        | .error f => if f.committed then .error f else .ok (acc, c)
        | .ok (_, c2) => match p c2 with
          | .ok (b, c3) => go n (acc ++ [b]) c3
          | .error f => if f.committed then .error f else .ok (acc, c)
    go (c1.rest.length + 1) [a] c1

def sepBy {α : Type} (p : Parse α) (sep : Parse Unit) : Parse (List α) := do
  match ← opt (sepBy1 p sep) with
  | some xs => pure xs
  | none => pure []

def recognize {α : Type} (p : Parse α) : Parse (List Char) := fun c =>
  match p c with
  | .ok (_, c') => .ok (c.rest.take (c.rest.length - c'.rest.length), c')
  | .error f => .error f

end Parse

open Parse

/-! Character classes. -/

def isWs (c : Char) : Bool := c = ' ' || c = '\t'

def isDigit (c : Char) : Bool := '0' ≤ c && c ≤ '9'

def isHexDigit (c : Char) : Bool := isDigit c || ('a' ≤ c && c ≤ 'f') || ('A' ≤ c && c ≤ 'F')

def isKeyChar (c : Char) : Bool :=
  isDigit c || ('a' ≤ c && c ≤ 'z') || ('A' ≤ c && c ≤ 'Z') || c = '-' || c = '_'

def isCommentChar (c : Char) : Bool :=
  c = '\t' || (0x20 ≤ c.toNat && c.toNat ≤ 0x7E) || c.toNat ≥ 0x80

/-- A character a basic string holds as it is. -/
def isBasicChar (c : Char) : Bool :=
  isWs c || c.toNat = 0x21 || (0x23 ≤ c.toNat && c.toNat ≤ 0x5B) ||
    (0x5D ≤ c.toNat && c.toNat ≤ 0x7E) || c.toNat ≥ 0x80

def isLiteralChar (c : Char) : Bool :=
  c.toNat = 0x09 || (0x20 ≤ c.toNat && c.toNat ≤ 0x26) || (0x28 ≤ c.toNat && c.toNat ≤ 0x7E) ||
    c.toNat ≥ 0x80

/-! Blanks, comments and line ends. -/

def ws : Parse Unit := do let _ ← takeWhile isWs

def comment : Parse Unit := do char '#'; let _ ← takeWhile isCommentChar

def newline : Parse Unit := orElse (char '\n') (chars ['\r', '\n'])

def lineEnding : Parse Unit := orElse newline eof

/-- Blanks and a comment up to the end of the line. -/
def lineTrailing : Parse Unit := do ws; let _ ← opt comment; lineEnding

def wsCommentNewline : Parse Unit :=
  many (orElse (do let _ ← charIf isWs) (orElse newline comment))

/-! Strings. -/

/-- Reads `n` hexadecimal digits as a character. -/
def hexEscape (n : Nat) : Parse Char := fun c =>
  let ds := (c.rest.take n).takeWhile isHexDigit
  if ds.length = n then
    let v := ds.foldl (fun acc d =>
      acc * 16 + (if isDigit d then d.toNat - 48 else if d ≤ 'F' then d.toNat - 55 else d.toNat - 87)) 0
    if v < 0xD800 ∨ (0xDFFF < v ∧ v < 0x110000) then
      .ok (Char.ofNat v, ⟨c.rest.drop n, c.pos + n⟩)
    else .error { pos := c.pos, cause := some (Conflict.outOfRange).message }
  else .error { pos := c.pos }

def escapeSeq : Parse Char := fun c =>
  match c.rest with
  | [] => .error { pos := c.pos }
  | ch :: _ =>
    let c1 := c.advance
    match ch with
    | 'b' => .ok ('\x08', c1)
    | 'f' => .ok ('\x0c', c1)
    | 'n' => .ok ('\n', c1)
    | 'r' => .ok ('\r', c1)
    | 't' => .ok ('\t', c1)
    | '\\' => .ok ('\\', c1)
    | '"' => .ok ('"', c1)
    | 'u' => label "unicode 4-digit hex code" (commit (hexEscape 4)) c1
    | 'U' => label "unicode 8-digit hex code" (commit (hexEscape 8)) c1
    | _ =>
      let accepted := ["\x60b\x60", "\x60f\x60", "\x60n\x60", "\x60r\x60", "\x60t\x60",
        "\x60u\x60", "\x60U\x60", "\x60\\\x60", "\x60\"\x60"]
      .error { pos := c1.pos, committed := true, label := some "escape sequence", expected := accepted }

def escaped : Parse Char := do char '\\'; escapeSeq

/-- The characters of a basic string, up to what is not one. -/
def basicBody : Parse (List Char) := fun c =>
  let rec go : Nat → List Char → Cursor → Except Fault (List Char × Cursor)
    | 0, acc, c => .ok (acc, c)
    | n + 1, acc, c =>
      match c.rest with
      | ch :: _ =>
        if isBasicChar ch then
          let (a, r) := c.rest.span isBasicChar
          go n (acc ++ a) ⟨r, c.pos + (a.map Char.utf8Size).foldr (· + ·) 0⟩
        else if ch = '\\' then
          match escaped c with
          | .ok (e, c') => go n (acc ++ [e]) c'
          | .error f => if f.committed then .error f else .ok (acc, c)
        else .ok (acc, c)
      | [] => .ok (acc, c)
  go (c.rest.length + 1) [] c

def basicString : Parse String := do
  char '"'
  let s ← basicBody
  label "basic string" (commit (char '"'))
  pure (String.ofList s)

def literalString : Parse String := label "literal string" do
  char '\''
  let s ← commit (takeWhile isLiteralChar)
  commit (char '\'')
  pure (String.ofList s)

def startsWithNewline : List Char → Bool
  | '\n' :: _ => true
  | '\r' :: '\n' :: _ => true
  | _ => false

/-- A backslash at the end of a line, with the blanks and line ends after it. -/
def escapedNewline : Parse Unit := fun c =>
  match c.rest with
  | '\\' :: r =>
    let w := (r.takeWhile isWs).length
    if startsWithNewline (r.drop w) then
      many (orElse (do let _ ← charIf isWs) newline) ⟨r.drop w, c.pos + 1 + w⟩
    else .error { pos := c.pos }
  | _ => .error { pos := c.pos }

def quoteRun (q : Char) (l : List Char) : Nat := (l.takeWhile (· = q)).length

/-- The body of a multi-line string with quote `q`: `plain` says which characters stand as
they are, and `escapes` whether backslash escapes are read. -/
def multiBody (q : Char) (plain : Char → Bool) (escapes : Bool) : Parse (List Char) := fun c =>
  let rec go : Nat → List Char → Cursor → Except Fault (List Char × Cursor)
    | 0, acc, c => .ok (acc, c)
    | n + 1, acc, c =>
      match c.rest with
      | [] => .ok (acc, c)
      | ch :: _ =>
        if ch = q then
          let k := quoteRun q c.rest
          if k ≥ 3 then
            -- one or two quotes may stand just before the closing three
            let extra := min (k - 3) 2
            .ok (acc ++ List.replicate extra q, ⟨c.rest.drop extra, c.pos + extra⟩)
          else
            -- one or two quotes inside the text must be followed by more text
            let c' : Cursor := ⟨c.rest.drop k, c.pos + k⟩
            match c'.rest with
            | x :: _ =>
              if plain x || startsWithNewline c'.rest || (escapes && x = '\\') then
                go n (acc ++ List.replicate k q) c'
              else .ok (acc, c)
            | [] => .ok (acc, c)
        else if plain ch then
          let (a, r) := c.rest.span plain
          go n (acc ++ a) ⟨r, c.pos + (a.map Char.utf8Size).foldr (· + ·) 0⟩
        else if startsWithNewline c.rest then
          go n (acc ++ ['\n']) (if ch = '\r' then c.advance.advance else c.advance)
        else if escapes && ch = '\\' then
          match escapedNewline c with
          | .ok (_, c') => go n acc c'
          | .error _ =>
            match escaped c with
            | .ok (e, c') => go n (acc ++ [e]) c'
            | .error f => if f.committed then .error f else .ok (acc, c)
        else .ok (acc, c)
  go (c.rest.length + 1) [] c

def mlBasicString : Parse String := label "multiline basic string" do
  chars ['"', '"', '"']
  let _ ← opt newline
  let s ← commit (multiBody '"' (fun ch => isBasicChar ch) true)
  commit (chars ['"', '"', '"'])
  pure (String.ofList s)

def mlLiteralString : Parse String := label "multiline literal string" do
  chars ['\'', '\'', '\'']
  let _ ← opt newline
  let s ← commit (multiBody '\'' isLiteralChar false)
  commit (chars ['\'', '\'', '\''])
  pure (String.ofList s)

def string : Parse String :=
  orElse mlBasicString (orElse basicString (orElse mlLiteralString literalString))

/-! Keys. -/

def unquotedKey : Parse String := do
  let s ← takeWhile isKeyChar
  if s.isEmpty then fail else pure (String.ofList s)

def simpleKey : Parse String := do
  match ← peek with
  | some '"' => basicString
  | some '\'' => literalString
  | _ => unquotedKey

/-- A dotted key, blanks allowed around its parts, each part with the span of its text. -/
def key : Parse (List KeyPart) :=
  label "key" (sepBy1 (do ws; let a ← here; let k ← simpleKey; let b ← here; ws; pure (k, (a, b)))
    (char '.'))

/-! Numbers and dates. -/

/-- Digits with single underscores between them, after a first digit read by `first`. -/
def digitRun (first : Char → Bool) (more : Char → Bool) : Parse Unit := do
  let _ ← charIf first
  many (orElse (do let _ ← charIf more)
    (do char '_'; expect "digit" (commit (do let _ ← charIf more))))

/-- A decimal integer with an optional sign, without leading zeros. -/
def decInt : Parse (List Char) := label "integer" (recognize do
  let _ ← opt (charIf fun c => c = '+' || c = '-')
  orElse (digitRun (fun c => '1' ≤ c && c ≤ '9') isDigit) (do let _ ← charIf isDigit))

/-- The value of digits in a base, underscores dropped. -/
def digitsValue (base : Nat) (ds : List Char) : Nat :=
  (ds.filter (· ≠ '_')).foldl (fun acc d =>
    acc * base + (if isDigit d then d.toNat - 48 else if d ≤ 'F' then d.toNat - 55 else d.toNat - 87)) 0

/-- The greatest 64-bit signed integer. -/
def int64Max : Int := 9223372036854775807

/-- Reads integer text as a 64-bit integer. -/
def intOfText (ds : List Char) : Except String Int :=
  let (neg, body) := match ds with
    | '-' :: r => (true, r)
    | '+' :: r => (false, r)
    | r => (false, r)
  let v : Int := digitsValue 10 body
  let v := if neg then -v else v
  if v < -int64Max - 1 then .error "number too small to fit in target type"
  else if v > int64Max then .error "number too large to fit in target type"
  else .ok v

/-- A prefixed integer (`0x`, `0o`, `0b`) in `base`, named `name`. -/
def prefixedInt (pre : Char) (base : Nat) (isD : Char → Bool) (name : String) : Parse Int :=
  commit (check (label name (do
      chars ['0', pre]
      commit (recognize (digitRun isD isD))))
    fun ds =>
      let v : Int := digitsValue base ds
      if v ≤ int64Max then .ok v else .error "number too large to fit in target type")

def integer : Parse Int := do
  match ← peek2 with
  | ['0', 'x'] => prefixedInt 'x' 16 isHexDigit "hexadecimal integer"
  | ['0', 'o'] => prefixedInt 'o' 8 (fun c => '0' ≤ c && c ≤ '7') "octal integer"
  | ['0', 'b'] => prefixedInt 'b' 2 (fun c => c = '0' || c = '1') "binary integer"
  | _ => fun c => match decInt c with
    | .error f => .error f
    | .ok (ds, c') => match intOfText ds with
      | .ok v => .ok (v, c')
      | .error m => .error { pos := c.pos, cause := some m, committed := true }

def zeroPrefixableInt : Parse Unit := digitRun isDigit isDigit

def exponent : Parse Unit := do
  let _ ← charIf fun c => c = 'e' || c = 'E'
  let _ ← opt (charIf fun c => c = '+' || c = '-')
  commit zeroPrefixableInt

def fraction : Parse Unit := do
  char '.'
  expect "digit" (commit zeroPrefixableInt)

/-- The binary64 value of float text (a sign, digits, a fraction and an exponent). -/
def floatOfText (t : List Char) : Option Scalar :=
  let t := t.filter (· ≠ '_')
  let (neg, t) := match t with
    | '-' :: r => (true, r)
    | '+' :: r => (false, r)
    | r => (false, r)
  let intPart := t.takeWhile isDigit
  let t := t.drop intPart.length
  let (frac, t) := match t with
    | '.' :: r => (r.takeWhile isDigit, r.drop (r.takeWhile isDigit).length)
    | r => ([], r)
  let e : Int := match t with
    | c :: r => if c = 'e' || c = 'E' then
        match r with
        | '-' :: ds => -(digitsValue 10 ds : Int)
        | '+' :: ds => digitsValue 10 ds
        | ds => digitsValue 10 ds
      else 0
    | [] => 0
  let d := digitsValue 10 (intPart ++ frac)
  let k : Int := e - frac.length
  if d = 0 then some (.float neg 0 0)
  else
    let magnitude : Int := (toString d).length + k
    if magnitude > 310 then none
    else if magnitude < -330 then some (.float neg 0 0)
    else (Binary64.ofDecimal d k).map fun (m, x) => .float neg m x

/-- A float, finite or `inf`/`nan` with an optional sign. -/
def float : Parse Scalar := label "floating-point number" (orElse
  (fun c => match (recognize (do let _ ← decInt; orElse exponent (do fraction; let _ ← opt exponent))) c with
    | .error f => .error f
    | .ok (t, c') => match floatOfText t with
      | some s => .ok (s, c')
      | none => .error { pos := c.pos, committed := true })
  (do
    let sign ← opt (charIf fun c => c = '+' || c = '-')
    orElse (do chars ['i', 'n', 'f']; pure (.special (if sign = some '-' then "-inf" else "inf")))
      (do chars ['n', 'a', 'n']; pure (.special "NaN"))))

def digitsN (n : Nat) : Parse Nat := fun c =>
  let ds := (c.rest.take n).takeWhile isDigit
  if ds.length = n then .ok (digitsValue 10 ds, ⟨c.rest.drop n, c.pos + n⟩)
  else .error { pos := c.pos }

def digits2In (lo hi : Nat) : Parse Nat :=
  check (digitsN 2) fun d => if lo ≤ d ∧ d ≤ hi then .ok d else .error (Conflict.outOfRange).message

/-- `HH:MM:SS` with an optional fraction of a second. -/
def partialTime : Parse Unit := do
  let _ ← digits2In 0 23
  char ':'
  commit (do
    let _ ← digits2In 0 59
    char ':'
    let _ ← digits2In 0 60
    let _ ← opt (do char '.'; let _ ← charIf isDigit; let _ ← takeWhile isDigit))

/-- `YYYY-MM-DD`, the day checked against the month. -/
def fullDate : Parse Unit := do
  let y ← digitsN 4
  char '-'
  let m ← commit (digits2In 1 12)
  commit (char '-')
  let leap := y % 4 = 0 ∧ (y % 100 ≠ 0 ∨ y % 400 = 0)
  let most := if m = 2 then (if leap then 29 else 28) else if m = 4 ∨ m = 6 ∨ m = 9 ∨ m = 11 then 30 else 31
  let _ ← commit (digits2In 1 most)

/-- A time offset: `Z` or `±HH:MM`. -/
def timeOffset : Parse Unit := label "time offset" (orElse
  (do let _ ← charIf fun c => c = 'Z' || c = 'z')
  (do
    let _ ← charIf fun c => c = '+' || c = '-'
    commit (do let _ ← digits2In 0 23; char ':'; let _ ← digits2In 0 59)))

/-- A date, a date with a time (and offset), or a time. -/
def dateTime : Parse Scalar := do
  let t ← recognize (orElse
    (label "date-time" (do fullDate; let _ ← opt (do
        let _ ← charIf fun c => c = 'T' || c = 't' || c = ' '
        partialTime
        let _ ← opt timeOffset)))
    (label "time" partialTime))
  pure (.datetime (String.ofList t))

/-! Values. -/

/-- How deep arrays and inline tables may nest. -/
def nestingLimit : Nat := 80

def notAValue {α : Type} : Parse α :=
  expect "\x60'\x60" (expect "\x60\"\x60" (label "string" fail))

/-- A scalar spanned from `start` to where the reader stands. -/
def spanned (p : Parse Scalar) : Parse Node := do
  let a ← here
  let s ← p
  let b ← here
  pure (.scalar s a b)

mutual

/-- A value, nested at most `depth` more levels. -/
def value : Nat → Parse Node
  | 0 => fun c => .error { pos := c.pos, committed := true, cause := some (Conflict.recursionLimit).message }
  | depth + 1 => do
    match ← peek with
    | some '"' | some '\'' => spanned (do pure (.string (← string)))
    | some '[' => array depth
    | some '{' => inlineTable depth
    | some '+' | some '-' => spanned (orElse dateTime (orElse float (do pure (.integer (← integer)))))
    | some '_' => spanned (expect "leading digit" (do pure (.integer (← integer))))
    | some '.' => spanned (expect "leading digit" float)
    | some 't' => spanned (expect "\x60'\x60" (expect "\x60\"\x60" (label "string"
        (commit (chars ['t', 'r', 'u', 'e'])) *> pure (.boolean true))))
    | some 'f' => spanned (expect "\x60'\x60" (expect "\x60\"\x60" (label "string"
        (commit (chars ['f', 'a', 'l', 's', 'e'])) *> pure (.boolean false))))
    | some 'i' => spanned (expect "\x60'\x60" (expect "\x60\"\x60" (label "string"
        (do chars ['i', 'n', 'f']; pure (.special "inf")))))
    | some 'n' => spanned (expect "\x60'\x60" (expect "\x60\"\x60" (label "string"
        (do chars ['n', 'a', 'n']; pure (.special "NaN")))))
    | some c =>
      if isDigit c then spanned (orElse dateTime (orElse float (do pure (.integer (← integer)))))
      else notAValue
    | none => fail

/-- An array `[v, ...]`, blanks, line ends and comments allowed between its values. -/
def array : Nat → Parse Node
  | depth => do
    let a ← here
    char '['
    let items ← commit (do
      let xs ← opt (do
        let xs ← sepBy1 (do wsCommentNewline; let v ← value depth; wsCommentNewline; pure v) (char ',')
        let _ ← opt (char ',')
        pure xs)
      wsCommentNewline
      pure (xs.getD []))
    expect "\x60]\x60" (label "array" (commit (char ']')))
    let b ← here
    pure (.array items a b)

/-- An inline table `{k = v, ...}` on one line. -/
def inlineTable : Nat → Parse Node
  | depth => do
    let a ← here
    char '{'
    let entries ← commit (check (do
        let kvs ← sepBy (do
            let path ← key
            commit (do
              expect "\x60=\x60" (expect "\x60.\x60" (char '='))
              ws
              let v ← value depth
              ws
              pure (path, v))) (char ',')
        ws
        pure kvs)
      fun kvs => (kvs.foldlM (fun (es : Entries) (pv : List KeyPart × Node) =>
          match pv.1.reverse with
          | (k, _) :: parentRev => inlineInsert parentRev.reverse k pv.2 es
          | [] => .ok es) ([] : Entries)).mapError Conflict.message)
    expect "\x60\x7d\x60" (label "inline table" (commit (char '}')))
    let b ← here
    pure (.inline entries false false a b)

end

/-! Lines and the document. -/

def keyvalLine (b : Builder) : Parse Builder := fun c =>
  let line : Parse (List KeyPart × Node) := do
    let path ← key
    commit (do
      expect "\x60=\x60" (expect "\x60.\x60" (char '='))
      ws
      let v ← value nestingLimit
      expect "\x60#\x60" (expect "newline" lineTrailing)
      pure (path, v))
  match line c with
  | .error f => .error f
  | .ok ((path, v), c') =>
    match path.reverse with
    | (k, _) :: parentRev => match b.keyval parentRev.reverse k v with
      | .ok b' => .ok (b', c')
      | .error e => .error { pos := c.pos, cause := some e.message }
    | [] => .ok (b, c')

/-- A table header `[a.b]` or `[[a.b]]`, which opens its table. -/
def headerLine (b : Builder) : Parse Builder := label "table header" fun c =>
  let isArray := c.rest.take 2 == ['[', '[']
  let header : Parse (List KeyPart × Nat) := do
    if isArray then
      chars ['[', '[']
      let k ← commit key
      expect "\x60]]\x60" (expect "\x60.\x60" (commit (chars [']', ']'])))
      let e ← here
      expect "\x60#\x60" (expect "newline" (commit lineTrailing))
      pure (k, e)
    else
      char '['
      let k ← commit key
      expect "\x60]\x60" (expect "\x60.\x60" (commit (char ']')))
      let e ← here
      expect "\x60#\x60" (expect "newline" (commit lineTrailing))
      pure (k, e)
  match header c with
  | .error f => .error f
  | .ok ((path, e), c') =>
    let r := if isArray then b.startArrayTable path (c.pos, e) else b.startTable path (c.pos, e)
    match r with
    | .ok b' => .ok (b', c')
    | .error x => .error { pos := c.pos, cause := some x.message }

def lines (b : Builder) : Parse Builder := fun c =>
  let rec go : Nat → Builder → Cursor → Except Fault (Builder × Cursor)
    | 0, b, c => .ok (b, c)
    | n + 1, b, c =>
      let step : Parse Builder := do
        match ← peek with
        | some '#' => commit (do comment; lineEnding); pure b
        | some '[' => commit (headerLine b)
        | some '\n' | some '\r' => newline; pure b
        | some _ => commit (keyvalLine b)
        | none => fail
      match step c with
      | .ok (b', c') =>
        match ws c' with
        | .ok (_, c'') => if c''.pos > c.pos then go n b' c'' else .ok (b', c'')
        | .error f => .error f
      | .error f => if f.committed then .error f else .ok (b, c)
  go (c.rest.length + 1) b c

structure ReadFailure where
  message : String
  span : Option (Nat × Nat)
  deriving Repr, Inhabited

/-- Reads a document: its root table's entries. -/
def read (s : String) : Except ReadFailure Entries :=
  let c : Cursor := ⟨s.toList, 0⟩
  let c := match c.rest with
    | '\uFEFF' :: r => ⟨r, 3⟩
    | _ => c
  let total := s.utf8ByteSize
  -- the character at a byte offset, whole
  let width (p : Nat) : Nat :=
    ((s.toList.foldl (fun (acc : Nat × Option Nat) ch =>
      match acc with
      | (off, none) => if off = p then (off, some ch.utf8Size) else (off + ch.utf8Size, none)
      | done => done) (0, none)).2).getD 1
  let spanAt (p : Nat) : Option (Nat × Nat) := some (if p ≥ total then (p, p) else (p, p + width p))
  match (do ws; let b ← lines {}; eof; pure b) c with
  | .error f => .error ⟨f.message, spanAt f.pos⟩
  | .ok (b, _) =>
    match b.finalize with
    | .ok b => .ok b.root
    | .error e => .error ⟨e.message, none⟩

end Toml
end TwoPhaseLocking
