import TwoPhaseLocking.Json.Value
import TwoPhaseLocking.Json.Binary64

/-!
Reading JSON text as a stream, with the line and byte column of every error. Numbers without a
fraction or an exponent that fit 64 bits are integers, others binary64 floats; nesting is limited
to 127 levels. A value without floats reads back from its compact text as it was
(`Json.parse_compact`).
-/
namespace TwoPhaseLocking
namespace Json

/-- A place in the text: line from 1, and bytes since the start of the line. -/
structure Pos where
  line : Nat
  col : Nat
  deriving DecidableEq, Repr, Inhabited

/-- A reading error: its text, and where it was noticed if known. -/
structure ReadError where
  msg : String
  pos : Option Pos := none
  deriving DecidableEq, Repr, Inhabited

def ReadError.text (e : ReadError) : String :=
  match e.pos with
  | none => e.msg
  | some p => s!"{e.msg} at line {p.line} column {p.col}"

/-- The unread text and the place of its first character. -/
structure Cursor where
  rest : List Char
  line : Nat := 1
  col : Nat := 0
  /-- How many more levels of arrays and objects may open. -/
  depth : Nat := 128
  deriving Repr, Inhabited

namespace Cursor

def start (s : String) : Cursor := { rest := s.toList }

def pos (c : Cursor) : Pos := ⟨c.line, c.col⟩

/-- The place one byte further, at the character the reader looks at. -/
def peekPos (c : Cursor) : Pos :=
  match c.rest with
  | [] => c.pos
  | '\n' :: _ => ⟨c.line + 1, 0⟩
  | _ :: _ => ⟨c.line, c.col + 1⟩

def advance (c : Cursor) : Cursor :=
  match c.rest with
  | [] => c
  | ch :: r => if ch = '\n' then { c with rest := r, line := c.line + 1, col := 0 }
    else { c with rest := r, col := c.col + ch.utf8Size }

end Cursor

/-- The result of a reading step: a value or an error, with the cursor after it. -/
inductive Outcome (α : Type) where
  | ok (a : α) (c : Cursor)
  | err (e : ReadError) (c : Cursor)

def Reader (α : Type) : Type := Cursor → Outcome α

instance : Monad Reader where
  pure a := fun c => .ok a c
  bind r f := fun c => match r c with
    | .ok a c' => f a c'
    | .err e c' => .err e c'

namespace Reader

def peek : Reader (Option Char) := fun c => .ok c.rest.head? c

def bump : Reader Unit := fun c => .ok () c.advance

def next : Reader (Option Char) := fun c => .ok c.rest.head? c.advance

def failAt {α : Type} (msg : String) : Reader α := fun c => .err ⟨msg, some c.pos⟩ c

def failAtPeek {α : Type} (msg : String) : Reader α := fun c => .err ⟨msg, some c.peekPos⟩ c

def fail {α : Type} (msg : String) : Reader α := fun c => .err ⟨msg, none⟩ c

/-- Gives an error without a place the place where the reader stands after `r`. -/
def settle {α : Type} (r : Reader α) : Reader α := fun c =>
  match r c with
  | .ok a c' => .ok a c'
  | .err e c' => .err (if e.pos.isNone then { e with pos := some c'.pos } else e) c'

/-- Runs `r`, then `after` whatever `r` gave; the first error wins. -/
def andThenAnyway {α : Type} (r : Reader α) (after : Reader Unit) : Reader α := fun c =>
  match r c with
  | .ok a c' => match after c' with
    | .ok _ c'' => .ok a c''
    | .err e c'' => .err e c''
  | .err e c' => match after c' with
    | .ok _ c'' => .err e c''
    | .err _ c'' => .err e c''

def ofExcept {α : Type} : Except String α → Reader α
  | .ok a => pure a
  | .error m => fail m

/-- Skips blanks (space, tab, line feed, carriage return) and gives the next character. -/
def skipBlanks : Reader (Option Char) := fun c =>
  let rec go (fuel : Nat) (c : Cursor) : Cursor :=
    match fuel with
    | 0 => c
    | f + 1 => match c.rest with
      | ch :: _ => if ch = ' ' ∨ ch = '\t' ∨ ch = '\n' ∨ ch = '\r' then go f c.advance else c
      | [] => c
  let c' := go c.rest.length c
  .ok c'.rest.head? c'

/-- Enters one level of nesting, or fails when too deep. -/
def enter : Reader Unit := fun c =>
  if c.depth ≤ 1 then .err ⟨"recursion limit exceeded", some c.peekPos⟩ c
  else .ok () { c with depth := c.depth - 1 }

def leave : Reader Unit := fun c => .ok () { c with depth := c.depth + 1 }

end Reader

open Reader

/-- Expects the letters of a literal after its first one. -/
def ident : List Char → Reader Unit
  | [] => pure ()
  | x :: xs => do
    match ← next with
    | none => failAt "EOF while parsing a value"
    | some y => if x = y then ident xs else failAt "expected ident"

def hexValue (c : Char) : Option Nat :=
  if '0' ≤ c ∧ c ≤ '9' then some (c.toNat - '0'.toNat)
  else if 'a' ≤ c ∧ c ≤ 'f' then some (c.toNat - 'a'.toNat + 10)
  else if 'A' ≤ c ∧ c ≤ 'F' then some (c.toNat - 'A'.toNat + 10)
  else none

/-- Moves past `n` bytes of the text. A character that the count ends inside is left behind
whole, and the column counts the bytes of it that were passed. -/
def Cursor.advanceBytes (c : Cursor) (n : Nat) : Cursor :=
  if n = 0 then c else
  match c.rest with
  | [] => c
  | ch :: r =>
    if ch.utf8Size ≤ n then c.advance.advanceBytes (n - ch.utf8Size)
    else { c with rest := r, col := c.col + n }
termination_by n
decreasing_by have := Char.utf8Size_pos ch; omega

/-- Reads the four bytes of a `\u` escape as hexadecimal digits. With fewer than four bytes
left the text ends inside the string; four bytes that are not all hexadecimal digits are an
invalid escape, noticed after them. -/
def hex4 : Reader Nat := fun c =>
  let bytes := (c.rest.take 4).foldl (fun n ch => n + ch.utf8Size) 0
  if bytes < 4 then
    let e := c.advanceBytes bytes
    .err ⟨"EOF while parsing a string", some e.pos⟩ e
  else
    let digit (acc : Option Nat) (ch : Char) : Option Nat :=
      match acc, hexValue ch with
      | some a, some v => some (16 * a + v)
      | _, _ => none
    match (c.rest.take 4).foldl digit (some 0) with
    | some n => .ok n (c.advanceBytes 4)
    | none =>
      let e := c.advanceBytes 4
      .err ⟨"invalid escape", some e.pos⟩ e

/-- Reads the character of a `\u` escape (the `\u` consumed), joining a surrogate pair. -/
def unicodeEscape : Reader Char := do
  let n ← hex4
  if 0xDC00 ≤ n ∧ n ≤ 0xDFFF then failAt "lone leading surrogate in hex escape"
  else if n < 0xD800 ∨ n > 0xDBFF then pure (Char.ofNat n)
  else
    match ← peek with
    | some '\\' =>
      bump
      match ← peek with
      | some 'u' =>
        bump
        let n2 ← hex4
        if n2 < 0xDC00 ∨ n2 > 0xDFFF then failAt "lone leading surrogate in hex escape"
        else pure (Char.ofNat ((((n - 0xD800) * 1024) ||| (n2 - 0xDC00)) + 0x10000))
      | none => failAt "EOF while parsing a string"
      | some _ => do bump; failAt "unexpected end of hex escape"
    | none => failAt "EOF while parsing a string"
    | some _ => do bump; failAt "unexpected end of hex escape"

/-- Reads the rest of a string after its opening quote. -/
def stringBody : Reader String := fun c0 =>
  let rec go (fuel : Nat) (acc : List Char) : Reader String := fun c =>
    match fuel with
    | 0 => .err ⟨"EOF while parsing a string", some c.pos⟩ c
    | f + 1 =>
      match c.rest with
      | [] => .err ⟨"EOF while parsing a string", some c.pos⟩ c
      | '"' :: _ => .ok (String.ofList acc.reverse) c.advance
      | '\\' :: _ =>
        let c1 := c.advance
        match c1.rest with
        | [] => .err ⟨"EOF while parsing a string", some c1.pos⟩ c1
        | e :: _ =>
          let c2 := c1.advance
          let simple : Option Char := match e with
            | '"' => some '"' | '\\' => some '\\' | '/' => some '/'
            | 'b' => some (Char.ofNat 8) | 'f' => some (Char.ofNat 12)
            | 'n' => some '\n' | 'r' => some '\r' | 't' => some '\t'
            | _ => none
          match simple with
          | some ch => go f (ch :: acc) c2
          | none =>
            if e = 'u' then
              match unicodeEscape c2 with
              | .ok ch c3 => go f (ch :: acc) c3
              | .err er c3 => .err er c3
            else .err ⟨"invalid escape", some c2.pos⟩ c2
      | ch :: _ =>
        if ch.toNat < 0x20 then
          let c1 := c.advance
          .err ⟨"control character (\\u0000-\\u001F) found while parsing a string", some c1.pos⟩ c1
        else go f (ch :: acc) c.advance
  go (c0.rest.length + 1) [] c0

def peekDigits : Reader (List Char) := fun c => .ok (c.rest.takeWhile Char.isDigit) c

/-- The greatest significand a number keeps: digits beyond it are dropped. -/
def significandMax : Nat := Nat.pow 2 64 - 1

/-- The greatest decimal exponent a number's exponent part can spell. -/
def exponentMax : Nat := Nat.pow 2 31 - 1

/-- How many of the digits `ds`, from the left, can join the significand `s`: the longest run
that keeps it at most `bound`, and the significand they make. -/
def takeDigits (bound : Nat) (s : Nat) : List Char → Nat × Nat
  | [] => (0, s)
  | d :: ds =>
    let s' := 10 * s + (d.toNat - '0'.toNat)
    if s' > bound then (0, s) else
      let r := takeDigits bound s' ds
      (r.1 + 1, r.2)

/-- Clamps an exponent to the 32-bit signed range. -/
def clampExponent (x : Int) : Int := max (-(Int.pow 2 31)) (min (Int.pow 2 31 - 1) x)

/-- Scales the binary64 value `f` by `10^x`, one rounded multiplication or division by the
binary64 value nearest to `10^|x|`. When `|x|` exceeds 308, a positive exponent is out of
range and a negative one first divides by `1e308`, as often as it takes (a value that reaches
zero stays zero). `none` means out of range. -/
def scaleByTen (fuel : Nat) (f : Nat × Int) (x : Int) : Option (Nat × Int) :=
  match fuel with
  | 0 => some f
  | fuel + 1 =>
    if x.natAbs ≤ 308 then
      if x ≥ 0 then Binary64.mul f (Binary64.pow10 x.natAbs)
      else Binary64.div f (Binary64.pow10 x.natAbs)
    else if f.1 = 0 then some f
    else if x ≥ 0 then none
    else match Binary64.div f (Binary64.pow10 308) with
      | some g => scaleByTen fuel g (x + 308)
      | none => none

/-- The float of a significand `s` (below `2^64`) and a decimal exponent `x`: `s` rounded to
binary64, then scaled by `10^x`. A division by `1e308` shrinks a value by more than `2^1000`, so
a significand below `2^64` is zero after two of them, and four steps always suffice. -/
def decimalValue (s : Nat) (x : Int) : Option (Nat × Int) :=
  scaleByTen 4 ((Binary64.ofNat s).getD (0, 0)) x

/-- The float `±s * 10^x`, or the out-of-range error where the reader stands. -/
def decimalFloat (negative : Bool) (s : Nat) (x : Int) : Reader Json :=
  match decimalValue s x with
  | some (m, e) => pure (.float negative m e)
  | none => failAt "number out of range"

def skip (n : Nat) : Reader Unit := fun c => .ok () (n.repeat Cursor.advance c)

/-- Reads the exponent part after `e` or `E` (consumed) of `±s * 10^x`. The exponent's digits
count while their value stays a 32-bit signed integer; one more digit puts a nonzero number
with a positive exponent out of range (noticed after that digit), and makes any other number
zero. -/
def exponentPart (negative : Bool) (s : Nat) (x : Int) : Reader Json := do
  let up : Bool ← match ← peek with
    | some '+' => do bump; pure true
    | some '-' => do bump; pure false
    | _ => pure true
  match ← next with
  | none => failAt "EOF while parsing a value"
  | some ch =>
    if ch.isDigit then
      let more ← peekDigits
      let (k, e) := takeDigits exponentMax (ch.toNat - '0'.toNat) more
      if k = more.length then do
        skip k
        decimalFloat negative s (clampExponent (if up then x + e else x - e))
      else if s ≠ 0 ∧ up then do
        skip (k + 1)
        failAt "number out of range"
      else do
        skip more.length
        pure (.float negative 0 0)
    else failAt "invalid number"

/-- Reads the fraction after the point (consumed) of a significand `s` with decimal exponent
`x`. Digits join the significand while it stays below `2^64`; later ones are read and dropped. -/
def fractionPart (negative : Bool) (s : Nat) (x : Int) : Reader Json := do
  let fr ← peekDigits
  if fr.isEmpty then
    match ← peek with
    | some _ => failAtPeek "invalid number"
    | none => failAtPeek "EOF while parsing a value"
  else
    let (k, s') := takeDigits significandMax s fr
    skip fr.length
    let x' := clampExponent (x - k)
    match ← peek with
    | some 'e' | some 'E' => do bump; exponentPart negative s' x'
    | _ => decimalFloat negative s' x'

/-- Reads the rest of a number after its integer digits, which made the significand `s`, with
`extra` more dropped (each counting as a factor of ten). A number
with neither fraction nor exponent nor dropped digits is an integer: unsigned, or negative
down to `-2^63`; `-0` and integers beyond those bounds are floats. -/
def numberTail (negative : Bool) (s : Nat) (extra : Nat) : Reader Json := do
  match ← peek with
  | some '.' => do bump; fractionPart negative s extra
  | some 'e' | some 'E' => do bump; exponentPart negative s extra
  | _ =>
    if extra > 0 then decimalFloat negative s extra
    else if !negative then pure (.int s)
    else if s = 0 then pure (.float true 0 0)
    else if s ≤ Nat.pow 2 63 then pure (.int (-(s : Int)))
    else decimalFloat true s 0

/-- Reads a number whose sign (if any) is consumed. -/
def number (negative : Bool) : Reader Json := do
  match ← next with
  | none => failAt "EOF while parsing a value"
  | some '0' =>
    match ← peek with
    | some ch => if ch.isDigit then failAtPeek "invalid number" else numberTail negative 0 0
    | none => numberTail negative 0 0
  | some ch =>
    if ch.isDigit then
      let more ← peekDigits
      let (k, s) := takeDigits significandMax (ch.toNat - '0'.toNat) more
      skip more.length
      numberTail negative s (more.length - k)
    else failAt "invalid number"

/-- Whether another array element follows; consumes the comma. -/
def hasNextElement (first : Bool) : Reader Bool := do
  match ← skipBlanks with
  | none => failAtPeek "EOF while parsing a list"
  | some ']' => pure false
  | some ',' =>
    if first then failAtPeek "expected value" else do
      bump
      match ← skipBlanks with
      | some ']' => failAtPeek "trailing comma"
      | some _ => pure true
      | none => failAtPeek "EOF while parsing a value"
  | some _ => if first then pure true else failAtPeek "expected `,` or `]`"

/-- Reads the next key of an object, or `none` at its end; consumes the comma. -/
def nextKey (first : Bool) : Reader (Option String) := do
  let peeked ← match ← skipBlanks with
    | some '}' => pure none
    | some ',' =>
      if first then failAtPeek "key must be a string" else do
        bump
        let p ← skipBlanks
        pure (some p)
    | some ch => if first then pure (some (some ch)) else failAtPeek "expected `,` or `\x7d`"
    | none => failAtPeek "EOF while parsing an object"
  match peeked with
  | none => pure none
  | some (some '"') => do bump; let k ← stringBody; pure (some k)
  | some (some '}') => failAtPeek "trailing comma"
  | some (some _) => failAtPeek "key must be a string"
  | some none => failAtPeek "EOF while parsing a value"

def colon : Reader Unit := do
  match ← skipBlanks with
  | some ':' => bump
  | some _ => failAtPeek "expected `:`"
  | none => failAtPeek "EOF while parsing an object"

def endArray : Reader Unit := do
  match ← skipBlanks with
  | some ']' => bump
  | some ',' => do
    bump
    match ← skipBlanks with
    | some ']' => failAtPeek "trailing comma"
    | _ => failAtPeek "trailing characters"
  | some _ => failAtPeek "trailing characters"
  | none => failAtPeek "EOF while parsing a list"

def endObject : Reader Unit := do
  match ← skipBlanks with
  | some '}' => bump
  | some ',' => failAtPeek "trailing comma"
  | some _ => failAtPeek "trailing characters"
  | none => failAtPeek "EOF while parsing an object"

mutual

/-- Reads any value (the blanks before it included). -/
def value (fuel : Nat) : Reader Json :=
  match fuel with
  | 0 => failAt "EOF while parsing a value"
  | f + 1 => settle do
    match ← skipBlanks with
    | none => failAtPeek "EOF while parsing a value"
    | some 'n' => do bump; ident ['u', 'l', 'l']; pure .null
    | some 't' => do bump; ident ['r', 'u', 'e']; pure (.bool true)
    | some 'f' => do bump; ident ['a', 'l', 's', 'e']; pure (.bool false)
    | some '-' => do bump; number true
    | some '"' => do bump; let s ← stringBody; pure (.str s)
    | some '[' => do
      enter
      bump
      let xs ← andThenAnyway (elements f true []) endArray
      leave
      pure (.arr xs)
    | some '{' => do
      enter
      bump
      let fs ← andThenAnyway (members f true []) endObject
      leave
      pure (.obj fs)
    | some ch => if ch.isDigit then number false else failAtPeek "expected value"

/-- Reads array elements until the closing bracket (not consumed). -/
def elements (fuel : Nat) (first : Bool) (acc : List Json) : Reader (List Json) :=
  match fuel with
  | 0 => failAt "EOF while parsing a list"
  | f + 1 => do
    if ← hasNextElement first then
      let x ← value f
      elements f false (x :: acc)
    else pure acc.reverse

/-- Reads object members until the closing brace (not consumed). -/
def members (fuel : Nat) (first : Bool) (acc : List (String × Json)) :
    Reader (List (String × Json)) :=
  match fuel with
  | 0 => failAt "EOF while parsing an object"
  | f + 1 => do
    match ← nextKey first with
    | none => pure acc.reverse
    | some k =>
      colon
      let v ← value f
      members f false ((k, v) :: acc)

end

/-- Expects nothing but blanks after the value. -/
def finish : Reader Unit := do
  match ← skipBlanks with
  | some _ => failAtPeek "trailing characters"
  | none => pure ()

def Reader.run {α : Type} (r : Reader α) (s : String) : Except ReadError α :=
  match r (Cursor.start s) with
  | .ok a _ => .ok a
  | .err e _ => .error e

/-- Reads a text that holds exactly one value. -/
def parse (s : String) : Except ReadError Json :=
  (do let v ← value (2 * s.length + 4); finish; pure v).run s

end Json
end TwoPhaseLocking
