import TwoPhaseLocking.Text.Blank
import TwoPhaseLocking.Text.Lines
import TwoPhaseLocking.Transaction.Basic

/-!
Transaction scripts, read line by line: `transaction` opens the next transaction, `r(x)`,
`w(x)` and `m x = a OP b` are its operations, and empty lines and `#` comments say nothing. The
first line that breaks these rules stops the reading with its line number.
-/
namespace TwoPhaseLocking
namespace Script

open Text

def firstIndex? (c : Char) (l : List Char) : Option Nat :=
  let i := l.idxOf c
  if i < l.length then some i else none

def lastIndex? (c : Char) (l : List Char) : Option Nat :=
  (firstIndex? c l.reverse).map (l.length - 1 - ·)

/-- The trimmed text between the first `(` and the last `)`: `none` when the brackets are
missing or nothing stands between them, `some []` when only blanks do. -/
def bracketed? (l : List Char) : Option (List Char) :=
  match firstIndex? '(' l, lastIndex? ')' l with
  | some o, some c => if o + 1 < c then some (trim ((l.drop (o + 1)).take (c - o - 1))) else none
  | _, _ => none

def dropSemicolons (l : List Char) : List Char := (l.reverse.dropWhile (· = ';')).reverse

def isOperatorSymbol (c : Char) : Bool := (Operator.ofSymbol? c).isSome

/-- Reads `a OP b` or `a`: the operator is the first symbol after the first character. -/
def expression? (e : List Char) : Option Expression :=
  match e with
  | [] => none
  | c :: rest =>
    match rest.findIdx? isOperatorSymbol with
    | none => some (.unary (String.ofList e))
    | some j =>
      match rest.drop j with
      | [] => none
      | s :: rhs =>
        match Operator.ofSymbol? s with
        | none => none
        | some op =>
          let lhs := trim (c :: rest.take j)
          let rhs := trim rhs
          if lhs.isEmpty || rhs.isEmpty then none
          else some ⟨String.ofList lhs, op, String.ofList rhs⟩

/-- Reads the part of a compute line after its `m`: `item = expression`. -/
def compute? (rest : List Char) : Option (String × Expression) :=
  let body := trim (dropSemicolons (trim rest))
  match firstIndex? '=' body with
  | none => none
  | some i =>
    let item := trim (body.take i)
    let expr := trim (body.drop (i + 1))
    if item.isEmpty || expr.isEmpty then none
    else (expression? expr).map (String.ofList item, ·)

inductive LineFault where
  | beforeTransaction (line : String)
  | wrongFormat (line : String)
  | noItem (line : String)
  | badCompute (line : String)
  | undefined (line : String)
  deriving DecidableEq, Repr

def LineFault.message : LineFault → String
  | .beforeTransaction l => s!"operation '{l}' appears before any " ++ "\x60transaction\x60 line"
  | .wrongFormat l => s!"operation '{l}' has wrong format"
  | .noItem l => s!"operation '{l}' names no item"
  | .badCompute l => s!"compute operation '{l}' has wrong format"
  | .undefined l => s!"undefined operation '{l}'"

/-- Reads a trimmed operation line into its kind and item. -/
def operation? (l : List Char) : Except LineFault (OpKind × String) :=
  let text := String.ofList l
  let call (k : OpKind) : Except LineFault (OpKind × String) :=
    match bracketed? l with
    | none => .error (.wrongFormat text)
    | some [] => .error (.noItem text)
    | some item => .ok (k, String.ofList item)
  match l with
  | 'r' :: _ => call .read
  | 'w' :: _ => call .write
  | 'm' :: rest =>
    match compute? rest with
    | some (item, e) => .ok (.compute e, item)
    | none => .error (.badCompute text)
  | _ => .error (.undefined text)

def opensTransaction (l : List Char) : Bool :=
  (l.take 11).map Char.toLower == "transaction".toList

def isSilent (l : List Char) : Bool := l.isEmpty || l.head? == some '#'

/-- Reads numbered lines, with the transactions finished so far (newest first) and the one
being read. The generator comes back in every case, as far as it got. -/
def readLines (gen : IdGen) (done : List Transaction) (current : Option Transaction) :
    List (Nat × List Char) → Except Error (List Transaction) × IdGen
  | [] => (.ok (done.reverse ++ current.toList), gen)
  | (n, raw) :: rest =>
    let l := trim raw
    if isSilent l then readLines gen done current rest
    else if opensTransaction l then
      match gen.draw with
      | .error e => (.error (.script n e.message), gen)
      | .ok (id, gen') => readLines gen' (current.toList ++ done) (some { id }) rest
    else match current with
      | none => (.error (.script n (LineFault.beforeTransaction (String.ofList l)).message), gen)
      | some t =>
        match operation? l with
        | .error f => (.error (.script n f.message), gen)
        | .ok (k, item) => readLines gen done (some (t.push k item)) rest

/-- Reads a script, numbering its transactions with `gen`. -/
def parse (text : String) (gen : IdGen) : Except Error (List Transaction) × IdGen :=
  readLines gen [] none ((lines text.toList).zipIdx 1 |>.map fun (l, n) => (n, l))

end Script
end TwoPhaseLocking
