import TwoPhaseLocking.Store
import TwoPhaseLocking.Transaction.Basic

/-!
Running a transaction against a store. Reads and computes stage values and a write moves its
item's computed value to the values to commit; nothing reaches the store before the commit,
which writes every staged value in item order.
-/
namespace TwoPhaseLocking

/-- The values a running transaction has staged. -/
structure Staging where
  /-- Values read or written, to be committed. -/
  toCommit : ItemMap Int := .empty
  /-- Values computed, waiting for their write. -/
  computed : ItemMap Int := .empty
  deriving Repr, Inhabited, DecidableEq

namespace Staging

def operand (w : Staging) (tx : TxId) (a : String) : Except Error Int :=
  if Value.isNumeral a.toList then
    let n : Int := Value.ofDigits a.toList
    if n ≤ Value.greatest then .ok n else .error (.overflow tx a)
  else match w.toCommit.get? a with
    | some v => .ok v
    | none => .error (.unknownOperand tx a)

def evaluate (w : Staging) (tx : TxId) (item : String) (e : Expression) : Except Error Int := do
  let a ← w.operand tx e.lhs
  let b ← w.operand tx e.rhs
  match e.op.apply a b with
  | some v => .ok v
  | none => .error (if b = 0 ∧ e.op = .divide then .divisionByZero tx item else .overflow tx item)

/-- Runs one operation of transaction `tx` (its locks already held). -/
def execute (w : Staging) (tx : TxId) (o : Operation) (s : Store) :
    Except Error (Staging × Store) :=
  match o.kind with
  | .read => do
    let (v, s') ← s.read o.item
    pure ({ w with toCommit := w.toCommit.insert o.item v }, s')
  | .write =>
    match w.computed.get? o.item with
    | some v => .ok ({ w with toCommit := w.toCommit.insert o.item v }, s)
    | none => .error (.missingWriteValue tx o.item)
  | .compute e => do
    let v ← w.evaluate tx o.item e
    pure ({ w with computed := w.computed.insert o.item v }, s)

/-- Writes the staged values in item order and stops at the first failure. Gives the store as
far as the writes went, and the number of values written or the error. -/
def commit (w : Staging) (s : Store) : Store × Except Error Nat :=
  let rec go : List (String × Int) → Store → Store × Except Error Unit
    | [], s => (s, .ok ())
    | (k, v) :: rest, s =>
      match s.write k v with
      | .error e => (s, .error e)
      | .ok s' => go rest s'
  let (s', r) := go w.toCommit.entries s
  (s', r.map fun _ => w.toCommit.size)

end Staging
end TwoPhaseLocking
