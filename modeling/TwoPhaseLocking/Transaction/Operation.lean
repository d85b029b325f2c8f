import TwoPhaseLocking.Value
import TwoPhaseLocking.Lock.Basic

/-!
Operations of a transaction: read an item, write an item, or compute a new value for an item
from two operands. Reads and writes need a lock first; computes never take one.
-/
namespace TwoPhaseLocking

/-- The arithmetic of a compute. -/
inductive Operator where
  | add
  | subtract
  | multiply
  | divide
  deriving DecidableEq, Repr, Inhabited

namespace Operator

def symbol : Operator → Char
  | add => '+'
  | subtract => '-'
  | multiply => '*'
  | divide => '/'

def ofSymbol? : Char → Option Operator
  | '+' => some add
  | '-' => some subtract
  | '*' => some multiply
  | '/' => some divide
  | _ => none

def wireName : Operator → String
  | add => "add"
  | subtract => "subtract"
  | multiply => "multiply"
  | divide => "divide"

/-- Checked arithmetic on item values; `none` on overflow or a quotient by zero. -/
def apply : Operator → Int → Int → Option Int
  | add => Value.add
  | subtract => Value.sub
  | multiply => Value.mul
  | divide => Value.div

theorem ofSymbol?_symbol (o : Operator) : ofSymbol? o.symbol = some o := by cases o <;> rfl

end Operator

/-- The right-hand side of a compute: `lhs op rhs`. An operand is a numeral or an item name. -/
structure Expression where
  lhs : String
  op : Operator
  rhs : String
  deriving DecidableEq, Repr, Inhabited

namespace Expression

/-- `m x = a` stands for `m x = a + 0`. -/
def unary (a : String) : Expression := ⟨a, .add, "0"⟩

def toText (e : Expression) : String := s!"{e.lhs} {e.op.symbol} {e.rhs}"

end Expression

inductive OpKind where
  | read
  | write
  | compute (e : Expression)
  deriving DecidableEq, Repr, Inhabited

namespace OpKind

def name : OpKind → String
  | read => "read"
  | write => "write"
  | compute _ => "compute"

end OpKind

/-- One step of a transaction on one item. -/
structure Operation where
  tx : TxId
  item : String
  kind : OpKind
  deriving DecidableEq, Repr, Inhabited

namespace Operation

def requiresLock (o : Operation) : Bool :=
  match o.kind with
  | .compute _ => false
  | _ => true

def lock? (o : Operation) : Option Lock :=
  match o.kind with
  | .read => some ⟨.read, o.item, o.tx⟩
  | .write => some ⟨.write, o.item, o.tx⟩
  | .compute _ => none

/-- `READ(x) [transaction N, site S]`, `WRITE(x) ...` or `COMPUTE(x = a + b) ...`. -/
def toText (o : Operation) : String :=
  let head := match o.kind with
    | .read => s!"READ({o.item})"
    | .write => s!"WRITE({o.item})"
    | .compute e => s!"COMPUTE({o.item} = {e.toText})"
  head ++ s!" [transaction {o.tx}, site {siteOf o.tx}]"

/-- The operation as a script line: ` r(x);`, ` w(x);` or ` m x = a + b;`. -/
def scriptText (o : Operation) : String :=
  match o.kind with
  | .read => s!" r({o.item});"
  | .write => s!" w({o.item});"
  | .compute e => s!" m {o.item} = {e.toText};"

theorem lock?_eq_none_iff (o : Operation) : o.lock? = none ↔ o.requiresLock = false := by
  rcases o with ⟨t, i, k⟩; cases k <;> simp [lock?, requiresLock]

@[simp] theorem lock?_item {o : Operation} {l : Lock} (h : o.lock? = some l) : l.item = o.item := by
  rcases o with ⟨t, i, k⟩; cases k <;> simp_all [lock?] <;> subst h <;> rfl

@[simp] theorem lock?_owner {o : Operation} {l : Lock} (h : o.lock? = some l) : l.owner = o.tx := by
  rcases o with ⟨t, i, k⟩; cases k <;> simp_all [lock?] <;> subst h <;> rfl

end Operation
end TwoPhaseLocking
