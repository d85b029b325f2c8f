import TwoPhaseLocking.Transaction.Id
import TwoPhaseLocking.Lock.Mode

/-!
A lock: a mode held by one transaction on one item; and the two ways a lock request is
refused outright.
-/
namespace TwoPhaseLocking

/-- A lock granted to (or asked for by) a transaction on an item. -/
structure Lock where
  mode : LockMode
  item : String
  owner : TxId
  deriving DecidableEq, Repr, Inhabited

namespace Lock

/-- The lock after its holder also asks for `requested`. -/
def upgrade (l : Lock) (requested : LockMode) : Lock := { l with mode := l.mode.upgraded requested }

/-- `[item, mode, transaction N, site S]`. -/
def toText (l : Lock) : String :=
  s!"[{l.item}, {l.mode.name}, transaction {l.owner}, site {siteOf l.owner}]"

@[simp] theorem upgrade_item (l : Lock) (r : LockMode) : (l.upgrade r).item = l.item := rfl

@[simp] theorem upgrade_owner (l : Lock) (r : LockMode) : (l.upgrade r).owner = l.owner := rfl

end Lock

/-- Why a lock request is refused without looking at the table. -/
inductive LockError where
  /-- A compute never holds a lock; `kind` names the operation kind. -/
  | notLockable (tx : TxId) (kind : String)
  /-- Read/write only comes from an upgrade and cannot be asked for. -/
  | invalidMode (item : String) (tx : TxId) (mode : LockMode)
  deriving DecidableEq, Repr

namespace LockError

def code : LockError → String
  | notLockable .. => "E300"
  | invalidMode .. => "E301"

def kindName : LockError → String
  | notLockable .. => "NotLockable"
  | invalidMode .. => "InvalidLockType"

def message : LockError → String
  | notLockable tx kind => s!"Operation of kind '{kind}' from transaction {tx} cannot hold a lock"
  | invalidMode item tx mode =>
    s!"Lock type '{mode.name}' cannot be requested directly (item '{item}', transaction {tx})"

end LockError
end TwoPhaseLocking
