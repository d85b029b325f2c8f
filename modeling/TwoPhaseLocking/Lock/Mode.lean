/-!
Lock modes. A read lock is shared; a write lock is exclusive; a read/write lock is what a read
lock becomes when its holder also writes (or a write lock when its holder also reads), and is
exclusive too. Read/write is never asked for directly.
-/
namespace TwoPhaseLocking

inductive LockMode where
  | read
  | write
  | readWrite
  deriving DecidableEq, Repr, Inhabited

namespace LockMode

/-- The name shown in lock tables. -/
def name : LockMode → String
  | read => "read"
  | write => "write"
  | readWrite => "read/write"

/-- The name on the wire and in configuration files. -/
def wireName : LockMode → String
  | read => "read"
  | write => "write"
  | readWrite => "read_write"

/-- Whether the mode shuts every other transaction out of the item. -/
def isExclusive : LockMode → Bool
  | read => false
  | write | readWrite => true

/-- The mode a lock has after its holder also asks for `requested`: read and write, in either
order, give read/write; anything else keeps the mode. -/
def upgraded : LockMode → LockMode → LockMode
  | read, write => readWrite
  | write, read => readWrite
  | m, _ => m

@[simp] theorem upgraded_self (m : LockMode) : m.upgraded m = m := by cases m <;> rfl

theorem isExclusive_upgraded (m r : LockMode) (h : m.isExclusive = true) :
    (m.upgraded r).isExclusive = true := by
  cases m <;> cases r <;> simp_all [upgraded, isExclusive]

end LockMode
end TwoPhaseLocking
