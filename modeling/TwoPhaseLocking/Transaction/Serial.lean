import TwoPhaseLocking.Transaction.Run

/-!
Transactions run alone, one after another: each runs its operations in order against the store
the ones before it left, from nothing staged, and then commits. This is the serial meaning a
concurrent run of the sites is compared with.
-/
namespace TwoPhaseLocking

namespace Staging

/-- Runs operations in order, each against the store the one before left; stops at the first
error. -/
def executeAll (w : Staging) (tx : TxId) : List Operation → Store → Except Error (Staging × Store)
  | [], s => .ok (w, s)
  | o :: os, s =>
    match w.execute tx o s with
    | .ok (w', s') => w'.executeAll tx os s'
    | .error e => .error e

end Staging

namespace Transaction

/-- Runs a transaction alone: its operations in order from nothing staged, then its commit.
Gives the store it leaves, or its first error. -/
def runAlone (t : Transaction) (s : Store) : Except Error Store :=
  match ({} : Staging).executeAll t.id t.ops s with
  | .ok (w, s') => let (s'', r) := w.commit s'; r.map fun _ => s''
  | .error e => .error e

/-- Runs transactions alone, one after another. -/
def runSerially : List Transaction → Store → Except Error Store
  | [], s => .ok s
  | t :: ts, s =>
    match t.runAlone s with
    | .ok s' => runSerially ts s'
    | .error e => .error e

end Transaction
end TwoPhaseLocking
