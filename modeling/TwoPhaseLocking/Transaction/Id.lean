/-!
Transaction and site ids. A transaction id carries the site that made it:
`id = site * 10000 + n` with `1 ≤ n ≤ 9999`, so the site of a transaction is `id / 10000`
and notifications can be routed without a table. Both kinds of id are 32-bit unsigned.
-/
namespace TwoPhaseLocking

/-- A transaction id, a 32-bit unsigned number. -/
abbrev TxId := Nat

/-- A site id, a 32-bit unsigned number; the coordinator hands out 1, 2, ... -/
abbrev SiteId := Nat

def u32Max : Nat := 4294967295

/-- The factor between a site id and the ids of its transactions. -/
def idSpan : Nat := 10000

def siteOf (t : TxId) : SiteId := t / idSpan

@[simp] theorem siteOf_mk (s n : Nat) (h : n < idSpan) : siteOf (s * idSpan + n) = s := by
  simp only [siteOf, idSpan] at *
  show (s * 10000 + n) / 10000 = s
  omega

end TwoPhaseLocking
