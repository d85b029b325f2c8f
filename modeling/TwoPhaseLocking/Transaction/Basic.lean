import TwoPhaseLocking.Error
import TwoPhaseLocking.Transaction.Operation

/-!
Transactions as a site runs them: an id and a list of operations, drawn from a per-site id
generator. The generator hands out `site * 10000 + n` for `n = 1, 2, ...` and refuses once `n`
would reach 10000 or the id would not fit in 32 bits; a refusal leaves it unchanged.
-/
namespace TwoPhaseLocking

/-- A transaction: its id and its operations in order. -/
structure Transaction where
  id : TxId
  ops : List Operation := []
  deriving DecidableEq, Repr, Inhabited

namespace Transaction

def site (t : Transaction) : SiteId := siteOf t.id

def push (t : Transaction) (kind : OpKind) (item : String) : Transaction :=
  { t with ops := t.ops ++ [⟨t.id, item, kind⟩] }

/-- `T<id> (site <s>): r(x); m x = a + b; w(x);`. -/
def toText (t : Transaction) : String :=
  s!"T{t.id} (site {t.site}):" ++ String.join (t.ops.map Operation.scriptText)

@[simp] theorem push_ops (t : Transaction) (k : OpKind) (i : String) :
    (t.push k i).ops = t.ops ++ [⟨t.id, i, k⟩] := rfl

@[simp] theorem push_id (t : Transaction) (k : OpKind) (i : String) : (t.push k i).id = t.id := rfl

end Transaction

/-- The transaction ids of one site still to be handed out. -/
structure IdGen where
  site : SiteId
  /-- The sequence number of the next id. -/
  next : Nat := 1
  deriving DecidableEq, Repr, Inhabited

namespace IdGen

def new (site : SiteId) : IdGen := ⟨site, 1⟩

/-- The next id and the generator after it, or the exhaustion error. -/
def draw (g : IdGen) : Except Error (TxId × IdGen) :=
  if g.next < idSpan ∧ g.site * idSpan + g.next ≤ u32Max then
    .ok (g.site * idSpan + g.next, { g with next := g.next + 1 })
  else .error (.idsExhausted g.site)

/-- Draws `n` times, keeping the number of refusals. -/
def skip (g : IdGen) : Nat → IdGen × Nat
  | 0 => (g, 0)
  | n + 1 =>
    match g.draw with
    | .ok (_, g') => g'.skip n
    | .error _ => let (g', k) := g.skip n; (g', k + 1)

theorem draw_site {g g' : IdGen} {t : TxId} (h : g.draw = .ok (t, g')) : siteOf t = g.site := by
  unfold draw at h
  split at h
  · rename_i hc
    simp only [Except.ok.injEq, Prod.mk.injEq] at h
    obtain ⟨rfl, -⟩ := h
    exact siteOf_mk _ _ hc.1
  · cases h

theorem draw_error {g : IdGen} {e : Error} (h : g.draw = .error e) : e = .idsExhausted g.site := by
  unfold draw at h
  split at h
  · cases h
  · cases h; rfl

end IdGen
end TwoPhaseLocking
