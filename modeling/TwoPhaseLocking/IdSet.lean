/-!
Finite sets of ids as ascending lists without repeats; sets of sites and of transactions are
listed in ascending order.
-/
namespace TwoPhaseLocking
namespace IdSet

/-- Puts `x` into an ascending list without repeats. -/
def insert (x : Nat) : List Nat → List Nat
  | [] => [x]
  | y :: ys => if x < y then x :: y :: ys else if x = y then y :: ys else y :: insert x ys

def ofList (xs : List Nat) : List Nat := xs.foldl (fun s x => insert x s) []

@[simp] theorem mem_insert (x z : Nat) (l : List Nat) : z ∈ insert x l ↔ z = x ∨ z ∈ l := by
  induction l with
  | nil => simp [insert]
  | cons y ys ih =>
    unfold insert
    split
    · simp
    · split
      · rename_i h; subst h; simp only [List.mem_cons]; grind
      · simp only [List.mem_cons, ih]; grind

end IdSet
end TwoPhaseLocking
