/-!
How alike two words are, for suggesting what a user may have meant: the Jaro similarity, kept as
an exact fraction. A candidate is suggested when its similarity exceeds `7/10`.
-/
namespace TwoPhaseLocking
namespace Similar

/-- A similarity as a fraction `num / den`, with `den > 0`. -/
structure Score where
  num : Nat
  den : Nat
  deriving DecidableEq, Repr, Inhabited

def Score.lt (x y : Score) : Bool := x.num * y.den < y.num * x.den

/-- Marks, for each character of `a`, the first unmarked equal character of `b` within the
window; gives the marks on `a` and on `b`. -/
def matchMarks (a b : List Char) : List Bool × List Bool :=
  let range := max a.length b.length / 2 - 1
  let step (acc : List Bool × List Bool × Nat) (c : Char) :=
    let (ma, mb, i) := acc
    let lo := i - range
    let hi := min b.length (i + range + 1)
    let hit := ((List.range b.length).zip (b.zip mb)).find? fun (j, d, used) =>
      lo ≤ j && j < hi && d == c && !used
    match hit with
    | some (j, _, _) => (ma ++ [true], mb.set j true, i + 1)
    | none => (ma ++ [false], mb, i + 1)
  let (ma, mb, _) := a.foldl step ([], List.replicate b.length false, 0)
  (ma, mb)

/-- The Jaro similarity of two words. -/
def jaro (x y : String) : Score :=
  let a := x.toList
  let b := y.toList
  if a.isEmpty && b.isEmpty then ⟨1, 1⟩
  else if a.isEmpty || b.isEmpty then ⟨0, 1⟩
  else
    let (ma, mb) := matchMarks a b
    let ka := (a.zip ma).filterMap fun (c, f) => if f then some c else none
    let kb := (b.zip mb).filterMap fun (c, f) => if f then some c else none
    let m := ka.length
    let t := ((ka.zip kb).filter fun (c, d) => c != d).length / 2
    if m = 0 then ⟨0, 1⟩
    else ⟨m * b.length * m + m * a.length * m + (m - t) * a.length * b.length,
      3 * a.length * b.length * m⟩

/-- The candidates more than `7/10` similar to `word`, least similar first; equally similar
ones keep their order. -/
def candidates (word : String) (pool : List String) : List String :=
  let scored := pool.filterMap fun p =>
    let s := jaro word p
    if 7 * s.den < 10 * s.num then some (s, p) else none
  (scored.mergeSort fun x y => !(Score.lt y.1 x.1)).map (·.2)

/-- The candidate most similar to `word`, if one is similar enough. -/
def best? (word : String) (pool : List String) : Option String := (candidates word pool).getLast?

theorem jaro_self_nil : jaro "" "" = ⟨1, 1⟩ := rfl

end Similar
end TwoPhaseLocking
