/-!
Binary64 numbers for reading and showing JSON floats: decimals rounded to the nearest value with
a 53-bit significand, ties to even, and finite values shown with the fewest digits that read
back to them.
-/
namespace TwoPhaseLocking
namespace Binary64

/-- Significands of normal values lie in `[2^52, 2^53)`. -/
def hidden : Nat := Nat.pow 2 52

/-- The least binary exponent, that of the subnormals. -/
def minExp : Int := -1074

/-- The greatest binary exponent of a finite value. -/
def maxExp : Int := 971

/-- `a / b` rounded to the nearest integer, a tie to the even one. -/
def roundDiv (a b : Nat) : Nat :=
  let q := a / b
  let r := a % b
  if 2 * r > b then q + 1 else if 2 * r < b then q else if q % 2 = 0 then q else q + 1

/-- `num / den * 2^-e` rounded to an integer. -/
def scaled (num den : Nat) (e : Int) : Nat :=
  if e ≥ 0 then roundDiv num (den * Nat.pow 2 e.toNat) else roundDiv (num * Nat.pow 2 (-e).toNat) den

def bits (n : Nat) : Nat := n.log2 + 1

/-- The binary64 value nearest to `num / den` (positive), as `(m, e)`; `none` when it is too
large. -/
def ofRatio (num den : Nat) : Option (Nat × Int) :=
  if num = 0 then some (0, 0) else
  -- a first exponent that puts the quotient near 53 bits, then at most two corrections
  let e0 : Int := max minExp ((bits num : Int) - bits den - 53)
  let pick (e : Int) : Nat × Int :=
    let m := scaled num den e
    if m ≥ Nat.pow 2 53 then (scaled num den (e + 1), e + 1) else (m, e)
  let (m1, e1) := pick e0
  -- if the first guess was one too high, the quotient has fewer than 53 bits
  let (m, e) := if m1 < hidden ∧ e1 > minExp then pick (max minExp (e1 - 1)) else (m1, e1)
  let (m, e) := if m ≥ Nat.pow 2 53 then (m / 2, e + 1) else (m, e)
  if e > maxExp then none else some (m, e)

/-- The binary64 value nearest to `d * 10^k`, as `(m, e)`; `none` when it is too large. -/
def ofDecimal (d : Nat) (k : Int) : Option (Nat × Int) :=
  if k ≥ 0 then ofRatio (d * Nat.pow 10 k.toNat) 1 else ofRatio d (Nat.pow 10 (-k).toNat)

def ofNat (n : Nat) : Option (Nat × Int) := ofRatio n 1

def toRatio (m : Nat) (e : Int) : Nat × Nat :=
  if e ≥ 0 then (m * Nat.pow 2 e.toNat, 1) else (m, Nat.pow 2 (-e).toNat)

/-- The product of two values, rounded to the nearest; `none` when it is too large. -/
def mul (a b : Nat × Int) : Option (Nat × Int) :=
  let r := toRatio (a.1 * b.1) (a.2 + b.2)
  ofRatio r.1 r.2

/-- The quotient of two values (the divisor not zero), rounded to the nearest. -/
def div (a b : Nat × Int) : Option (Nat × Int) :=
  let r := toRatio a.1 (a.2 - b.2)
  ofRatio r.1 (r.2 * b.1)

/-- The binary64 value nearest to `10^i` (for `i ≤ 308`; zero beyond). -/
def pow10 (i : Nat) : Nat × Int := (ofDecimal 1 i).getD (0, 0)

def decimalDigits (n : Nat) : Nat := (toString n).length

/-- Whether `c * 10^k` lies in the interval of reals that read back as `m * 2^e`. The interval
runs half way to each neighbour; its ends belong to it when `m` is even. -/
def readsBack (m : Nat) (e : Int) (c : Nat) (k : Int) : Bool :=
  -- compare 2^(2-e) * c * 10^k with the ends 4m ± 2 (or 4m - 1 below a power of two)
  let lowGap : Nat := if m = hidden ∧ e > minExp then 1 else 2
  let lo := 4 * m - lowGap
  let hi := 4 * m + 2
  let shift : Int := 2 - e
  let (a, b) : Nat × Nat :=
    let cn := c * (if k ≥ 0 then Nat.pow 10 k.toNat else 1)
    let cd := if k ≥ 0 then 1 else Nat.pow 10 (-k).toNat
    if shift ≥ 0 then (cn * Nat.pow 2 shift.toNat, cd) else (cn, cd * Nat.pow 2 (-shift).toNat)
  -- the candidate is a / b; the ends are lo and hi
  let aboveLo := if m % 2 = 0 then a ≥ lo * b else a > lo * b
  let belowHi := if m % 2 = 0 then a ≤ hi * b else a < hi * b
  aboveLo && belowHi

/-- The shortest digits `(c, k)` with `c * 10^k` reading back as `m * 2^e` (positive). -/
def shortest (m : Nat) (e : Int) : Nat × Int :=
  -- v = m * 2^e as num / den
  let num := if e ≥ 0 then m * Nat.pow 2 e.toNat else m
  let den := if e ≥ 0 then 1 else Nat.pow 2 (-e).toNat
  -- the decimal exponent of the leading digit of v
  let lead : Int := (decimalDigits (num / den) : Int) - 1
  let lead : Int := if num / den = 0 then
      -- v < 1: count the zeros after the point
      -((List.range 400).find? (fun i => num * Nat.pow 10 (i + 1) ≥ den) |>.getD 0 |> (· + 1) : Nat)
    else lead
  let tryDigits (n : Nat) : Option (Nat × Int) :=
    let k : Int := lead - n + 1
    -- c0 = floor(v / 10^k), and its successor
    let (qn, qd) := if k ≥ 0 then (num, den * Nat.pow 10 k.toNat) else (num * Nat.pow 10 (-k).toNat, den)
    let c0 := qn / qd
    let c1 := c0 + 1
    let ok0 := c0 > 0 && readsBack m e c0 k
    let ok1 := readsBack m e c1 k
    if ok0 && ok1 then
      -- the nearer of the two; v - c0 against c1 - v, in units of qd
      let d0 := qn - c0 * qd
      let d1 := c1 * qd - qn
      some (if d0 < d1 then (c0, k) else if d1 < d0 then (c1, k) else if c0 % 2 = 0 then (c0, k) else (c1, k))
    else if ok0 then some (c0, k)
    else if ok1 then some (c1, k)
    else none
  ((List.range 17).findSome? (fun i => tryDigits (i + 1))).getD (m, e)

/-- Positional text of `c * 10^k`, without exponent and without a point when whole. -/
def positional (c : Nat) (k : Int) : String :=
  let ds := toString c
  if k ≥ 0 then ds ++ String.ofList (List.replicate k.toNat '0')
  else
    let n := (-k).toNat
    if ds.length > n then
      String.ofList (ds.toList.take (ds.length - n)) ++ "." ++ String.ofList (ds.toList.drop (ds.length - n))
    else "0." ++ String.ofList (List.replicate (n - ds.length) '0') ++ ds

/-- The text of a finite value `±m * 2^e`: shortest digits, positional, and `.0` added when
there is no point. -/
def toText (negative : Bool) (m : Nat) (e : Int) : String :=
  let body := if m = 0 then "0" else
    let (c, k) := shortest m e
    -- drop trailing zeros of the digits into the exponent
    let rec strip (fuel : Nat) (c : Nat) (k : Int) : Nat × Int :=
      match fuel with
      | 0 => (c, k)
      | f + 1 => if c > 0 ∧ c % 10 = 0 then strip f (c / 10) (k + 1) else (c, k)
    let (c, k) := strip 20 c k
    positional c k
  let body := if body.toList.contains '.' then body else body ++ ".0"
  (if negative then "-" else "") ++ body

/-- The text of a finite value `±m * 2^e` in a JSON document: the shortest digits
`d₁…dₙ * 10^k`, with `p = n + k` the position of the point. A value with `-5 < p ≤ 16` is written
positionally (`12340000000.0`, `12.34`, `0.001234`); any other in scientific form, `d₁.d₂…dₙ`
(or `d₁` alone) then `e`, a `+` when `p > 0`, and `p - 1` (`1e+30`, `1.234e+33`, `5e-324`). -/
def toJsonText (negative : Bool) (m : Nat) (e : Int) : String :=
  let body := if m = 0 then "0.0" else
    let (c, k) := shortest m e
    let rec strip (fuel : Nat) (c : Nat) (k : Int) : Nat × Int :=
      match fuel with
      | 0 => (c, k)
      | f + 1 => if c > 0 ∧ c % 10 = 0 then strip f (c / 10) (k + 1) else (c, k)
    let (c, k) := strip 20 c k
    let ds := (toString c).toList
    let p : Int := ds.length + k
    if -5 < p ∧ p ≤ 16 then
      let text := positional c k
      if text.toList.contains '.' then text else text ++ ".0"
    else
      let mant := match ds with
        | [d] => String.singleton d
        | d :: rest => String.singleton d ++ "." ++ String.ofList rest
        | [] => "0"
      mant ++ "e" ++ (if p > 0 then "+" else "") ++ toString (p - 1)
  (if negative then "-" else "") ++ body

end Binary64
end TwoPhaseLocking
