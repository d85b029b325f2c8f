/-!
Item values are 64-bit signed integers. They are kept as `Int` together with the range test;
arithmetic on them is checked, so a result outside the range is no value at all.
-/
namespace TwoPhaseLocking
namespace Value

/-- The least item value, `-2^63`. -/
def least : Int := -9223372036854775808

def greatest : Int := 9223372036854775807

def inRange (v : Int) : Bool := decide (least ≤ v) && decide (v ≤ greatest)

/-- Keeps a result only when it is an item value. -/
def checked (v : Int) : Option Int := if inRange v then some v else none

def add (a b : Int) : Option Int := checked (a + b)

def sub (a b : Int) : Option Int := checked (a - b)

def mul (a b : Int) : Option Int := checked (a * b)

/-- Checked quotient, rounded toward zero; no quotient by zero. -/
def div (a b : Int) : Option Int := if b = 0 then none else checked (Int.tdiv a b)

/-- The value of a decimal numeral of ASCII digits, whatever its size. -/
def ofDigits (cs : List Char) : Nat :=
  cs.foldl (fun n c => 10 * n + (c.toNat - '0'.toNat)) 0

/-- A numeral is a non-empty run of ASCII digits. -/
def isNumeral (cs : List Char) : Bool := !cs.isEmpty && cs.all Char.isDigit

def toText (v : Int) : String := toString v

theorem checked_eq_some {v w : Int} : checked v = some w ↔ inRange v = true ∧ v = w := by
  unfold checked
  by_cases h : inRange v = true <;> simp [h]

@[simp] theorem div_zero (a : Int) : div a 0 = none := by simp [div]

theorem inRange_least : inRange least = true := by decide

theorem div_least_neg_one : div least (-1) = none := by decide

end Value
end TwoPhaseLocking
