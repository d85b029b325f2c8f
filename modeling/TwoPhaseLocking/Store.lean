import TwoPhaseLocking.ItemMap
import TwoPhaseLocking.Error

/-!
The item store: the committed value of every item, where an item never written reads as 0.
A store may be set to fail: after a number of further successful reads and writes every call
fails with a fixed error (a store that became unavailable, or a closed database).
-/
namespace TwoPhaseLocking

/-- Committed item values, with an optional budget of successful calls. -/
structure Store where
  items : ItemMap Int := .empty
  /-- How many more calls succeed; `none` means all. -/
  budget : Option Nat := none
  /-- The error of a call past the budget. -/
  failure : Error := .other "item store unavailable"
  deriving Repr, Inhabited

namespace Store

def ofList (kvs : List (String × Int)) : Store := { items := .ofList kvs }

/-- Takes one call from the budget, or fails. -/
def spend (s : Store) : Except Error Store :=
  match s.budget with
  | none => .ok s
  | some 0 => .error s.failure
  | some (n + 1) => .ok { s with budget := some n }

/-- The committed value of an item, 0 for an item never written. -/
def value (s : Store) (item : String) : Int := (s.items.get? item).getD 0

def read (s : Store) (item : String) : Except Error (Int × Store) :=
  (s.spend).map fun s' => (s.value item, s')

def write (s : Store) (item : String) (v : Int) : Except Error Store :=
  (s.spend).map fun s' => { s' with items := s'.items.insert item v }

def put (s : Store) (item : String) (v : Int) : Store := { s with items := s.items.insert item v }

def listing (s : Store) : List (String × Int) := s.items.entries

@[simp] theorem read_unlimited (s : Store) (item : String) (h : s.budget = none) :
    s.read item = .ok (s.value item, s) := by
  simp [read, spend, h, Except.map]

@[simp] theorem value_put (s : Store) (i j : String) (v : Int) :
    (s.put i v).value j = if i = j then v else s.value j := by
  unfold value put; by_cases h : i = j <;> simp [h]

end Store
end TwoPhaseLocking
