/-!
JSON values as the wire and the configuration tools see them. Objects keep their fields in
order, repeats included, because frames are written field by field in a fixed order. Numbers
keep the kind they were read as: an integer (the reader makes every integer that fits in 64
bits one), or a binary floating point value `mantissa * 2^exponent`.
-/
namespace TwoPhaseLocking

/-- A JSON value. -/
inductive Json where
  | null
  | bool (b : Bool)
  | int (i : Int)
  /-- A floating point number `m * 2^e`, with `negative` its sign. -/
  | float (negative : Bool) (m : Nat) (e : Int)
  | str (s : String)
  | arr (xs : List Json)
  | obj (fields : List (String × Json))
  deriving Repr, Inhabited

namespace Json

/-- The value of the first field of that name. -/
def field? (j : Json) (name : String) : Option Json :=
  match j with
  | obj fs => (fs.find? (·.1 == name)).map (·.2)
  | _ => none

def str? : Json → Option String
  | str s => some s
  | _ => none

def arr? : Json → Option (List Json)
  | arr xs => some xs
  | _ => none

def obj? : Json → Option (List (String × Json))
  | obj fs => some fs
  | _ => none

def int? : Json → Option Int
  | int i => some i
  | _ => none

def bool? : Json → Option Bool
  | bool b => some b
  | _ => none

def nat (n : Nat) : Json := int n

def nats (ns : List Nat) : Json := arr (ns.map nat)

end Json
end TwoPhaseLocking
