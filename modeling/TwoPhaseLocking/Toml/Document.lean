/-!
TOML documents as they are read, each value with the byte span of its text. A document is built
line by line, and the rules of the format about defining a table or a key twice are checked as
the tree grows.
-/
namespace TwoPhaseLocking
namespace Toml

inductive Scalar where
  | string (s : String)
  | integer (i : Int)
  /-- A finite float `±m * 2^e`. -/
  | float (negative : Bool) (m : Nat) (e : Int)
  /-- An infinite float or NaN, by its text (`inf`, `-inf`, `NaN`). -/
  | special (text : String)
  | boolean (b : Bool)
  | datetime (text : String)
  deriving DecidableEq, Repr, Inhabited

/-- A value or table of a document. Spans are byte offsets `[start, stop)` into the text. -/
inductive Node where
  | scalar (s : Scalar) (start stop : Nat)
  | array (items : List Node) (start stop : Nat)
  /-- An inline table; `implicit` and `dotted` mark one made by a dotted key inside it. -/
  | inline (entries : List (String × Node)) (implicit dotted : Bool) (start stop : Nat)
  /-- A table; `implicit` marks one made on the way to a deeper header or by a dotted key,
  `dotted` one made by a dotted key. -/
  | table (entries : List (String × Node)) (implicit dotted : Bool) (span : Option (Nat × Nat))
  /-- An array of tables, each a `table`. -/
  | tables (items : List Node)
  deriving Repr, Inhabited

namespace Node

def span? : Node → Option (Nat × Nat)
  | scalar _ a b => some (a, b)
  | array _ a b => some (a, b)
  | inline _ _ _ a b => some (a, b)
  | table _ _ _ s => s
  | tables _ => none

/-- The name of the kind of a value, as the format's messages name it. -/
def typeName : Node → String
  | scalar (.string _) .. => "string"
  | scalar (.integer _) .. => "integer"
  | scalar (.float ..) .. | scalar (.special _) .. => "float"
  | scalar (.boolean _) .. => "boolean"
  | scalar (.datetime _) .. => "datetime"
  | array .. => "array"
  | inline .. => "inline table"
  | table .. => "table"
  | tables .. => "array of tables"

end Node

inductive Conflict where
  /-- A key defined twice; `table` is the path of the table, when it is known. -/
  | duplicateKey (key : String) (table : Option (List String))
  /-- A dotted key that would extend a value that is not a table. -/
  | extendWrongType (path : List String) (actual : String)
  | outOfRange
  | recursionLimit
  deriving DecidableEq, Repr, Inhabited

namespace Conflict

def message : Conflict → String
  | duplicateKey k none => "duplicate key \x60" ++ k ++ "\x60"
  | duplicateKey k (some []) => "duplicate key \x60" ++ k ++ "\x60 in document root"
  | duplicateKey k (some t) => "duplicate key \x60" ++ k ++ "\x60 in table \x60" ++ ".".intercalate t ++ "\x60"
  | extendWrongType p a =>
    "dotted key \x60" ++ ".".intercalate p ++ "\x60 attempted to extend non-table type (" ++ a ++ ")"
  | outOfRange => "value is out of range"
  | recursionLimit => "recursion limit exceeded"

end Conflict

/-- The entries of a table, in the order keys were first written. -/
abbrev Entries := List (String × Node)

/-- A key as written: its name and the byte span of its text. A table that a key makes on its
own (by a dotted key or on the way to a header) has no text of its own, so a complaint about
it points at the key that made it first. -/
abbrev KeyPart := String × (Nat × Nat)

namespace Entries

def lookup (es : Entries) (k : String) : Option Node := (List.find? (·.1 = k) es).map (·.2)

def set (es : Entries) (k : String) (n : Node) : Entries :=
  es.map fun (k', n') => if k' = k then (k', n) else (k', n')

def remove (es : Entries) (k : String) : Entries := es.filter (·.1 != k)

@[simp] theorem lookup_nil (k : String) : lookup [] k = none := rfl

end Entries

/-- Walks a path of keys down from a table whose entries are `es`, making implicit tables
where keys are missing (dotted ones when `dotted`), each spanned by the key that makes it, and
changes the table at the end with `f`, which also sees whether that table is dotted. `walked`
are the keys before `path`, for messages. Arrays of tables are entered at their last table. -/
def descend {β : Type} (f : Entries → Bool → Except Conflict (Entries × β)) (dotted : Bool) :
    (walked : List String) → (path : List KeyPart) → Entries → Bool → Except Conflict (Entries × β)
  | _, [], es, selfDotted => f es selfDotted
  | walked, (k, ks) :: rest, es, _ =>
    match Entries.lookup es k with
    | none => do
      let (sub, b) ← descend f dotted (walked ++ [k]) rest [] dotted
      pure (es ++ [(k, .table sub true dotted (some ks))], b)
    | some (.table sub impl dot sp) => do
      if dotted && !impl then throw (.duplicateKey k none)
      let (sub, b) ← descend f dotted (walked ++ [k]) rest sub dot
      pure (Entries.set es k (.table sub impl dot sp), b)
    | some (.tables ts) =>
      match ts.reverse with
      | (.table sub impl dot sp) :: earlier => do
        let (sub, b) ← descend f dotted (walked ++ [k]) rest sub dot
        pure (Entries.set es k (.tables ((Node.table sub impl dot sp :: earlier).reverse)), b)
      | _ => throw (.extendWrongType (walked ++ [k]) "array of tables")
    | some v => throw (.extendWrongType (walked ++ [k]) v.typeName)

/-- Puts `key = value` into an inline table after walking its dotted path. -/
def inlineInsert (path : List KeyPart) (key : String) (value : Node) (es : Entries) :
    Except Conflict Entries :=
  let rec go (walked : List String) : List KeyPart → Entries → Bool → Except Conflict Entries
    | [], es, selfDotted =>
      if selfDotted == path.isEmpty then .error (.duplicateKey key none)
      else match Entries.lookup es key with
        | some _ => .error (.duplicateKey key none)
        | none => .ok (es ++ [(key, value)])
    | (k, ks) :: rest, es, _ =>
      match Entries.lookup es k with
      | none => do
        let sub ← go (walked ++ [k]) rest [] true
        pure (es ++ [(k, .inline sub true true ks.1 ks.2)])
      | some (.inline sub impl dot a b) => do
        if !impl then throw (.duplicateKey k none)
        let sub ← go (walked ++ [k]) rest sub dot
        pure (Entries.set es k (.inline sub impl dot a b))
      | some v => .error (.extendWrongType (walked ++ [k]) v.typeName)
  go [] path es false

/-- The state of a document being built: the finished part of the tree, and the table of the
last header, still open. -/
structure Builder where
  root : Entries := []
  current : Entries := []
  /-- The path of the open table; empty before the first header. -/
  path : List KeyPart := []
  isArray : Bool := false
  span : Option (Nat × Nat) := none
  deriving Inhabited

namespace Builder

def keyval (b : Builder) (path : List KeyPart) (key : String) (value : Node) :
    Except Conflict Builder := do
  let (cur, _) ← descend (fun es selfDotted =>
      if selfDotted == path.isEmpty then .error (.duplicateKey key none)
      else match Entries.lookup es key with
        | some _ => .error (.duplicateKey key (some (b.path.map (·.1))))
        | none => .ok (es ++ [(key, value)], ())) true [] path b.current false
  let span := match b.span, value.span? with
    | some (s, _), some (_, e) => some (s, e)
    | s, _ => s
  pure { b with current := cur, span := span }

def finalize (b : Builder) : Except Conflict Builder := do
  match b.path.reverse with
  | [] => pure { b with root := b.current, current := [] }
  | (key, _) :: parentRev =>
    let parent := parentRev.reverse
    let table := Node.table b.current false false b.span
    let (root, _) ← descend (fun es _ =>
        if b.isArray then
          match Entries.lookup es key with
          | none => .ok (es ++ [(key, .tables [table])], ())
          | some (.tables ts) => .ok (Entries.set es key (.tables (ts ++ [table])), ())
          | some _ => .error (.duplicateKey key (some (parent.map (·.1))))
        else
          match Entries.lookup es key with
          | none => .ok (es ++ [(key, table)], ())
          | some (.table _ true _ _) => .ok (Entries.set es key table, ())
          | some _ => .error (.duplicateKey key (some (parent.map (·.1))))) false [] parent b.root false
    pure { b with root := root, current := [], path := [], isArray := false, span := none }

/-- Opens the table of a header `[path]` spanning `span`. -/
def startTable (b : Builder) (path : List KeyPart) (span : Nat × Nat) : Except Conflict Builder := do
  let b ← b.finalize
  match path.reverse with
  | [] => pure b
  | (key, _) :: parentRev =>
    let parent := parentRev.reverse
    let (root, taken) ← descend (fun es _ =>
        match Entries.lookup es key with
        | none => .ok (es, [])
        | some (.table sub true false _) => .ok (Entries.remove es key, sub)
        | some _ => .error (.duplicateKey key (some (parent.map (·.1))))) false [] parent b.root false
    pure { b with root := root, current := taken, path := path, isArray := false, span := some span }

/-- Opens a new table of an array header `[[path]]` spanning `span`. -/
def startArrayTable (b : Builder) (path : List KeyPart) (span : Nat × Nat) :
    Except Conflict Builder := do
  let b ← b.finalize
  match path.reverse with
  | [] => pure b
  | (key, _) :: parentRev =>
    let parent := parentRev.reverse
    let (root, _) ← descend (fun es _ =>
        match Entries.lookup es key with
        | none => .ok (es ++ [(key, .tables [])], ())
        | some (.tables _) => .ok (es, ())
        | some _ => .error (.duplicateKey key (some (parent.map (·.1))))) false [] parent b.root false
    pure { b with root := root, current := [], path := path, isArray := true, span := some span }

end Builder
end Toml
end TwoPhaseLocking
