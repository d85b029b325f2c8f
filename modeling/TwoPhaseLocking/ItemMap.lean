/-!
Maps keyed by item name, kept in ascending order of the names. Names compare code point by
code point, which is the byte order of their UTF-8 text, so every listing of a map (lock table,
wait queue, staged values, store) comes out in that order.
-/
namespace TwoPhaseLocking

/-- A finite map from item names, as a list of entries in ascending key order. -/
structure ItemMap (α : Type) where
  entries : List (String × α)
  deriving Repr, Inhabited, DecidableEq

namespace ItemMap

variable {α β : Type}

def empty : ItemMap α := ⟨[]⟩

def get? (m : ItemMap α) (k : String) : Option α := (m.entries.find? (·.1 == k)).map (·.2)

/-- Puts `(k, v)` into an ascending list, replacing an entry of key `k`. -/
def insertEntry (k : String) (v : α) : List (String × α) → List (String × α)
  | [] => [(k, v)]
  | (k', v') :: rest =>
    if k < k' then (k, v) :: (k', v') :: rest
    else if k = k' then (k, v) :: rest
    else (k', v') :: insertEntry k v rest

def insert (m : ItemMap α) (k : String) (v : α) : ItemMap α := ⟨insertEntry k v m.entries⟩

def erase (m : ItemMap α) (k : String) : ItemMap α := ⟨m.entries.filter (·.1 != k)⟩

/-- Sets the value under `k` when `v` is some value, and removes the key otherwise. -/
def set (m : ItemMap α) (k : String) : Option α → ItemMap α
  | some v => m.insert k v
  | none => m.erase k

def keys (m : ItemMap α) : List String := m.entries.map (·.1)

def values (m : ItemMap α) : List α := m.entries.map (·.2)

def size (m : ItemMap α) : Nat := m.entries.length

def isEmpty (m : ItemMap α) : Bool := m.entries.isEmpty

def filterMap (m : ItemMap α) (f : String → α → Option β) : ItemMap β :=
  ⟨m.entries.filterMap fun (k, v) => (f k v).map (k, ·)⟩

def map (m : ItemMap α) (f : α → β) : ItemMap β := ⟨m.entries.map fun (k, v) => (k, f v)⟩

/-- Builds a map from entries; of two entries with one key the later wins. -/
def ofList (kvs : List (String × α)) : ItemMap α := kvs.foldl (fun m (k, v) => m.insert k v) empty

def contains (m : ItemMap α) (k : String) : Bool := (m.get? k).isSome

@[simp] theorem get?_empty (k : String) : (empty : ItemMap α).get? k = none := rfl

theorem find?_insertEntry (k k2 : String) (v : α) (l : List (String × α)) :
    ((insertEntry k v l).find? (·.1 == k2)).map (·.2) =
      if k = k2 then some v else (l.find? (·.1 == k2)).map (·.2) := by
  induction l with
  | nil => by_cases h : k = k2 <;> simp [insertEntry, h]
  | cons e rest ih =>
    obtain ⟨k', v'⟩ := e
    simp only [insertEntry]
    split
    · by_cases h : k = k2 <;> simp [List.find?_cons, h]
    · split
      · rename_i h2
        subst h2
        by_cases h : k = k2 <;> simp [h]
      · rename_i h2
        by_cases h3 : k' = k2
        · subst h3; simp [h2]
        · simp [h3, ih]

@[simp] theorem get?_insert (m : ItemMap α) (k k2 : String) (v : α) :
    (m.insert k v).get? k2 = if k = k2 then some v else m.get? k2 :=
  find?_insertEntry k k2 v m.entries

@[simp] theorem get?_erase (m : ItemMap α) (k k2 : String) :
    (m.erase k).get? k2 = if k = k2 then none else m.get? k2 := by
  unfold erase get?
  by_cases h : k = k2
  · subst h; simp [List.find?_filter]
  · simp only [h, if_false, List.find?_filter]
    congr 2
    funext e
    by_cases he : e.1 = k2
    · simp [he, Ne.symm h]
    · simp [he]

end ItemMap
end TwoPhaseLocking
