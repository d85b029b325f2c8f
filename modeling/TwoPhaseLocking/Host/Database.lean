import TwoPhaseLocking.Host.Files
import TwoPhaseLocking.Host.Connection
import TwoPhaseLocking.Error

/-!
The item database: one table of items and their values, in a file or in memory. Opening a path
reads the connection string `sqlite:<path>?mode=rwc` and finds the file the way the database
engine does; after `close` every call fails until the database is opened again.
-/
namespace TwoPhaseLocking

/-- Where an open database keeps its items. -/
inductive Backing where
  | file (location : Path)
  | memory (items : ItemMap Int)
  deriving Repr, Inhabited

structure Database where
  /-- The path as it was given. -/
  path : String
  backing : Backing
  closed : Bool := false
  deriving Repr, Inhabited

namespace Database

/-- The database's refusal, with its code. -/
def refusal (code : Nat) (text : String) : Error :=
  .database s!"error returned from database: (code: {code}) {text}"

def cantOpen : Error := refusal 14 "unable to open database file"

def closedError : Error := .database "attempted to acquire a connection on a closed pool"

/-- The file-system modules the engine knows by name. -/
def knownVfs : List String := ["unix", "unix-dotfile", "unix-excl", "unix-none"]

/-- The place the engine opens for a file name, if it can look at every place on the way. -/
def place (fs : Files) (name : String) : Option Path :=
  let start := if name.startsWith "/" then [] else fs.cwd
  (name.splitOn "/").foldlM (fun (p : Path) c =>
    if c = "" ∨ c = "." then some p
    else if c = ".." then some p.dropLast
    else
      let q := p ++ [c]
      -- a place under a file cannot be looked at
      if (List.range q.length).any (fun i => i > 0 && fs.isFile (q.take i)) then none
      else some q) start

/-- Makes the directory of a path when it is missing. -/
def makeDirectory (fs : Files) (path : String) : Except Error Files :=
  match Path.parentOf path with
  | some parent =>
    if parent ≠ "" && !fs.present parent then
      match fs.createDirAll parent with
      | .ok fs' => .ok fs'
      | .error e => .error (.other ("Failed to create database directory " ++ parent ++ ": " ++ e.text))
    else .ok fs
  | none => .ok fs

/-- Opens the database file at a place, making it when there is none. -/
def openAt (fs : Files) (path : String) (loc : Path) : Except Error (Database × Files) :=
  let opened (fs : Files) : Database × Files := (⟨path, .file loc, false⟩, fs)
  if !fs.isDir loc.dropLast then .error cantOpen
  else match fs.entry? loc with
    | some .dir => .error cantOpen
    | some (.file (.database _)) => .ok (opened fs)
    | some (.file (.bytes b)) =>
      if b.length ≤ 1 then .ok (opened (fs.put loc (.database .empty)))
      else .error (refusal 26 "file is not a database")
    | none => .ok (opened (fs.put loc (.database .empty)))

/-- Opens the database at `path`, making its directory and its file as needed. -/
def openFile (fs : Files) (path : String) : Except Error (Database × Files) := do
  let memory := path = ":memory:"
  let fs ← if memory then pure fs else makeDirectory fs path
  let url := if memory then "sqlite::memory:" else "sqlite:" ++ path ++ "?mode=rwc"
  let spec ← match Connection.parse url with
    | .ok s => pure s
    | .error m => throw (Error.database m)
  match spec.vfs with
  | some v => if !knownVfs.contains v then throw (refusal 1 ("no such vfs: " ++ v))
  | none => pure ()
  let inMemory : Database × Files := (⟨path, .memory .empty, false⟩, fs)
  match spec.source with
  | .memory => pure inMemory
  | .file name =>
    -- the engine keeps an unnamed database, and one named `:memory:`, in memory
    if name = "" ∨ name = ":memory:" then pure inMemory
    else match place fs name with
      | none => throw cantOpen
      | some loc => openAt fs path loc

def contents (db : Database) (fs : Files) : Except Error (ItemMap Int) :=
  if db.closed then .error closedError
  else match db.backing with
    | .memory m => .ok m
    | .file loc => match fs.file? loc with
      | some (.database m) => .ok m
      | _ => .ok .empty

/-- The value of an item, 0 for one never written. -/
def read (db : Database) (fs : Files) (item : String) : Except Error Int :=
  (db.contents fs).map fun m => (m.get? item).getD 0

def write (db : Database) (fs : Files) (item : String) (v : Int) : Except Error (Database × Files) :=
  (db.contents fs).map fun m =>
    match db.backing with
    | .memory _ => ({ db with backing := .memory (m.insert item v) }, fs)
    | .file loc => (db, fs.put loc (.database (m.insert item v)))

def items (db : Database) (fs : Files) : Except Error (List (String × Int)) :=
  (db.contents fs).map (·.entries)

def health (db : Database) (fs : Files) : Except Error Unit := (db.contents fs).map fun _ => ()

def close (db : Database) : Database := { db with closed := true }

theorem read_closed (db : Database) (fs : Files) (item : String) :
    (db.close).read fs item = .error closedError := rfl

end Database
end TwoPhaseLocking
