import TwoPhaseLocking.ItemMap

/-!
A directory tree as the program sees it through the operating system. A written path is
followed component by component from the top or from the working directory; each failure
carries the system's text (`Not a directory`, `No such file or directory`, `File exists`,
`Is a directory`).
-/
namespace TwoPhaseLocking

/-- A failure of a call to the system, by kind. -/
inductive OsError where
  | notFound
  | alreadyExists
  | notADirectory
  | isADirectory
  /-- A text file whose bytes are not UTF-8. -/
  | invalidUtf8
  deriving DecidableEq, Repr, Inhabited

namespace OsError

def text : OsError → String
  | notFound => "No such file or directory (os error 2)"
  | alreadyExists => "File exists (os error 17)"
  | notADirectory => "Not a directory (os error 20)"
  | isADirectory => "Is a directory (os error 21)"
  | invalidUtf8 => "stream did not contain valid UTF-8"

end OsError

/-- A place in the tree: the names of the directories from the top, then its own. -/
abbrev Path := List String

namespace Path

/-- The pieces of a written path between its slashes, empty ones included. -/
def pieces (s : String) : List String := (s.toList.splitOn '/').map String.ofList

/-- The components of a plain path written with slashes; empty and `.` components name
nothing. -/
def parse (s : String) : Path := (pieces s).filter fun c => c ≠ "" ∧ c ≠ "."

def render (p : Path) : String := "/".intercalate p

/-- The parent of a written path, as text: the components before the last one, with the top's
slash or a leading `.` kept. Empty components and inner `.` components do not count as
components. A path with no component, the empty one or the top, has no parent. -/
def parentOf (s : String) : Option String :=
  let absolute := s.startsWith "/"
  -- the pieces between slashes, with the number of characters up to the end of each
  let pieces := (Path.pieces s).foldl (fun (acc : List (String × Nat) × Nat) piece =>
      let stop := acc.2 + piece.length
      (acc.1 ++ [(piece, stop)], stop + 1)) ([], 0) |>.1
  let counted := pieces.zipIdx.filter fun ((piece, _), i) =>
    piece ≠ "" ∧ (piece ≠ "." ∨ (i = 0 ∧ !absolute))
  match counted.reverse with
  | [] => none
  | _ :: earlier =>
    match earlier with
    | ((_, stop), _) :: _ => some (String.ofList (s.toList.take stop))
    | [] => some (if absolute then "/" else "")

end Path

inductive Content where
  | bytes (b : List UInt8)
  /-- A database, by the items stored in it. -/
  | database (items : ItemMap Int)
  deriving Repr, Inhabited

inductive Entry where
  | file (c : Content)
  | dir
  deriving Repr, Inhabited

/-- A directory tree, and the directory that relative paths start from. -/
structure Files where
  files : List (Path × Content) := []
  /-- Directories made empty; a directory also exists when something is inside it. -/
  dirs : List Path := []
  /-- The working directory. -/
  cwd : Path := []
  deriving Repr, Inhabited

/-- What a written path leads to: the place, what is there, and whether the path asks for a
directory (it ends in a slash, `.` or `..`). -/
structure Target where
  place : Path
  entry : Option Entry
  wantsDir : Bool
  /-- The last component is `.` or `..`: the place is a directory reached, not a name to make. -/
  dots : Bool
  deriving Repr, Inhabited

namespace Files

/-- The place a plain written path names, without looking at the tree. -/
def locate (fs : Files) (s : String) : Path :=
  if s.startsWith "/" then Path.parse s else fs.cwd ++ Path.parse s

def file? (fs : Files) (p : Path) : Option Content := (fs.files.find? (·.1 == p)).map (·.2)

/-- Whether a place is a directory: the top, a directory made, or one that holds something. -/
def isDir (fs : Files) (p : Path) : Bool :=
  p.isEmpty || fs.dirs.contains p ||
    fs.files.any (fun e => p.isPrefixOf e.1 && p != e.1) ||
    fs.dirs.any (fun d => p.isPrefixOf d && p != d)

def isFile (fs : Files) (p : Path) : Bool := (fs.file? p).isSome

def entry? (fs : Files) (p : Path) : Option Entry :=
  match fs.file? p with
  | some c => some (.file c)
  | none => if fs.isDir p then some .dir else none

/-- Follows components from the directory `here`, each of which must lead to a directory. -/
def walk (fs : Files) (here : Path) : List String → Except OsError Path
  | [] => .ok here
  | c :: rest =>
    if c = "." then fs.walk here rest
    else if c = ".." then fs.walk here.dropLast rest
    else
      let p := here ++ [c]
      if fs.isFile p then .error .notADirectory
      else if fs.isDir p then fs.walk p rest
      else .error .notFound

/-- Follows a written path up to its last component. -/
def target (fs : Files) (s : String) : Except OsError Target :=
  let absolute := s.startsWith "/"
  let parts := (Path.pieces s).filter (· ≠ "")
  let start := if absolute then [] else fs.cwd
  match parts.reverse with
  | [] => if absolute then .ok ⟨[], some .dir, true, true⟩ else .error .notFound
  | last :: earlierRev => do
    let dir ← fs.walk start earlierRev.reverse
    if last = "." then pure ⟨dir, some .dir, true, true⟩
    else if last = ".." then pure ⟨dir.dropLast, some .dir, true, true⟩
    else
      let p := dir ++ [last]
      pure ⟨p, fs.entry? p, s.endsWith "/", false⟩

def stat (fs : Files) (s : String) : Except OsError (Path × Entry) := do
  let t ← fs.target s
  match t.entry with
  | none => throw .notFound
  | some (.file c) => if t.wantsDir then throw .notADirectory else pure (t.place, .file c)
  | some .dir => pure (t.place, .dir)

def present (fs : Files) (s : String) : Bool := (fs.stat s).toBool

def isDirAt (fs : Files) (s : String) : Bool :=
  match fs.stat s with
  | .ok (_, .dir) => true
  | _ => false

/-- Sets the content of the file at a place, making or replacing it. -/
def put (fs : Files) (p : Path) (c : Content) : Files :=
  if fs.isFile p then { fs with files := fs.files.map fun e => if e.1 == p then (p, c) else e }
  else { fs with files := fs.files ++ [(p, c)] }

def mkdir (fs : Files) (s : String) : Except OsError Files := do
  let t ← fs.target s
  if t.dots || t.entry.isSome then throw .alreadyExists
  pure { fs with dirs := fs.dirs ++ [t.place] }

/-- Makes the directory a written path names, and its missing parents first; a directory that
is already there is fine. The fuel bounds the parents, each of which is shorter than `s`. -/
def createDirAllFuel : Nat → Files → String → Except OsError Files
  | 0, fs, _ => .ok fs
  | fuel + 1, fs, s =>
    if s = "" then .ok fs else
    match fs.mkdir s with
    | .ok fs' => .ok fs'
    | .error .notFound =>
      match Path.parentOf s with
      | none => .error .notFound
      | some p => do
        let fs' ← createDirAllFuel fuel fs p
        match fs'.mkdir s with
        | .ok fs'' => .ok fs''
        | .error e => if fs'.isDirAt s then .ok fs' else .error e
    | .error e => if fs.isDirAt s then .ok fs else .error e

def createDirAll (fs : Files) (s : String) : Except OsError Files :=
  createDirAllFuel (s.length + 1) fs s

/-- Writes the file a written path names, making or replacing it. -/
def write (fs : Files) (s : String) (c : Content) : Except OsError Files := do
  let t ← fs.target s
  if t.dots || t.wantsDir then throw .isADirectory
  match t.entry with
  | some .dir => throw .isADirectory
  | _ => pure (fs.put t.place c)

def readText (fs : Files) (s : String) : Except OsError String := do
  match ← fs.stat s with
  | (_, .dir) => throw .isADirectory
  | (_, .file (.bytes b)) => match String.fromUTF8? ⟨b.toArray⟩ with
    | some t => pure t
    | none => throw .invalidUtf8
  | (_, .file (.database _)) => throw .invalidUtf8

/-- A tree holding the given text files, named from the working directory `cwd`, with the
directories they are in. -/
def ofTexts (ts : List (String × String)) (cwd : Path := []) : Files :=
  ts.foldl (fun fs (n, t) => fs.put (fs.locate n) (.bytes t.toUTF8.toList))
    { cwd := cwd, dirs := if cwd.isEmpty then [] else [cwd] }

@[simp] theorem isDir_nil (fs : Files) : fs.isDir [] = true := by simp [isDir]

@[simp] theorem createDirAll_empty (fs : Files) : fs.createDirAll "" = .ok fs := rfl

end Files
end TwoPhaseLocking
