import TwoPhaseLocking.Config.Write
import TwoPhaseLocking.Host.Files

/-!
The configuration file, in the directory the environment names or under the platform's
configuration directory. A missing file means the defaults; saving validates, makes the file's
directory and writes the TOML text.
-/
namespace TwoPhaseLocking
namespace Config

/-- The name of the environment variable that names the configuration directory. -/
def dirVariable : String := "C2PL_CONFIG_DIR"

/-- The configuration directory: the one the environment names, or `c2pl` under the
platform's directory. -/
def dir (env : Option String) (platform : String) : String :=
  match env with
  | some d => d
  | none => platform ++ "/c2pl"

def pathIn (d : String) : String :=
  if d = "" ∨ d.endsWith "/" then d ++ "config.toml" else d ++ "/config.toml"

/-- Loads the configuration at `path`: the defaults when nothing is there. -/
def loadFrom (fs : Files) (path : String) : Except Failure Config :=
  if !fs.present path then .ok {}
  else match fs.readText path with
    | .error e => .error ⟨"Failed to read config file: " ++ path, [e.text]⟩
    | .ok text => load (some text) path

/-- Saves a valid configuration at `path`, making its directory as needed. -/
def saveTo (c : Config) (fs : Files) (path : String) : Except Failure Files := do
  match c.validate with
  | .error m => throw ⟨m, []⟩
  | .ok () => pure ()
  let fs ← match Path.parentOf path with
    | some parent => match fs.createDirAll parent with
      | .ok fs' => pure fs'
      | .error e => throw ⟨"Failed to create config directory: " ++ parent, [e.text]⟩
    | none => pure fs
  let text ← match c.serialize with
    | .ok text => pure text
    | .error e => throw ⟨"Failed to serialize config", [e]⟩
  match fs.write path (.bytes text.toUTF8.toList) with
  | .ok fs' => pure fs'
  | .error e => throw ⟨"Failed to write config file: " ++ path, [e.text]⟩

theorem loadFrom_missing (fs : Files) (path : String) (h : fs.present path = false) :
    loadFrom fs path = .ok {} := by
  simp [loadFrom, h]

end Config
end TwoPhaseLocking
