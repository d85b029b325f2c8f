import TwoPhaseLocking.Proofs.Config.Text
import TwoPhaseLocking.Proofs.Host.Files
import TwoPhaseLocking.Config.File

/-!
Saving a configuration and loading it back: what is saved loads as itself (`saveTo_loadFrom`).
The one step a valid configuration can fail is the text: a 64-bit setting above the greatest
TOML integer cannot be saved.
-/
namespace TwoPhaseLocking
open Toml

namespace Files

/-- Makes the directory of the file at `path`, as saving does before it writes. -/
def makeParentDir (fs : Files) (path : String) : Except OsError Files :=
  match Path.parentOf path with
  | some parent => fs.createDirAll parent
  | none => .ok fs

/-- A file can be saved at `path`: its directory can be made, and the file then written. -/
def Writable (fs : Files) (path : String) : Prop :=
  ∃ fs₁, fs.makeParentDir path = .ok fs₁ ∧ ∀ content, ∃ fs₂, fs₁.write path content = .ok fs₂

end Files

namespace Config

variable {c : Config} {fs fs' : Files} {path : String}

/-- Saving goes through exactly when the configuration is valid and has a TOML text, the file's
directory is made and the text is then written. -/
theorem saveTo_eq_ok_iff : c.saveTo fs path = .ok fs' ↔ c.validate = .ok () ∧ c.fitsToml = true ∧
    ∃ fs₁, fs.makeParentDir path = .ok fs₁ ∧
      fs₁.write path (.bytes c.toToml.toUTF8.toList) = .ok fs' := by
  unfold saveTo Files.makeParentDir
  cases hv : c.validate with
  | error m => simp [bind, Except.bind, throw, throwThe, MonadExceptOf.throw]
  | ok u =>
    cases hf : c.fitsToml <;> cases hp : Path.parentOf path <;>
      simp [serialize, hf, bind, Except.bind, pure, Except.pure, throw, throwThe,
        MonadExceptOf.throw]
    -- too large for the format: whether the directory is made or not, saving fails
    · split <;> simp
    -- no directory to make: saving is the write
    · split <;> simp_all
    -- the directory made, then the write
    · cases hd : fs.createDirAll _ with
      | error e => simp
      | ok fs₁ =>
        simp only [Except.ok.injEq, exists_eq_left']
        split <;> simp_all

/-- A file that is there loads exactly when its text reads as a configuration that is valid. -/
theorem loadFrom_eq_ok_iff (hp : fs.present path = true) : loadFrom fs path = .ok c ↔
    ∃ text, fs.readText path = .ok text ∧ ofToml text = .ok c ∧ c.validate = .ok () := by
  unfold loadFrom load
  simp only [hp, Bool.not_true, Bool.false_eq_true, if_false]
  cases hr : fs.readText path with
  | error e => simp
  | ok text =>
    simp only [Except.ok.injEq, exists_eq_left']
    cases ho : ofToml text with
    | error e => simp
    | ok c' =>
      simp only [Except.ok.injEq]
      cases hv : c'.validate with
      | error m =>
        simp only [reduceCtorEq, false_iff, not_and]
        rintro rfl
        simp [hv]
      | ok u =>
        simp only [Except.ok.injEq]
        exact ⟨fun h => ⟨h, h ▸ hv⟩, fun h => h.1⟩

/-- What is saved loads back as the same configuration. -/
theorem loadFrom_saveTo (hport : c.coordinator.port ≤ u16Max) (h : c.saveTo fs path = .ok fs') :
    loadFrom fs' path = .ok c := by
  obtain ⟨hv, hf, fs₁, -, hw⟩ := saveTo_eq_ok_iff.mp h
  exact (loadFrom_eq_ok_iff (Files.present_write hw)).mpr
    ⟨c.toToml, Files.readText_write hw, ofToml_toToml hport hf, hv⟩

/-- Saving succeeds exactly when the configuration is valid, its 64-bit settings fit the format,
and the file system lets the file be saved. -/
theorem saveTo_ok_iff : (∃ fs', c.saveTo fs path = .ok fs') ↔
    c.validate = .ok () ∧ c.fitsToml = true ∧ fs.Writable path := by
  constructor
  · rintro ⟨fs', h⟩
    obtain ⟨hv, hf, fs₁, hd, hw⟩ := saveTo_eq_ok_iff.mp h
    exact ⟨hv, hf, fs₁, hd, fun content => Files.write_content hw content⟩
  · rintro ⟨hv, hf, fs₁, hd, hw⟩
    obtain ⟨fs₂, hw₂⟩ := hw (.bytes c.toToml.toUTF8.toList)
    exact ⟨fs₂, saveTo_eq_ok_iff.mpr ⟨hv, hf, fs₁, hd, hw₂⟩⟩

/-- Saving and loading a configuration. Saving succeeds exactly when the configuration is
valid, its 64-bit settings fit a TOML integer and the file system lets the file's directory be
made and the file be written; what is saved loads back as the same configuration; and a file
that is there loads exactly when its text reads as a configuration, missing keys keeping their
defaults, that is valid. -/
theorem saveTo_loadFrom (c : Config) (fs : Files) (path : String)
    (hport : c.coordinator.port ≤ u16Max) :
    ((∃ fs', c.saveTo fs path = .ok fs') ↔
      c.validate = .ok () ∧ c.fitsToml = true ∧ fs.Writable path) ∧
    (∀ fs', c.saveTo fs path = .ok fs' → loadFrom fs' path = .ok c) ∧
    ∀ (other : Files) (file : String) (c' : Config), other.present file = true →
      (loadFrom other file = .ok c' ↔
        ∃ text, other.readText file = .ok text ∧ ofToml text = .ok c' ∧ c'.validate = .ok ()) :=
  ⟨saveTo_ok_iff, fun _ h => loadFrom_saveTo hport h, fun _ _ _ hp => loadFrom_eq_ok_iff hp⟩

/-- The defaults saved as `config.toml` in an empty tree: saving succeeds, and they load back. -/
theorem defaults_saved_and_loaded :
    ({} : Config).coordinator.port ≤ u16Max ∧
    (((∃ fs', ({} : Config).saveTo {} "config.toml" = .ok fs') ↔
      ({} : Config).validate = .ok () ∧ ({} : Config).fitsToml = true ∧
        ({} : Files).Writable "config.toml") ∧
    (∀ fs', ({} : Config).saveTo {} "config.toml" = .ok fs' → loadFrom fs' "config.toml" = .ok {}) ∧
    ∀ (other : Files) (file : String) (c' : Config), other.present file = true →
      (loadFrom other file = .ok c' ↔
        ∃ text, other.readText file = .ok text ∧ ofToml text = .ok c' ∧ c'.validate = .ok ())) ∧
    ∃ fs', ({} : Config).saveTo {} "config.toml" = .ok fs' ∧ loadFrom fs' "config.toml" = .ok {} := by
  have h := saveTo_loadFrom {} {} "config.toml" (by decide)
  have hv : ({} : Config).validate = .ok () := by
    simp [validate, Text.trimString]
    decide
  -- the file goes in the working directory, which is the top of the empty tree
  have hw : ({} : Files).Writable "config.toml" := by
    have hp : Path.parentOf "config.toml" = some "" := by
      simp [Path.parentOf, Path.pieces]
      decide
    have hpieces : Path.pieces "config.toml" = ["config.toml"] := by decide
    have hend : "config.toml".endsWith "/" = false := by
      rw [String.endsWith, String.Slice.endsWith_string_eq_false_iff]
      simp
      decide
    have ht : ({} : Files).target "config.toml" = .ok ⟨["config.toml"], none, false, false⟩ := by
      simp [Files.target, hpieces, hend, Files.walk, Files.entry?, Files.file?, Files.isDir]
    refine ⟨{}, by simp [Files.makeParentDir, hp], fun content => ?_⟩
    exact ⟨_, Files.write_eq_ok_iff.mpr ⟨_, ht, rfl, rfl, by simp, rfl⟩⟩
  obtain ⟨fs', hs⟩ := h.1.mpr ⟨hv, by decide, hw⟩
  exact ⟨by decide, h, fs', hs, h.2.1 fs' hs⟩

/-- A delay of 2^63 milliseconds passes validation, but no TOML integer holds it: saving such a
configuration fails on every file system, in an empty tree with the format's complaint. -/
theorem saveTo_delay_beyond_int64 :
    ({ site := { operationDelayMs := 9223372036854775808 } } : Config).validate = .ok () ∧
    ({ site := { operationDelayMs := 9223372036854775808 } } : Config).saveTo {} "config.toml" =
      .error ⟨"Failed to serialize config", ["out-of-range value for u64 type"]⟩ ∧
    ∀ fs path fs',
      ({ site := { operationDelayMs := 9223372036854775808 } } : Config).saveTo fs path ≠ .ok fs' := by
  have hv : ({ site := { operationDelayMs := 9223372036854775808 } } : Config).validate = .ok () := by
    simp [validate, Text.trimString]
    decide
  have hf : ({ site := { operationDelayMs := 9223372036854775808 } } : Config).fitsToml = false := by
    decide
  refine ⟨hv, ?_, fun fs path fs' h => ?_⟩
  · have hp : Path.parentOf "config.toml" = some "" := by
      simp [Path.parentOf, Path.pieces]
      decide
    simp [saveTo, hv, hp, serialize, hf, bind, Except.bind, pure, Except.pure, throw, throwThe,
      MonadExceptOf.throw]
  · obtain ⟨-, hfits, -⟩ := saveTo_eq_ok_iff.mp h
    rw [hf] at hfits
    cases hfits

end Config
end TwoPhaseLocking
