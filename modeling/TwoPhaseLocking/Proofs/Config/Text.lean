import TwoPhaseLocking.Proofs.Toml.Document
import TwoPhaseLocking.Config.Write

/-!
A configuration written as TOML reads back as itself (`ofToml_toToml`), as long as the port is a
16-bit number and the 64-bit settings fit a TOML integer; `serialize_eq_ok_iff` says the writer
gives a text exactly then.
-/
namespace TwoPhaseLocking
open Toml

/-- The coordinator's section, as the writer lays it out. -/
def CoordinatorConfig.tomlSection (cc : CoordinatorConfig) : SectionText :=
  ("coordinator", [("host", (quote cc.host).toList, .string cc.host),
    ("port", Nat.toDigits 10 cc.port, .integer cc.port),
    ("deadlock_check_interval_ms", Nat.toDigits 10 cc.checkIntervalMs, .integer cc.checkIntervalMs),
    ("rpc_timeout_ms", Nat.toDigits 10 cc.rpcTimeoutMs, .integer cc.rpcTimeoutMs)])

@[simp] theorem CoordinatorConfig.tomlSection_name (cc : CoordinatorConfig) :
    cc.tomlSection.1 = "coordinator" := rfl

def SiteConfig.tomlSection (sc : SiteConfig) : SectionText :=
  ("site", [("database_path", (quote sc.databasePath).toList, .string sc.databasePath),
    ("listen_host", (quote sc.listenHost).toList, .string sc.listenHost),
    ("operation_delay_ms", Nat.toDigits 10 sc.operationDelayMs, .integer sc.operationDelayMs),
    ("blocked_log_interval_ms", Nat.toDigits 10 sc.blockedLogIntervalMs,
      .integer sc.blockedLogIntervalMs)])

@[simp] theorem SiteConfig.tomlSection_name (sc : SiteConfig) : sc.tomlSection.1 = "site" := rfl

def LoggingConfig.tomlSection (lc : LoggingConfig) : SectionText :=
  ("logging", [("verbose", (if lc.verbose then "true" else "false").toList, .boolean lc.verbose)])

@[simp] theorem LoggingConfig.tomlSection_name (lc : LoggingConfig) :
    lc.tomlSection.1 = "logging" := rfl

theorem le_u64Max_of_le_int64Max {n : Nat} (h : (n : Int) ≤ int64Max) : (n : Int) ≤ u64Max := by
  unfold int64Max at h
  unfold u64Max
  omega

/-- The coordinator's section has bare names written once and values that read back. -/
theorem CoordinatorConfig.tomlSection_ok {cc : CoordinatorConfig} (hport : (cc.port : Int) ≤ int64Max)
    (hci : (cc.checkIntervalMs : Int) ≤ int64Max) (hrt : (cc.rpcTimeoutMs : Int) ≤ int64Max) :
    SectionOk cc.tomlSection := by
  refine sectionOk_of_keys (by simp [isKeyChar, isDigit])
    (by simp only [List.map_cons, List.map_nil]; decide) ?_
  simp only [List.forall_mem_cons, List.not_mem_nil, IsEmpty.forall_iff,
    implies_true, and_true]
  exact ⟨valueText_quote _, valueText_nat hport, valueText_nat hci, valueText_nat hrt⟩

/-- A table holding the coordinator's section reads as the coordinator's settings: every field
is set, so none keeps its default. -/
theorem CoordinatorConfig.readStruct_tomlSection {cc : CoordinatorConfig} {sub : Entries}
    {sp : Option (Nat × Nat)} (hport : cc.port ≤ u16Max) (hci : (cc.checkIntervalMs : Int) ≤ int64Max)
    (hrt : (cc.rpcTimeoutMs : Int) ≤ int64Max) (h : Scalars sub (sectionEntries cc.tomlSection).2) :
    (Node.table sub false false sp).readStruct "CoordinatorConfig" fields {} = .ok cc := by
  simp only [sectionEntries, tomlSection, List.map_cons, List.map_nil] at h
  obtain ⟨a₁, z₁, es₁, rfl, h₁⟩ := scalars_cons_iff.mp h
  obtain ⟨a₂, z₂, es₂, rfl, h₂⟩ := scalars_cons_iff.mp h₁
  obtain ⟨a₃, z₃, es₃, rfl, h₃⟩ := scalars_cons_iff.mp h₂
  obtain ⟨a₄, z₄, es₄, rfl, h₄⟩ := scalars_cons_iff.mp h₃
  obtain rfl := scalars_nil_iff.mp h₄
  have hp : (cc.port : Int) ≤ u16Max := by exact_mod_cast hport
  simp [Node.readStruct, fields, Node.asString, Node.asNat, hp, le_u64Max_of_le_int64Max hci,
    le_u64Max_of_le_int64Max hrt, bind, Except.bind, pure, Except.pure]

theorem SiteConfig.tomlSection_ok {sc : SiteConfig}
    (hod : (sc.operationDelayMs : Int) ≤ int64Max) (hbl : (sc.blockedLogIntervalMs : Int) ≤ int64Max) :
    SectionOk sc.tomlSection := by
  refine sectionOk_of_keys (by simp [isKeyChar, isDigit])
    (by simp only [List.map_cons, List.map_nil]; decide) ?_
  simp only [List.forall_mem_cons, List.not_mem_nil, IsEmpty.forall_iff, implies_true, and_true]
  exact ⟨valueText_quote _, valueText_quote _, valueText_nat hod, valueText_nat hbl⟩

theorem LoggingConfig.tomlSection_ok (lc : LoggingConfig) : SectionOk lc.tomlSection := by
  refine sectionOk_of_keys (by simp [isKeyChar, isDigit])
    (by simp only [List.map_cons, List.map_nil]; decide) ?_
  simp only [List.forall_mem_cons, List.not_mem_nil, IsEmpty.forall_iff, implies_true, and_true]
  exact valueText_bool _

/-- A table holding a site's section reads as the site's settings. -/
theorem SiteConfig.readStruct_tomlSection {sc : SiteConfig} {sub : Entries}
    {sp : Option (Nat × Nat)} (hod : (sc.operationDelayMs : Int) ≤ int64Max)
    (hbl : (sc.blockedLogIntervalMs : Int) ≤ int64Max) (h : Scalars sub (sectionEntries sc.tomlSection).2) :
    (Node.table sub false false sp).readStruct "SiteConfig" fields {} = .ok sc := by
  simp only [sectionEntries, tomlSection, List.map_cons, List.map_nil] at h
  obtain ⟨a₁, z₁, es₁, rfl, h₁⟩ := scalars_cons_iff.mp h
  obtain ⟨a₂, z₂, es₂, rfl, h₂⟩ := scalars_cons_iff.mp h₁
  obtain ⟨a₃, z₃, es₃, rfl, h₃⟩ := scalars_cons_iff.mp h₂
  obtain ⟨a₄, z₄, es₄, rfl, h₄⟩ := scalars_cons_iff.mp h₃
  obtain rfl := scalars_nil_iff.mp h₄
  simp [Node.readStruct, fields, Node.asString, Node.asNat, le_u64Max_of_le_int64Max hod,
    le_u64Max_of_le_int64Max hbl, bind, Except.bind, pure, Except.pure]

theorem LoggingConfig.readStruct_tomlSection {lc : LoggingConfig} {sub : Entries}
    {sp : Option (Nat × Nat)} (h : Scalars sub (sectionEntries lc.tomlSection).2) :
    (Node.table sub false false sp).readStruct "LoggingConfig" fields {} = .ok lc := by
  simp only [sectionEntries, tomlSection, List.map_cons, List.map_nil] at h
  obtain ⟨a₁, z₁, es₁, rfl, h₁⟩ := scalars_cons_iff.mp h
  obtain rfl := scalars_nil_iff.mp h₁
  simp [Node.readStruct, fields, Node.asBool, bind, Except.bind, pure, Except.pure]

namespace Config

theorem toString_toList (n : Nat) : (toString n).toList = Nat.toDigits 10 n := by
  simp [toString, Nat.repr]

set_option maxRecDepth 2048 in
/-- The text of a configuration is its three sections, a blank line before each after the
first. -/
theorem toToml_toList (c : Config) : c.toToml.toList = sectionText c.coordinator.tomlSection ++
    moreText [c.site.tomlSection, c.logging.tomlSection] := by
  have hstr : ∀ s : String, toString s = s := fun _ => rfl
  delta toToml
  simp only [String.toList_append, toString_toList, hstr, sectionText, moreText, keyvalsText,
    CoordinatorConfig.tomlSection, SiteConfig.tomlSection, LoggingConfig.tomlSection,
    List.flatMap_cons, List.flatMap_nil, List.append_assoc, List.cons_append, List.nil_append,
    List.append_nil, String.reduceToList]

theorem fitsToml_iff {c : Config} : c.fitsToml = true ↔
    (c.coordinator.checkIntervalMs : Int) ≤ int64Max ∧ (c.coordinator.rpcTimeoutMs : Int) ≤ int64Max ∧
      (c.site.operationDelayMs : Int) ≤ int64Max ∧ (c.site.blockedLogIntervalMs : Int) ≤ int64Max := by
  simp [fitsToml]

/-- The writer's integer range: a configuration has a TOML text exactly when each of its 64-bit
settings is at most the greatest TOML integer. -/
theorem serialize_eq_ok_iff {c : Config} {text : String} : c.serialize = .ok text ↔
    text = c.toToml ∧ (c.coordinator.checkIntervalMs : Int) ≤ int64Max ∧
      (c.coordinator.rpcTimeoutMs : Int) ≤ int64Max ∧ (c.site.operationDelayMs : Int) ≤ int64Max ∧
      (c.site.blockedLogIntervalMs : Int) ≤ int64Max := by
  rw [← fitsToml_iff, serialize]
  cases c.fitsToml <;> simp [eq_comm]

/-- The text of a configuration reads as its three sections' tables. -/
theorem read_toToml {c : Config} (hport : c.coordinator.port ≤ u16Max) (hfits : c.fitsToml = true) :
    ∃ root, Toml.read c.toToml = .ok root ∧ Sections root [sectionEntries c.coordinator.tomlSection,
      sectionEntries c.site.tomlSection, sectionEntries c.logging.tomlSection] := by
  obtain ⟨hci, hrt, hod, hbl⟩ := fitsToml_iff.mp hfits
  have hport' : (c.coordinator.port : Int) ≤ int64Max := by
    unfold u16Max at hport; unfold int64Max; omega
  have hok : ∀ x ∈ [c.coordinator.tomlSection, c.site.tomlSection, c.logging.tomlSection],
      SectionOk x := by
    simp only [List.forall_mem_cons, List.not_mem_nil, IsEmpty.forall_iff, implies_true, and_true]
    exact ⟨CoordinatorConfig.tomlSection_ok hport' hci hrt, SiteConfig.tomlSection_ok hod hbl,
      LoggingConfig.tomlSection_ok _⟩
  exact read_sections (toToml_toList c) hok (by
    simp only [List.map_cons, List.map_nil, CoordinatorConfig.tomlSection_name,
      SiteConfig.tomlSection_name, LoggingConfig.tomlSection_name]
    decide)

/-- A configuration written as TOML reads back as itself, when its port is a 16-bit number and
its 64-bit settings fit the format. -/
theorem ofToml_toToml {c : Config} (hport : c.coordinator.port ≤ u16Max) (hfits : c.fitsToml = true) :
    ofToml c.toToml = .ok c := by
  obtain ⟨hci, hrt, hod, hbl⟩ := fitsToml_iff.mp hfits
  obtain ⟨root, hread, hsec⟩ := read_toToml hport hfits
  obtain ⟨sub₁, sp₁, es₁, rfl, h₁, hs₁⟩ := sections_cons_iff.mp hsec
  obtain ⟨sub₂, sp₂, es₂, rfl, h₂, hs₂⟩ := sections_cons_iff.mp hs₁
  obtain ⟨sub₃, sp₃, es₃, rfl, h₃, hs₃⟩ := sections_cons_iff.mp hs₂
  obtain rfl : es₃ = [] := List.forall₂_nil_right_iff.mp hs₃
  simp only [ofToml, hread, bind, Except.bind]
  rw [Node.readStruct]
  simp [fields, CoordinatorConfig.readStruct_tomlSection hport hci hrt h₁,
    SiteConfig.readStruct_tomlSection hod hbl h₂, LoggingConfig.readStruct_tomlSection h₃]
  rfl

end Config
end TwoPhaseLocking
