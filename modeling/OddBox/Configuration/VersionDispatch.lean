import OddBox.Configuration.RoundTrip
import OddBox.Configuration.Schemas

/-!
Which version `AnyOddBoxConfig::parse` reads a document as. It takes the first schema
that the document fits, and the older schemas admit the marks of all versions.
-/

namespace OddBox.Configuration

open Toml (Table Value IsChoice Requires)

def AnyOddBoxConfig.version : AnyOddBoxConfig → OddBoxConfigVersion
  | .legacy _ => .unmarked
  | .v1 _ => .v1
  | .v2 _ => .v2
  | .v3 _ => .v3

/-- The version of the first schema that the document fits. -/
def ReadAs (table : Table) : OddBoxConfigVersion → Prop
  | .v3 => OddBoxV3Config.Schema table
  | .v2 => ¬OddBoxV3Config.Schema table ∧ V2.OddBoxV2Config.Schema table
  | .v1 => ¬OddBoxV3Config.Schema table ∧ ¬V2.OddBoxV2Config.Schema table ∧
      V1.OddBoxV1Config.Schema table
  | .unmarked => ¬OddBoxV3Config.Schema table ∧ ¬V2.OddBoxV2Config.Schema table ∧
      ¬V1.OddBoxV1Config.Schema table ∧ Legacy.OddBoxLegacyConfig.Schema table

/-- The schema of its mark is the first one that the document fits, or it fits none. -/
def Dispatched (table : Table) : OddBoxConfigVersion → Prop
  | .v3 => OddBoxV3Config.Schema table ∨ ¬V2.OddBoxV2Config.Schema table ∧
      ¬V1.OddBoxV1Config.Schema table ∧ ¬Legacy.OddBoxLegacyConfig.Schema table
  | .v2 => V2.OddBoxV2Config.Schema table ∨
      ¬V1.OddBoxV1Config.Schema table ∧ ¬Legacy.OddBoxLegacyConfig.Schema table
  | .v1 => ¬V2.OddBoxV2Config.Schema table ∧
      (V1.OddBoxV1Config.Schema table ∨ ¬Legacy.OddBoxLegacyConfig.Schema table)
  | .unmarked => ¬V2.OddBoxV2Config.Schema table ∧ ¬V1.OddBoxV1Config.Schema table

theorem fromStr_of_parse {α : Type} {toml : TomlCrate} {content : String} {table : Table}
    (h : toml.parse content = some table) (version : OddBoxConfigVersion)
    (deserialize : Table → Option α) :
    toml.fromStr version deserialize content =
      match deserialize table with
      | some config => .ok config
      | none => .error (toml.error version content) := by
  rw [TomlCrate.fromStr, h]
  rfl

theorem readAs_iff (newId : Nat → ProcId) {toml : TomlCrate} {content : String} {table : Table}
    (h : toml.parse content = some table) (version : OddBoxConfigVersion) :
    (∃ config, AnyOddBoxConfig.parse newId toml content = .ok config ∧
      config.version = version) ↔ ReadAs table version := by
  unfold AnyOddBoxConfig.parse
  simp only [fromStr_of_parse h]
  rcases hv3 : OddBoxV3Config.deserialize newId table with _ | config
  · have hnot3 := mt (v3_admits newId table).mpr (by rw [hv3]; exact Bool.false_ne_true)
    rcases hv2 : V2.OddBoxV2Config.deserialize newId table with _ | config
    · have hnot2 := mt (v2_admits newId table).mpr (by rw [hv2]; exact Bool.false_ne_true)
      rcases hv1 : V1.OddBoxV1Config.deserialize table with _ | config
      · have hnot1 := mt (v1_admits table).mpr (by rw [hv1]; exact Bool.false_ne_true)
        rcases hlegacy : Legacy.OddBoxLegacyConfig.deserialize table with _ | config
        · have hnone := mt (legacy_admits table).mpr (by rw [hlegacy]; exact Bool.false_ne_true)
          refine iff_of_false ?_ ?_
          · rintro ⟨config, hparse, -⟩
            dsimp only at hparse
            split_ifs at hparse
          · cases version <;> simp [ReadAs, hnot3, hnot2, hnot1, hnone]
        · have hyes := (legacy_admits table).mp (by rw [hlegacy]; rfl)
          cases version <;> simp [ReadAs, AnyOddBoxConfig.version, hnot3, hnot2, hnot1, hyes]
      · have hyes := (v1_admits table).mp (by rw [hv1]; rfl)
        cases version <;> simp [ReadAs, AnyOddBoxConfig.version, hnot3, hnot2, hyes]
    · have hyes := (v2_admits newId table).mp (by rw [hv2]; rfl)
      cases version <;> simp [ReadAs, AnyOddBoxConfig.version, hnot3, hyes]
  · have hyes := (v3_admits newId table).mp (by rw [hv3]; rfl)
    cases version <;> simp [ReadAs, AnyOddBoxConfig.version, hyes]

theorem v3_schema_version {table : Table} {version : OddBoxConfigVersion}
    (hversion : table.lookup "version" = some (.string version.fmt))
    (h : OddBoxV3Config.Schema table) : version = .v3 := by
  obtain ⟨value, hlookup, hform⟩ := h.1
  obtain rfl := Option.some.inj (hversion.symm.trans hlookup)
  change version.fmt = "V3" at hform
  cases version with
  | v3 => rfl
  | unmarked => exact absurd hform (by decide)
  | v1 => exact absurd hform (by decide)
  | v2 => exact absurd hform (by decide)

/-- A marked document is read as the version of its mark, or not at all, exactly when
no other schema is the first one it fits. -/
theorem parse_version_iff (newId : Nat → ProcId) {toml : TomlCrate} {content : String}
    {table : Table} {version : OddBoxConfigVersion} (h : toml.parse content = some table)
    (hversion : table.lookup "version" = some (.string version.fmt)) :
    (∀ config, AnyOddBoxConfig.parse newId toml content = .ok config →
      config.version = version) ↔ Dispatched table version := by
  have hread : (∀ config, AnyOddBoxConfig.parse newId toml content = .ok config →
      config.version = version) ↔ ∀ other, ReadAs table other → other = version := by
    constructor
    · intro hall other hother
      obtain ⟨config, hparse, rfl⟩ := (readAs_iff newId h other).mpr hother
      exact hall config hparse
    · intro hall config hparse
      exact hall _ ((readAs_iff newId h _).mp ⟨config, hparse, rfl⟩)
  have hv3 := v3_schema_version hversion
  rw [hread]
  constructor
  · intro hall
    have hlegacy := hall .unmarked
    have hv1 := hall .v1
    have hv2 := hall .v2
    cases version <;> simp [ReadAs] at hv3 hlegacy hv1 hv2 <;> simp [Dispatched] <;> tauto
  · intro hdispatched other hother
    cases version <;> simp [Dispatched] at hv3 hdispatched <;> cases other <;>
      simp [ReadAs] at hother ⊢ <;> tauto

/-- A version 3 document with nothing but its mark is read as version 3. -/
theorem markOnly_version : ¬∃ config,
    AnyOddBoxConfig.parse (fun _ => ⟨"id"⟩) readerCrate "version = \"V3\"\n" = .ok config ∧
      config.version ≠ .v3 := by
  rintro ⟨config, hparse, hversion⟩
  have hall := (@parse_version_iff (fun _ => ⟨"id"⟩) readerCrate "version = \"V3\"\n"
    [("version", .string "V3")] .v3 rfl rfl).mpr
    (.inl ((v3_admits (fun _ => ⟨"id"⟩) _).mp rfl))
  exact hversion (hall config hparse)

/-- The value of `use_loopback_ip_for_procs`, a key that version 2 does not know, is
no truth value. -/
def invalidV3 : String :=
  "version = \"V3\"\nodd_box_password = \"secret\"\nuse_loopback_ip_for_procs = \"yes\"\n"

set_option maxRecDepth 8000 in
theorem invalidV3_parse : readerCrate.parse invalidV3 =
    some [("version", .string "V3"), ("odd_box_password", .string "secret"),
      ("use_loopback_ip_for_procs", .string "yes")] := rfl

theorem invalidV3_read_as_v2 :
    (∃ table, readerCrate.parse invalidV3 = some table ∧
      table.lookup "version" = some (.string "V3")) ∧
    ¬∀ config, AnyOddBoxConfig.parse (fun _ => ⟨"id"⟩) readerCrate invalidV3 = .ok config →
      config.version = .v3 := by
  refine ⟨⟨_, invalidV3_parse, rfl⟩, ?_⟩
  intro hall
  have hparse : ∃ config, AnyOddBoxConfig.parse (fun _ => ⟨"id"⟩) readerCrate invalidV3 =
      .ok config ∧ config.version = .v2 := by
    unfold AnyOddBoxConfig.parse
    simp only [fromStr_of_parse invalidV3_parse]
    exact ⟨_, rfl, rfl⟩
  obtain ⟨config, hconfig, hversion⟩ := hparse
  rw [hall config hconfig] at hversion
  exact absurd hversion (by decide)

end OddBox.Configuration
