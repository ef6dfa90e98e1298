import OddBox.Configuration.ReloadAtomicity
import OddBox.Configuration.RoundTrip

/-!
The active ports of the hosted processes are known to the running program only: no version of
the configuration file has a field for them, and so a configuration that has just been read
knows none.
-/

namespace OddBox.Configuration

open Toml (Table Value optionField)

/-! ## Fields -/

theorem forall_of_bind {α β : Type} {x : Option α} {f : α → Option β} {P : β → Prop}
    (h : ∀ a, x = some a → ∀ b, f a = some b → P b) : ∀ b, x >>= f = some b → P b := by
  intro b hb
  obtain ⟨a, ha, hb⟩ := Option.bind_eq_some_iff.mp hb
  exact h a ha b hb

theorem forall_of_mapM {α β : Type} {f : α → Option β} {P : β → Prop} {xs : List α}
    (h : ∀ x y, f x = some y → P y) : ∀ ys, xs.mapM f = some ys → ∀ y ∈ ys, P y := by
  induction xs with
  | nil =>
    intro ys hys
    cases hys
    simp
  | cons x xs ih =>
    rw [List.mapM_cons]
    refine forall_of_bind fun y hy => forall_of_bind fun rest hrest => ?_
    intro ys hys
    cases hys
    exact List.forall_mem_cons.mpr ⟨h x y hy, ih rest hrest⟩

theorem forall_of_optionField {α : Type} {decode : Value → Option α} {table : Table}
    {key : String} {P : α → Prop} (h : ∀ value a, decode value = some a → P a) :
    ∀ field, optionField decode table key = some field → ∀ a ∈ field, P a := by
  unfold optionField Toml.defaultField
  intro field hfield a ha
  cases hvalue : table.lookup key with
  | none =>
    rw [hvalue] at hfield
    cases hfield
    contradiction
  | some value =>
    rw [hvalue] at hfield
    obtain ⟨b, hb, rfl⟩ := Option.map_eq_some_iff.mp hfield
    cases ha
    exact h value a hb

theorem forall_getD {α : Type} {field : Option (List α)} {P : α → Prop}
    (h : ∀ items ∈ field, ∀ a ∈ items, P a) : ∀ a ∈ field.getD [], P a := by
  cases field with
  | none => simp
  | some items => exact h items rfl

/-! ## Processes -/

theorem deserialize_inactive {procId : ProcId} {value : Value} :
    ∀ site, InProcessSiteConfig.deserialize procId value = some site →
      site.activePort = none := by
  unfold InProcessSiteConfig.deserialize
  repeat' refine forall_of_bind fun _ _ => ?_
  rintro site ⟨⟩
  rfl

theorem processes_inactive {newId : Nat → ProcId} {value : Value} :
    ∀ sites, deserializeProcesses InProcessSiteConfig.deserialize newId value = some sites →
      ∀ site ∈ sites, site.activePort = none := by
  unfold deserializeProcesses
  refine forall_of_bind fun items _ => forall_of_mapM ?_
  intro item
  exact deserialize_inactive

theorem v3_inactive {newId : Nat → ProcId} {table : Table} :
    ∀ config : OddBoxV3Config, OddBoxV3Config.deserialize newId table = some config →
      ∀ site ∈ config.sites, site.activePort = none := by
  unfold OddBoxV3Config.deserialize
  repeat' refine forall_of_bind fun _ _ => ?_
  rintro config ⟨⟩ site hsite
  have hprocesses := forall_of_optionField (fun _ => processes_inactive) _
    ‹optionField (deserializeProcesses InProcessSiteConfig.deserialize newId) table
      "hosted_process" = some _›
  exact forall_getD hprocesses site hsite

theorem tryFrom_inactive {newId : Nat → ProcId} {oldConfig : V2.OddBoxV2Config}
    {config : OddBoxV3Config} (h : OddBoxV3Config.tryFrom newId oldConfig = .ok config) :
    ∀ site ∈ config.sites, site.activePort = none := by
  cases h
  intro site hsite
  obtain ⟨item, -, rfl⟩ := List.mem_map.mp hsite
  rfl

/-- An upgrade knows no active ports either, whatever the version it starts from. -/
theorem upgraded_inactive {newId : OddBoxConfigVersion → Nat → ProcId}
    {configuration : AnyOddBoxConfig} {latest : OddBoxV3Config} {version : OddBoxConfigVersion}
    {upgraded : Bool}
    (hread : ∀ config, configuration = .v3 config → ∀ site ∈ config.sites, site.activePort = none)
    (h : configuration.tryUpgradeToLatestVersion newId = .ok (latest, version, upgraded)) :
    ∀ site ∈ latest.sites, site.activePort = none := by
  cases configuration with
  | legacy config =>
    obtain ⟨v1, -, h⟩ := of_bind_eq_ok h
    obtain ⟨v2, -, h⟩ := of_bind_eq_ok h
    obtain ⟨v3, hv3, h⟩ := of_bind_eq_ok h
    cases h
    exact tryFrom_inactive hv3
  | v1 config =>
    obtain ⟨v2, -, h⟩ := of_bind_eq_ok h
    obtain ⟨v3, hv3, h⟩ := of_bind_eq_ok h
    cases h
    exact tryFrom_inactive hv3
  | v2 config =>
    obtain ⟨v3, hv3, h⟩ := of_bind_eq_ok h
    cases h
    exact tryFrom_inactive hv3
  | v3 config =>
    cases h
    exact hread _ rfl

theorem parse_v3_inactive {newId : Nat → ProcId} {toml : TomlCrate} {content : String}
    {config : OddBoxV3Config} (h : AnyOddBoxConfig.parse newId toml content = .ok (.v3 config)) :
    ∀ site ∈ config.sites, site.activePort = none := by
  rw [parse_v3_iff] at h
  unfold TomlCrate.fromStr at h
  split at h
  · next found hfound =>
    cases h
    exact forall_of_bind (fun table _ => v3_inactive) config hfound
  · contradiction

/-- A configuration that is read knows no active ports. -/
theorem readNewConfiguration_inactive {environment : Environment} {active new : ConfigWrapper}
    (h : readNewConfiguration environment active = .ok new) :
    ∀ site ∈ new.internalConfiguration.sites, site.activePort = none := by
  obtain ⟨_, _, configuration, latest, _, _, path, -, -, hparse, hlatest, -, rfl⟩ :=
    readNewConfiguration_built h
  apply upgraded_inactive _ hlatest
  rintro config rfl
  exact parse_v3_inactive hparse

end OddBox.Configuration
