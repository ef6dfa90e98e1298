import Mathlib
import OddBox.Configuration.Legacy
import OddBox.Configuration.V2

/-!
`AnyOddBoxConfig::parse`, which tries the versions from the newest to the oldest.
-/

namespace OddBox.Configuration

open Toml (Table)

inductive AnyOddBoxConfig where
  | legacy (config : Legacy.OddBoxLegacyConfig)
  | v1 (config : V1.OddBoxV1Config)
  | v2 (config : V2.OddBoxV2Config)
  | v3 (config : OddBoxV3Config)

/-- The `toml` crate: how it reads a text, and what it says of a text that it cannot
make a configuration of the version of. -/
structure TomlCrate where
  parse : String → Option Table
  error : OddBoxConfigVersion → String → String

/-- `toml::from_str` at the type of a version. -/
def TomlCrate.fromStr {α : Type} (toml : TomlCrate) (version : OddBoxConfigVersion)
    (deserialize : Table → Option α) (content : String) : Except String α :=
  match toml.parse content >>= deserialize with
  | some config => .ok config
  | none => .error (toml.error version content)

def contains (content text : String) : Bool :=
  decide (text.toList <:+: content.toList)

def AnyOddBoxConfig.parse (newId : Nat → ProcId) (toml : TomlCrate) (content : String) :
    Except String AnyOddBoxConfig :=
  match toml.fromStr .v3 (OddBoxV3Config.deserialize newId) content with
  | .ok config => .ok (.v3 config)
  | .error v3Error =>
    match toml.fromStr .v2 (V2.OddBoxV2Config.deserialize newId) content with
    | .ok config => .ok (.v2 config)
    | .error v2Error =>
      match toml.fromStr .v1 V1.OddBoxV1Config.deserialize content with
      | .ok config => .ok (.v1 config)
      | .error v1Error =>
        match toml.fromStr .unmarked Legacy.OddBoxLegacyConfig.deserialize content with
        | .ok config => .ok (.legacy config)
        | .error legacyError =>
          if contains content "version = \"V3\"" then
            .error ("invalid v3 configuration file.\n" ++ v3Error)
          else if contains content "version = \"V2\"" then
            .error ("invalid v2 configuration file.\n" ++ v2Error)
          else if contains content "version = \"V1\"" then
            .error ("invalid v1 configuration file.\n" ++ v1Error)
          else .error ("invalid (legacy) configuration file.\n" ++ legacyError)

end OddBox.Configuration
