import Mathlib
import OddBox.Configuration.Parse
import OddBox.Toml.Schema

/-!
The schemas of the four versions: the keys of each record with the form of their
values. Each deserialiser takes exactly the tables that fit its schema; keys that a
schema does not name are ignored.
-/

namespace OddBox.Configuration

open Toml

/-! ## Choices -/

def IsVersion : Value → Prop := IsChoice (· ∈ ["Unmarked", "V1", "V2", "V3"])

def IsV3 : Value → Prop := IsChoice (· = "V3")

def IsLogLevel : Value → Prop :=
  IsChoice fun text => text.toLower ∈ ["trace", "debug", "info", "warn", "error"]

def IsLogFormat : Value → Prop := IsChoice (· ∈ ["standard", "dotnet"])

def V1.IsHint : Value → Prop := IsChoice (· ∈ ["H2", "H2C"])

def V2.IsHint : Value → Prop := IsChoice (· ∈ ["H2", "H2C", "H2CPK", "NOH2"])

def IsHint : Value → Prop := IsChoice (· ∈ ["H2", "H2C", "H2CPK", "H1", "H3"])

def IsIp : Value → Prop := IsChoice fun text => (IpAddr.parse text).isSome = true

/-! ## Records -/

def EnvVar.Schema (table : Table) : Prop :=
  Requires IsString table "key" ∧ Requires IsString table "value"

def V1.InProcessSiteConfig.Schema (table : Table) : Prop :=
  Allows IsBoolean table "disable_tcp_tunnel_mode" ∧ Allows V1.IsHint table "h2_hint" ∧
    Requires IsString table "host_name" ∧ Requires IsString table "dir" ∧
    Requires IsString table "bin" ∧ Requires (IsArrayOf IsString) table "args" ∧
    Requires (IsArrayOf (IsTable EnvVar.Schema)) table "env_vars" ∧
    Allows IsLogFormat table "log_format" ∧ Allows IsBoolean table "auto_start" ∧
    Allows (IsUnsigned 16) table "port" ∧ Allows IsBoolean table "https" ∧
    Allows IsBoolean table "capture_subdomains" ∧ Allows IsBoolean table "forward_subdomains" ∧
    Allows IsBoolean table "disabled"

def V1.RemoteSiteConfig.Schema (table : Table) : Prop :=
  Allows V1.IsHint table "h2_hint" ∧ Requires IsString table "host_name" ∧
    Requires IsString table "target_hostname" ∧ Allows (IsUnsigned 16) table "port" ∧
    Allows IsBoolean table "https" ∧ Allows IsBoolean table "capture_subdomains" ∧
    Allows IsBoolean table "disable_tcp_tunnel_mode" ∧ Allows IsBoolean table "forward_subdomains"

def V1.OddBoxV1Config.Schema (table : Table) : Prop :=
  Requires IsVersion table "version" ∧ Allows IsString table "root_dir" ∧
    Allows IsLogLevel table "log_level" ∧ Allows IsBoolean table "alpn" ∧
    Requires (IsUnsigned 16) table "port_range_start" ∧
    Allows IsLogFormat table "default_log_format" ∧ Allows IsIp table "ip" ∧
    Allows (IsUnsigned 16) table "http_port" ∧ Allows (IsUnsigned 16) table "tls_port" ∧
    Allows IsBoolean table "auto_start" ∧
    Requires (IsArrayOf (IsTable EnvVar.Schema)) table "env_vars" ∧
    Allows (IsArrayOf (IsTable V1.RemoteSiteConfig.Schema)) table "remote_target" ∧
    Allows (IsArrayOf (IsTable V1.InProcessSiteConfig.Schema)) table "hosted_process" ∧
    Allows (IsUnsigned 16) table "admin_api_port" ∧ Allows IsString table "path"

def Legacy.SiteConfig.Schema (table : Table) : Prop :=
  Requires IsString table "host_name" ∧ Requires IsString table "path" ∧
    Requires IsString table "bin" ∧ Requires (IsArrayOf IsString) table "args" ∧
    Requires (IsArrayOf (IsTable EnvVar.Schema)) table "env_vars" ∧
    Allows IsLogFormat table "log_format" ∧ Allows IsBoolean table "auto_start" ∧
    Allows IsBoolean table "https" ∧ Allows IsBoolean table "capture_subdomains" ∧
    Allows V1.IsHint table "h2_hint" ∧ Allows IsBoolean table "disable_tcp_tunnel_mode"

def Legacy.OddBoxLegacyConfig.Schema (table : Table) : Prop :=
  Requires (IsArrayOf (IsTable Legacy.SiteConfig.Schema)) table "processes" ∧
    Requires (IsArrayOf (IsTable EnvVar.Schema)) table "env_vars" ∧
    Allows IsString table "root_dir" ∧ Allows IsLogLevel table "log_level" ∧
    Requires (IsUnsigned 16) table "port_range_start" ∧
    Allows IsLogFormat table "default_log_format" ∧ Allows (IsUnsigned 16) table "port" ∧
    Allows (IsUnsigned 16) table "tls_port" ∧ Allows IsBoolean table "auto_start" ∧
    Allows IsIp table "ip" ∧
    Allows (IsArrayOf (IsTable V1.RemoteSiteConfig.Schema)) table "remote_sites"

def V2.DirServer.Schema (table : Table) : Prop :=
  Requires IsString table "dir" ∧ Requires IsString table "host_name" ∧
    Allows IsBoolean table "capture_subdomains" ∧ Allows IsBoolean table "enable_lets_encrypt" ∧
    Allows IsBoolean table "enable_directory_browsing" ∧
    Allows IsBoolean table "redirect_to_https" ∧ Allows IsBoolean table "render_markdown"

def V2.Backend.Schema (table : Table) : Prop :=
  Requires IsString table "address" ∧ Requires (IsUnsigned 16) table "port" ∧
    Allows IsBoolean table "https" ∧ Allows (IsArrayOf V2.IsHint) table "hints"

def V2.RemoteSiteConfig.Schema (table : Table) : Prop :=
  Requires IsString table "host_name" ∧
    Requires (IsArrayOf (IsTable V2.Backend.Schema)) table "backends" ∧
    Allows IsBoolean table "capture_subdomains" ∧ Allows IsBoolean table "disable_tcp_tunnel_mode" ∧
    Allows IsBoolean table "forward_subdomains" ∧ Allows IsBoolean table "enable_lets_encrypt" ∧
    Allows IsBoolean table "keep_original_host_header"

def V2.InProcessSiteConfig.Schema (table : Table) : Prop :=
  Allows IsBoolean table "disable_tcp_tunnel_mode" ∧ Allows (IsArrayOf V2.IsHint) table "hints" ∧
    Requires IsString table "host_name" ∧ Allows IsString table "dir" ∧
    Requires IsString table "bin" ∧ Allows (IsArrayOf IsString) table "args" ∧
    Allows (IsArrayOf (IsTable EnvVar.Schema)) table "env_vars" ∧
    Allows IsLogFormat table "log_format" ∧ Allows IsBoolean table "auto_start" ∧
    Allows (IsUnsigned 16) table "port" ∧ Allows IsBoolean table "https" ∧
    Allows IsBoolean table "capture_subdomains" ∧ Allows IsBoolean table "forward_subdomains" ∧
    Allows IsBoolean table "exclude_from_start_all" ∧ Allows IsBoolean table "enable_lets_encrypt" ∧
    Allows IsLogLevel table "log_level"

def V2.OddBoxV2Config.Schema (table : Table) : Prop :=
  Requires IsVersion table "version" ∧ Allows IsString table "root_dir" ∧
    Allows IsLogLevel table "log_level" ∧ Allows IsBoolean table "alpn" ∧
    Allows (IsUnsigned 16) table "port_range_start" ∧
    Allows IsLogFormat table "default_log_format" ∧ Allows IsIp table "ip" ∧
    Allows (IsUnsigned 16) table "http_port" ∧ Allows (IsUnsigned 16) table "tls_port" ∧
    Allows IsBoolean table "auto_start" ∧
    Allows (IsArrayOf (IsTable EnvVar.Schema)) table "env_vars" ∧
    Allows (IsArrayOf (IsTable V2.RemoteSiteConfig.Schema)) table "remote_target" ∧
    Allows (IsArrayOf (IsTable V2.InProcessSiteConfig.Schema)) table "hosted_process" ∧
    Allows (IsArrayOf (IsTable V2.DirServer.Schema)) table "dir_server" ∧
    Allows (IsUnsigned 16) table "admin_api_port" ∧
    Allows IsString table "lets_encrypt_account_email" ∧ Allows IsString table "odd_box_url" ∧
    Allows IsString table "odd_box_password"

def DirServer.Schema (table : Table) : Prop :=
  Requires IsString table "dir" ∧ Requires IsString table "host_name" ∧
    Allows IsBoolean table "capture_subdomains" ∧ Allows IsBoolean table "enable_lets_encrypt" ∧
    Allows IsBoolean table "enable_directory_browsing" ∧
    Allows IsBoolean table "redirect_to_https" ∧ Allows IsBoolean table "render_markdown" ∧
    Allows (IsUnsigned 64) table "cache_control_max_age_in_seconds"

def Backend.Schema (table : Table) : Prop :=
  Requires IsString table "address" ∧ Requires (IsUnsigned 16) table "port" ∧
    Allows IsBoolean table "https" ∧ Allows (IsArrayOf IsHint) table "hints"

def RemoteSiteConfig.Schema (table : Table) : Prop :=
  Requires IsString table "host_name" ∧
    Requires (IsArrayOf (IsTable Backend.Schema)) table "backends" ∧
    Allows IsBoolean table "capture_subdomains" ∧
    AllowsEither IsBoolean table "terminate_tls" "disable_tcp_tunnel_mode" ∧
    Allows IsBoolean table "terminate_http" ∧ Allows IsBoolean table "forward_subdomains" ∧
    Allows IsBoolean table "enable_lets_encrypt" ∧
    Allows IsBoolean table "keep_original_host_header" ∧ Allows IsBoolean table "redirect_to_https"

def InProcessSiteConfig.Schema (table : Table) : Prop :=
  AllowsEither IsBoolean table "terminate_tls" "disable_tcp_tunnel_mode" ∧
    Allows IsBoolean table "terminate_http" ∧ Allows (IsArrayOf IsHint) table "hints" ∧
    Requires IsString table "host_name" ∧ Allows IsString table "dir" ∧
    Requires IsString table "bin" ∧ Allows (IsArrayOf IsString) table "args" ∧
    Allows (IsArrayOf (IsTable EnvVar.Schema)) table "env_vars" ∧
    Allows IsLogFormat table "log_format" ∧ Allows IsBoolean table "auto_start" ∧
    Allows (IsUnsigned 16) table "port" ∧ Allows IsBoolean table "https" ∧
    Allows IsBoolean table "capture_subdomains" ∧ Allows IsBoolean table "forward_subdomains" ∧
    Allows IsBoolean table "exclude_from_start_all" ∧ Allows IsBoolean table "enable_lets_encrypt" ∧
    Allows IsLogLevel table "log_level" ∧ Allows IsBoolean table "redirect_to_https"

def OddBoxV3Config.Schema (table : Table) : Prop :=
  Requires IsV3 table "version" ∧ Allows IsString table "root_dir" ∧
    Allows IsLogLevel table "log_level" ∧ Allows IsBoolean table "alpn" ∧
    Allows (IsUnsigned 16) table "port_range_start" ∧
    Allows IsLogFormat table "default_log_format" ∧ Allows IsIp table "ip" ∧
    Allows (IsUnsigned 16) table "http_port" ∧ Allows (IsUnsigned 16) table "tls_port" ∧
    Allows IsBoolean table "auto_start" ∧
    Allows (IsArrayOf (IsTable EnvVar.Schema)) table "env_vars" ∧
    Allows (IsArrayOf (IsTable RemoteSiteConfig.Schema)) table "remote_target" ∧
    Allows (IsArrayOf (IsTable InProcessSiteConfig.Schema)) table "hosted_process" ∧
    Allows (IsArrayOf (IsTable DirServer.Schema)) table "dir_server" ∧
    Allows IsString table "lets_encrypt_account_email" ∧ Allows IsString table "odd_box_url" ∧
    Allows IsString table "odd_box_password" ∧ Allows IsBoolean table "use_loopback_ip_for_procs"

/-! ## What the deserialisers take -/

instance : Takes OddBoxConfigVersion.deserialize IsVersion := by
  refine takes_choice fun text => ?_
  split <;> simp_all

instance : Takes V3VersionEnum.deserialize IsV3 := by
  refine takes_choice fun text => ?_
  split <;> simp_all

instance : Takes LogLevel.deserialize IsLogLevel := by
  refine takes_choice fun text => ?_
  split <;> simp_all

instance : Takes LogFormat.deserialize IsLogFormat := by
  refine takes_choice fun text => ?_
  split <;> simp_all

instance : Takes V1.H2Hint.deserialize V1.IsHint := by
  refine takes_choice fun text => ?_
  split <;> simp_all

instance : Takes V2.Hint.deserialize V2.IsHint := by
  refine takes_choice fun text => ?_
  split <;> simp_all

instance : Takes Hint.deserialize IsHint := by
  refine takes_choice fun text => ?_
  split <;> simp_all

instance : Takes IpAddr.deserialize IsIp := takes_choice fun _ => Iff.rfl

instance : Takes u16 (IsUnsigned 16) := takes_unsigned

instance : Takes u64 (IsUnsigned 64) := takes_unsigned

instance : Takes EnvVar.deserialize (IsTable EnvVar.Schema) := by
  refine takes_table fun table => ?_
  repeat' refine isSome_bind ?_ fun _ => ?_
  all_goals first
    | exact isSome_requiredField table _
    | exact isSome_last (isSome_requiredField table _)

instance : Takes V1.InProcessSiteConfig.deserialize (IsTable V1.InProcessSiteConfig.Schema) := by
  refine takes_table fun table => ?_
  repeat' refine isSome_bind ?_ fun _ => ?_
  all_goals first
    | exact isSome_requiredField table _
    | exact isSome_optionField table _
    | exact isSome_last (isSome_optionField table _)

instance : Takes V1.RemoteSiteConfig.deserialize (IsTable V1.RemoteSiteConfig.Schema) := by
  refine takes_table fun table => ?_
  repeat' refine isSome_bind ?_ fun _ => ?_
  all_goals first
    | exact isSome_requiredField table _
    | exact isSome_optionField table _
    | exact isSome_last (isSome_optionField table _)

instance : Takes Legacy.SiteConfig.deserialize (IsTable Legacy.SiteConfig.Schema) := by
  refine takes_table fun table => ?_
  repeat' refine isSome_bind ?_ fun _ => ?_
  all_goals first
    | exact isSome_requiredField table _
    | exact isSome_optionField table _
    | exact isSome_last (isSome_optionField table _)

instance : Takes V2.DirServer.deserialize (IsTable V2.DirServer.Schema) := by
  refine takes_table fun table => ?_
  repeat' refine isSome_bind ?_ fun _ => ?_
  all_goals first
    | exact isSome_requiredField table _
    | exact isSome_optionField table _
    | exact isSome_last (isSome_optionField table _)

instance : Takes V2.Backend.deserialize (IsTable V2.Backend.Schema) := by
  refine takes_table fun table => ?_
  repeat' refine isSome_bind ?_ fun _ => ?_
  all_goals first
    | exact isSome_requiredField table _
    | exact isSome_optionField table _
    | exact isSome_last (isSome_optionField table _)

instance : Takes V2.RemoteSiteConfig.deserialize (IsTable V2.RemoteSiteConfig.Schema) := by
  refine takes_table fun table => ?_
  repeat' refine isSome_bind ?_ fun _ => ?_
  all_goals first
    | exact isSome_requiredField table _
    | exact isSome_optionField table _
    | exact isSome_last (isSome_optionField table _)

instance (procId : ProcId) : Takes (V2.InProcessSiteConfig.deserialize procId)
    (IsTable V2.InProcessSiteConfig.Schema) := by
  refine takes_table fun table => ?_
  repeat' refine isSome_bind ?_ fun _ => ?_
  all_goals first
    | exact isSome_requiredField table _
    | exact isSome_optionField table _
    | exact isSome_last (isSome_optionField table _)

instance : Takes DirServer.deserialize (IsTable DirServer.Schema) := by
  refine takes_table fun table => ?_
  repeat' refine isSome_bind ?_ fun _ => ?_
  all_goals first
    | exact isSome_requiredField table _
    | exact isSome_optionField table _
    | exact isSome_last (isSome_optionField table _)

instance : Takes Backend.deserialize (IsTable Backend.Schema) := by
  refine takes_table fun table => ?_
  repeat' refine isSome_bind ?_ fun _ => ?_
  all_goals first
    | exact isSome_requiredField table _
    | exact isSome_optionField table _
    | exact isSome_last (isSome_optionField table _)

instance : Takes RemoteSiteConfig.deserialize (IsTable RemoteSiteConfig.Schema) := by
  refine takes_table fun table => ?_
  repeat' refine isSome_bind ?_ fun _ => ?_
  all_goals first
    | exact isSome_requiredField table _
    | exact isSome_optionField table _
    | exact isSome_aliasField table _ _
    | exact isSome_last (isSome_optionField table _)

instance (procId : ProcId) : Takes (InProcessSiteConfig.deserialize procId)
    (IsTable InProcessSiteConfig.Schema) := by
  refine takes_table fun table => ?_
  repeat' refine isSome_bind ?_ fun _ => ?_
  all_goals first
    | exact isSome_requiredField table _
    | exact isSome_optionField table _
    | exact isSome_aliasField table _ _
    | exact isSome_last (isSome_optionField table _)

instance {α : Type} {deserialize : ProcId → Value → Option α} {form : Value → Prop}
    [∀ procId, Takes (deserialize procId) form] (newId : Nat → ProcId) :
    Takes (deserializeProcesses deserialize newId) (IsArrayOf form) where
  isSome_iff := by
    intro value
    cases value with
    | array items =>
      change (items.zipIdx.mapM fun item => deserialize (newId item.2) item.1).isSome = true ↔ _
      have hitems : (∀ item ∈ items, form item) ↔ ∀ item ∈ items.zipIdx, form item.1 := by
        rw [← List.forall_mem_map (f := Prod.fst), List.zipIdx_map_fst]
      rw [isSome_mapM, IsArrayOf, hitems]
      exact forall₂_congr fun item _ => Takes.isSome_iff item.1
    | _ => simp [deserializeProcesses, Value.array?, IsArrayOf]

/-! ## Documents -/

theorem legacy_admits (table : Table) :
    (Legacy.OddBoxLegacyConfig.deserialize table).isSome = true ↔
      Legacy.OddBoxLegacyConfig.Schema table := by
  unfold Legacy.OddBoxLegacyConfig.deserialize
  repeat' refine isSome_bind ?_ fun _ => ?_
  all_goals first
    | exact isSome_requiredField table _
    | exact isSome_optionField table _
    | exact isSome_last (isSome_optionField table _)

theorem v1_admits (table : Table) :
    (V1.OddBoxV1Config.deserialize table).isSome = true ↔ V1.OddBoxV1Config.Schema table := by
  unfold V1.OddBoxV1Config.deserialize
  repeat' refine isSome_bind ?_ fun _ => ?_
  all_goals first
    | exact isSome_requiredField table _
    | exact isSome_optionField table _
    | exact isSome_defaultField table _ _
    | exact isSome_last (isSome_optionField table _)

theorem v2_admits (newId : Nat → ProcId) (table : Table) :
    (V2.OddBoxV2Config.deserialize newId table).isSome = true ↔ V2.OddBoxV2Config.Schema table := by
  unfold V2.OddBoxV2Config.deserialize
  repeat' refine isSome_bind ?_ fun _ => ?_
  all_goals first
    | exact isSome_requiredField table _
    | exact isSome_optionField table _
    | exact isSome_defaultField table _ _
    | exact isSome_last (isSome_optionField table _)

theorem v3_admits (newId : Nat → ProcId) (table : Table) :
    (OddBoxV3Config.deserialize newId table).isSome = true ↔ OddBoxV3Config.Schema table := by
  unfold OddBoxV3Config.deserialize
  repeat' refine isSome_bind ?_ fun _ => ?_
  all_goals first
    | exact isSome_requiredField table _
    | exact isSome_optionField table _
    | exact isSome_defaultField table _ _
    | exact isSome_last (isSome_defaultField table _ _)

end OddBox.Configuration
