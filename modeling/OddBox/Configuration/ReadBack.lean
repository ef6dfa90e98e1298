import Mathlib
import OddBox.Configuration.Deserialize
import OddBox.Configuration.Written

/-!
What the deserialisers make of the sections and the root that `to_string` writes.
-/

namespace OddBox.Configuration

open Toml

/-! ## Values -/

theorem string_back (text : String) : Value.string? (.string text) = some text := rfl

theorem boolean_back (flag : Bool) : Value.boolean? (.boolean flag) = some flag := rfl

theorem u16_back (n : UInt16) : u16 (.integer n.toNat) = some n := by
  rw [u16, Toml.unsigned_of_lt n.toNat_lt]
  change some (UInt16.ofNat n.toNat) = some n
  rw [UInt16.ofNat_toNat]

theorem u64_back (n : UInt64) : u64 (.integer n.toNat) = some n := by
  rw [u64, Toml.unsigned_of_lt n.toNat_lt]
  change some (UInt64.ofNat n.toNat) = some n
  rw [UInt64.ofNat_toNat]

theorem logLevel_back (level : LogLevel) :
    LogLevel.deserialize (.string level.fmt) = some level := by
  cases level <;> decide +kernel

theorem logFormat_back (format : LogFormat) :
    LogFormat.deserialize (.string format.fmt) = some format := by
  cases format <;> rfl

theorem hint_back (hint : Hint) : Hint.deserialize (.string hint.fmt) = some hint := by
  cases hint <;> rfl

theorem version_back (version : V3VersionEnum) :
    V3VersionEnum.deserialize (.string version.fmt) = some version := rfl

theorem ip_back (ip : IpAddr) : IpAddr.deserialize (.string ip.fmt) = some ip := ip.parse_fmt

theorem hints_back (hints : List Hint) :
    Value.list? Hint.deserialize (.array (hintValues hints)) = some hints :=
  list_of_all hint_back hints

theorem strings_back (texts : List String) :
    Value.list? Value.string? (.array (texts.map .string)) = some texts :=
  list_of_all string_back texts

theorem envVar_back (envVar : EnvVar) :
    EnvVar.deserialize envVar.toValue = some envVar := rfl

theorem envVars_back (envVars : List EnvVar) :
    Value.list? EnvVar.deserialize (.array (envVars.map EnvVar.toValue)) = some envVars :=
  list_of_all envVar_back envVars

/-! ## Sites -/

def DirServer.readBack (s : DirServer) : DirServer :=
  { s with
    captureSubdomains := trueOnly s.captureSubdomains
    enableLetsEncrypt := trueOnly s.enableLetsEncrypt
    enableDirectoryBrowsing := trueOnly s.enableDirectoryBrowsing
    redirectToHttps := trueOnly s.redirectToHttps
    renderMarkdown := trueOnly s.renderMarkdown }

theorem dirServer_back (s : DirServer) :
    DirServer.deserialize (.table (present s.fields)) = some s.readBack := by
  have hagrees := present_agrees (dirServer_keys s)
  generalize present s.fields = table at hagrees ⊢
  simp only [Agrees, DirServer.fields, DirServer.plainFields, List.cons_append, List.nil_append,
    List.forall_mem_cons] at hagrees
  obtain ⟨hhost, hdir, hcapture, hbrowsing, hencrypt, hmarkdown, hredirect, hage, -⟩ := hagrees
  dsimp only [DirServer.deserialize, Value.table?, Option.bind_eq_bind, Option.bind_some]
  rw [requiredField_of_lookup string_back hhost, requiredField_of_lookup string_back hdir,
    optionField_of_lookup boolean_back hcapture, optionField_of_lookup boolean_back hbrowsing,
    optionField_of_lookup boolean_back hencrypt, optionField_of_lookup boolean_back hmarkdown,
    optionField_of_lookup boolean_back hredirect, optionField_of_lookup u64_back hage]
  rfl

def Backend.readBack (b : Backend) : Backend := { b with https := trueOnly b.https }

theorem backend_back (b : Backend) : Backend.deserialize b.toValue = some b.readBack := by
  have hagrees := present_agrees (backend_keys b)
  unfold Backend.toValue
  generalize present b.fields = table at hagrees ⊢
  simp only [Agrees, Backend.fields, List.forall_mem_cons] at hagrees
  obtain ⟨hhttps, haddress, hport, hhints, -⟩ := hagrees
  dsimp only [Backend.deserialize, Value.table?, Option.bind_eq_bind, Option.bind_some]
  rw [requiredField_of_lookup string_back haddress, requiredField_of_lookup u16_back hport,
    optionField_of_lookup boolean_back hhttps, optionField_of_lookup hints_back hhints]
  rfl

def RemoteSiteConfig.readBack (site : RemoteSiteConfig) : RemoteSiteConfig :=
  { hostName := site.hostName
    backends := site.backends.map Backend.readBack
    captureSubdomains := trueOnly site.captureSubdomains
    terminateTls := trueOnly site.terminateTls
    terminateHttp := none
    forwardSubdomains := trueOnly site.forwardSubdomains
    enableLetsEncrypt := trueOnly site.enableLetsEncrypt
    keepOriginalHostHeader := none
    redirectToHttps := trueOnly site.redirectToHttps }

theorem remoteSite_back (site : RemoteSiteConfig) :
    RemoteSiteConfig.deserialize (.table (present site.fields)) = some site.readBack := by
  have hagrees := present_agrees (remoteSite_keys site)
  generalize present site.fields = table at hagrees ⊢
  simp only [Agrees, RemoteSiteConfig.fields, List.forall_mem_cons] at hagrees
  obtain ⟨hhost, hforward, hredirect, hcapture, htls, hencrypt, hbackends, hhttp, hkeep, hold, -⟩ :=
    hagrees
  have hlist : requiredField (Value.list? Backend.deserialize) table "backends" =
      some (site.backends.map Backend.readBack) := by
    rw [requiredField, hbackends]
    exact list_of_array fun b _ => backend_back b
  have hnone : ∀ key, table.lookup key = none →
      optionField Value.boolean? table key = some none := fun key hkey =>
    optionField_of_lookup (w := none) boolean_back hkey
  dsimp only [RemoteSiteConfig.deserialize, Value.table?, Option.bind_eq_bind, Option.bind_some]
  rw [requiredField_of_lookup string_back hhost, hlist, hnone _ hhttp, hnone _ hkeep,
    optionField_of_lookup boolean_back hforward, optionField_of_lookup boolean_back hredirect,
    optionField_of_lookup boolean_back hcapture, aliasField_of_lookup boolean_back htls hold,
    optionField_of_lookup boolean_back hencrypt]
  rfl

def InProcessSiteConfig.readBack (procId : ProcId) (process : InProcessSiteConfig) :
    InProcessSiteConfig :=
  { procId := procId
    activePort := none
    terminateTls := trueOnly process.terminateTls
    terminateHttp := none
    hints := process.hints
    hostName := process.hostName
    dir := process.dir
    bin := process.bin
    args := some (process.args.getD [])
    envVars := process.envVars
    logFormat := none
    autoStart := process.autoStart
    port := process.port
    https := process.https
    captureSubdomains := trueOnly process.captureSubdomains
    forwardSubdomains := none
    excludeFromStartAll := trueOnly process.excludeFromStartAll
    enableLetsEncrypt := trueOnly process.enableLetsEncrypt
    logLevel := process.logLevel
    redirectToHttps := trueOnly process.redirectToHttps }

theorem process_back (procId : ProcId) (process : InProcessSiteConfig) :
    InProcessSiteConfig.deserialize procId (.table (present process.fields)) =
      some (process.readBack procId) := by
  have hagrees := present_agrees (process_keys process)
  generalize present process.fields = table at hagrees ⊢
  simp only [Agrees, InProcessSiteConfig.fields, List.forall_mem_cons] at hagrees
  obtain ⟨hhost, hdir, hbin, hhints, hargs, hauto, hlevel, hredirect, hencrypt, hexclude, hhttps,
    hport, hcapture, htls, henv, hhttp, hforward, hformat, hold, -⟩ := hagrees
  have hnone : ∀ key, table.lookup key = none →
      optionField Value.boolean? table key = some none := fun key hkey =>
    optionField_of_lookup (w := none) boolean_back hkey
  dsimp only [InProcessSiteConfig.deserialize, Value.table?, Option.bind_eq_bind, Option.bind_some]
  rw [requiredField_of_lookup string_back hhost, requiredField_of_lookup string_back hbin,
    optionField_of_lookup string_back hdir, optionField_of_lookup hints_back hhints,
    optionField_of_lookup (w := some (process.args.getD [])) strings_back hargs,
    optionField_of_lookup boolean_back hauto, optionField_of_lookup logLevel_back hlevel,
    optionField_of_lookup boolean_back hredirect, optionField_of_lookup boolean_back hencrypt,
    optionField_of_lookup boolean_back hexclude, optionField_of_lookup boolean_back hhttps,
    optionField_of_lookup u16_back hport, optionField_of_lookup boolean_back hcapture,
    aliasField_of_lookup boolean_back htls hold, optionField_of_lookup envVars_back henv,
    optionField_of_lookup (w := none) logFormat_back hformat, hnone _ hhttp,
    hnone _ hforward]
  rfl

/-! ## The configuration -/

/-- No header is written for an empty list. -/
def nonEmpty {α : Type} (items : List α) : Option (List α) :=
  if items = [] then none else some items

def readBackProcesses (newId : Nat → ProcId) (processes : List InProcessSiteConfig) :
    List InProcessSiteConfig :=
  processes.zipIdx.map fun item => item.1.readBack (newId item.2)

def OddBoxV3Config.readBack (newId : Nat → ProcId) (config : OddBoxV3Config) : OddBoxV3Config :=
  { path := none
    version := config.version
    rootDir := some (config.rootDir.getD "~")
    logLevel := some (config.logLevel.getD .info)
    alpn := some (config.alpn.getD false)
    portRangeStart := config.portRangeStart
    defaultLogFormat := config.defaultLogFormat
    ip := some (config.ip.getD (.v4 127 0 0 1))
    httpPort := some (config.httpPort.getD 8080)
    tlsPort := some (config.tlsPort.getD 4343)
    autoStart := some (config.autoStart.getD false)
    envVars := config.envVars
    remoteTarget := (nonEmpty (config.remoteTarget.getD [])).map (·.map RemoteSiteConfig.readBack)
    hostedProcess := (nonEmpty (config.hostedProcess.getD [])).map (readBackProcesses newId)
    dirServer := (nonEmpty (config.dirServer.getD [])).map (·.map DirServer.readBack)
    letsEncryptAccountEmail := config.letsEncryptAccountEmail
    oddBoxUrl := config.oddBoxUrl
    oddBoxPassword := config.oddBoxPassword
    useLoopbackIpForProcs := some true }

theorem processes_back (newId : Nat → ProcId) (processes : List InProcessSiteConfig) :
    deserializeProcesses InProcessSiteConfig.deserialize newId
      (.array (processes.map fun process => .table (present process.fields))) =
        some (readBackProcesses newId processes) := by
  have hrun : ∀ start, ((processes.map fun process =>
      Value.table (present process.fields)).zipIdx start).mapM (fun item =>
        InProcessSiteConfig.deserialize (newId item.2) item.1) =
      some ((processes.zipIdx start).map fun item => item.1.readBack (newId item.2)) := by
    induction processes with
    | nil => intro start; rfl
    | cons process processes ih =>
      intro start
      rw [List.map_cons, List.zipIdx_cons, List.mapM_cons, process_back, ih (start + 1)]
      rfl
  exact hrun 0

theorem filter_sections {α : Type} (part : α → Section) {name key : String}
    (hname : ∀ x, (part x).name = name) (items : List α) :
    (items.map part).filter (·.name = key) = if name = key then items.map part else [] := by
  split
  · next hkey =>
    refine List.filter_eq_self.mpr ?_
    intro x hx
    obtain ⟨item, -, rfl⟩ := List.mem_map.mp hx
    simpa [hname] using hkey
  · next hkey =>
    refine List.filter_eq_nil_iff.mpr ?_
    intro x hx
    obtain ⟨item, -, rfl⟩ := List.mem_map.mp hx
    simpa [hname] using hkey

theorem sections_filter (config : OddBoxV3Config) (key : String) :
    config.sections.filter (·.name = key) =
      (if "dir_server" = key then (config.dirServer.getD []).map DirServer.toSection else []) ++
      (if "remote_target" = key then
        (config.remoteTarget.getD []).map RemoteSiteConfig.toSection else []) ++
      (if "hosted_process" = key then
        (config.hostedProcess.getD []).map InProcessSiteConfig.toSection else []) := by
  rw [OddBoxV3Config.sections, List.filter_append, List.filter_append,
    filter_sections DirServer.toSection fun _ => rfl,
    filter_sections RemoteSiteConfig.toSection fun _ => rfl,
    filter_sections InProcessSiteConfig.toSection fun _ => rfl]

/-- The sections of one kind in the table of the document. -/
theorem document_lookup_section (config : OddBoxV3Config) (key : String) {α : Type}
    (part : α → Section) (items : List α) (h : key ∉ config.fields.map Prod.fst)
    (hsections : config.sections.filter (·.name = key) = items.map part) :
    config.document.table.lookup key =
      (nonEmpty items).map fun items => .array (items.map fun x => .table (part x).entries) := by
  have hkey : key ∉ config.document.root.map Prod.fst := fun hmem =>
    h ((present_keys config.fields).subset hmem)
  have hfilter : config.document.sections.filter (·.name = key) = items.map part := hsections
  rw [table_lookup_section hkey, hfilter, nonEmpty]
  cases items with
  | nil => rfl
  | cons x items => simp

theorem config_back (newId : Nat → ProcId) (config : OddBoxV3Config) :
    OddBoxV3Config.deserialize newId config.document.table = some (config.readBack newId) := by
  have hdistinct := document_distinct config
  have hkeys : (config.fields.map Prod.fst).Nodup := by
    rw [fields_keys]
    decide
  have hagrees : Agrees config.document.table config.fields := by
    intro field hfield
    rw [← present_agrees hkeys field hfield]
    refine table_lookup_root ?_
    intro hmem
    obtain ⟨part, hpart, hname⟩ := List.mem_map.mp hmem
    have hsection := sections_names config part hpart
    have hkey : field.1 ∈ config.fields.map Prod.fst := List.mem_map_of_mem hfield
    rw [← hname, fields_keys] at hkey
    revert hkey
    simp only [List.mem_cons, List.not_mem_nil, or_false] at hsection
    rcases hsection with hsection | hsection | hsection <;> rw [hsection] <;> decide
  have hdirs := document_lookup_section config "dir_server" DirServer.toSection
    (config.dirServer.getD []) (by rw [fields_keys]; decide) (by rw [sections_filter]; simp)
  have hremotes := document_lookup_section config "remote_target" RemoteSiteConfig.toSection
    (config.remoteTarget.getD []) (by rw [fields_keys]; decide) (by rw [sections_filter]; simp)
  have hprocesses := document_lookup_section config "hosted_process"
    InProcessSiteConfig.toSection (config.hostedProcess.getD []) (by rw [fields_keys]; decide)
    (by rw [sections_filter]; simp)
  generalize config.document.table = table at hagrees hdirs hremotes hprocesses ⊢
  simp only [Agrees, OddBoxV3Config.fields, List.forall_mem_cons] at hagrees
  obtain ⟨hversion, halpn, hhttp, htls, hip, hauto, hroot, hlevel, hurl, hpassword, hrange,
    hformat, hemail, henv, hloopback, -⟩ := hagrees
  have hdirServer : optionField (Value.list? DirServer.deserialize) table "dir_server" =
      some ((nonEmpty (config.dirServer.getD [])).map (·.map DirServer.readBack)) := by
    rw [optionField, defaultField, hdirs]
    cases nonEmpty (config.dirServer.getD []) with
    | none => rfl
    | some items =>
      exact congrArg (Option.map some) (list_of_array fun s _ => dirServer_back s)
  have hremoteTarget :
      optionField (Value.list? RemoteSiteConfig.deserialize) table "remote_target" =
        some ((nonEmpty (config.remoteTarget.getD [])).map (·.map RemoteSiteConfig.readBack)) := by
    rw [optionField, defaultField, hremotes]
    cases nonEmpty (config.remoteTarget.getD []) with
    | none => rfl
    | some items =>
      exact congrArg (Option.map some) (list_of_array fun site _ => remoteSite_back site)
  have hhostedProcess : optionField
      (deserializeProcesses InProcessSiteConfig.deserialize newId) table "hosted_process" =
      some ((nonEmpty (config.hostedProcess.getD [])).map (readBackProcesses newId)) := by
    rw [optionField, defaultField, hprocesses]
    cases nonEmpty (config.hostedProcess.getD []) with
    | none => rfl
    | some items => exact congrArg (Option.map some) (processes_back newId items)
  rw [OddBoxV3Config.deserialize, requiredField_of_lookup version_back hversion,
    optionField_of_lookup (w := some (config.rootDir.getD "~")) string_back hroot,
    defaultField_some_of_lookup logLevel_back hlevel,
    defaultField_some_of_lookup (w := some (config.alpn.getD false)) boolean_back halpn,
    defaultField_of_lookup (w := some config.portRangeStart) u16_back hrange,
    defaultField_of_lookup (w := some config.defaultLogFormat) logFormat_back hformat,
    optionField_of_lookup (w := some (config.ip.getD (.v4 127 0 0 1))) ip_back hip,
    defaultField_some_of_lookup u16_back hhttp, defaultField_some_of_lookup u16_back htls,
    defaultField_some_of_lookup (w := some (config.autoStart.getD false)) boolean_back hauto,
    defaultField_of_lookup (w := some config.envVars) envVars_back henv,
    hdirServer, hremoteTarget, hhostedProcess, optionField_of_lookup string_back hemail,
    optionField_of_lookup string_back hurl, optionField_of_lookup string_back hpassword,
    defaultField_some_of_lookup (w := none) boolean_back hloopback]
  rfl

end OddBox.Configuration
