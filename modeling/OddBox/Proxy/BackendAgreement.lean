import OddBox.Proxy.HostHeader

/-!
The connections that the terminating service opens to backends, for ordinary requests and for
websockets: whether they go to the port of the record that is selected, and by TLS where the
record says so.
-/

namespace OddBox.Proxy

open OddBox.Api OddBox.Configuration OddBox.Routing OddBox.Str OddBox.TcpProxy

/-! ## Connections and records -/

/-- Of a connection to a backend what the record decides. -/
structure Connection where
  port : UInt16
  tls : Bool
  deriving DecidableEq

def Outgoing.connection (outgoing : Outgoing) : Connection :=
  ⟨outgoing.uri.connectPort, outgoing.tls⟩

def WsConnection.connection (opened : WsConnection) : Connection := ⟨opened.port, opened.tls⟩

/-- The record that a websocket is opened for: that of the site, or the one that an ordinary
request to the running process would get. -/
def wsRecord (network : Network) (counts : AccessCounts) (config : OddBoxV3Config) :
    Site → Option Backend
  | .remoteTarget site => site.nextBackend counts .any
  | .hostedProcess process =>
    (network.activePort process.procId).map (processBackend config process)
  | _ => none

/-- A request that is served for a record, with the connection that is opened for it. -/
inductive Served (service : ReverseProxyService) (network : Network) (counts : AccessCounts)
    (app : AppState) (req : IncomingRequest) : Backend → Option Connection → Prop where
  | ordinary {outgoing : Outgoing} (hkind : req.isUpgradeRequest = false)
      (hforward : service.forwardHttp network counts app req = some outgoing) :
      Served service network counts app req outgoing.backend (some outgoing.connection)
  | upgrade {site : Site} {backend : Backend} (hkind : req.isUpgradeRequest = true)
      (hselect : app.global.handleWs req.toRequest = .site site)
      (hrecord : wsRecord network counts service.configuration site = some backend) :
      Served service network counts app req backend
        ((service.forwardWs network.http counts app req).map WsConnection.connection)

/-- The connection is the one that the record asks for. -/
def FollowsRecord (backend : Backend) (connection : Option Connection) : Prop :=
  connection = some ⟨backend.port, backend.https == some true⟩

/-- The URLs for the request are read as they are written. -/
structure ReadsUrls (service : ReverseProxyService) (network : Network) (counts : AccessCounts)
    (app : AppState) (req : IncomingRequest) (backend : Backend) : Prop where
  ordinary : network.http.Reads backend req
  upgrade : ∀ site host port enforceHttps, app.global.handleWs req.toRequest = .site site →
    wsTarget counts site = some (host, port, enforceHttps) →
      network.http.parseUri (targetUrl (service.wsProto enforceHttps req) host port
        (req.pathAndQuery.getD "")) = some ⟨service.wsProto enforceHttps req, host, some port⟩

/-- The client has asked for a websocket without TLS: it has said so, or is not on TLS itself. -/
def ClearWs (isHttps : Bool) (req : IncomingRequest) : Prop :=
  req.uriScheme = some "ws" ∨ req.uriScheme = none ∧ isHttps = false

/-- A websocket has to be one that is opened the right way. -/
structure UpgradeAgrees (service : ReverseProxyService) (app : AppState) (req : IncomingRequest)
    (backend : Backend) : Prop where
  port : backend.port ≠ 0
  tls : backend.https = some true ∨ ClearWs service.isHttps req
  /-- The port that a process has in the running configuration is the one that it listens on. -/
  active : ∀ process, app.global.handleWs req.toRequest = .site (.hostedProcess process) →
    process.activePort = some backend.port

/-! ## Ordinary requests -/

section

variable {service : ReverseProxyService} {network : Network} {counts : AccessCounts}
  {app : AppState} {req : IncomingRequest}

theorem schemeOf_eq_https (useHttps : Bool) : (schemeOf useHttps == "https") = useHttps := by
  cases useHttps <;> rfl

/-- Without its port the URI of a scheme leads to the port that has been left out. -/
theorem updatePort_connectPort (useHttps : Bool) (host : String) (port : Option UInt16)
    (newPort : UInt16) :
    (updatePort ⟨schemeOf useHttps, host, port⟩ newPort useHttps).connectPort = newPort := by
  unfold updatePort Uri.connectPort
  rw [schemeOf_eq_https]
  split_ifs with hstandard
  · exact hstandard.symm
  · rfl

theorem getD_eq_beq (https : Option Bool) : https.getD false = (https == some true) := by
  cases https with
  | none => rfl
  | some https => cases https <;> rfl

/-- An ordinary request is always sent as the record asks. -/
theorem forwardHttp_agrees {outgoing : Outgoing}
    (hforward : service.forwardHttp network counts app req = some outgoing)
    (hreads : network.http.Reads outgoing.backend req) :
    FollowsRecord outgoing.backend (some outgoing.connection) := by
  obtain ⟨-, override, hproxy⟩ := forwardHttp_proxy hforward
  obtain ⟨-, -, huri, -⟩ := proxy_eq_some hreads hproxy
  unfold FollowsRecord Outgoing.connection Outgoing.tls
  rw [huri]
  dsimp only [Option.getD_some]
  rw [updatePort_connectPort, ← getD_eq_beq]
  exact congrArg (fun tls => some (Connection.mk _ tls)) (schemeOf_eq_https _)

/-! ## Websockets -/

/-- The scheme of the URL decides, and no other scheme is opened. -/
theorem connectAsync_iff {http : HttpCrate} {site : Site} {url scheme host : String}
    {port : UInt16} {connection : Connection}
    (hparse : http.parseUri url = some ⟨scheme, host, some port⟩) :
    (connectAsync http site url).map WsConnection.connection = some connection ↔
      port = connection.port ∧ scheme = if connection.tls then "wss" else "ws" := by
  obtain ⟨wanted, tls⟩ := connection
  unfold connectAsync
  rw [hparse]
  dsimp only [Option.getD_some]
  by_cases hwss : scheme = "wss"
  · rw [if_pos hwss, hwss]
    cases tls <;> simp [WsConnection.connection]
  · rw [if_neg hwss]
    by_cases hws : scheme = "ws"
    · rw [if_pos hws, hws]
      cases tls <;> simp [WsConnection.connection]
    · rw [if_neg hws]
      cases tls <;> simp [hwss, hws]

theorem wsProto_eq (enforceHttps : Bool) :
    (service.wsProto enforceHttps req = if enforceHttps then "wss" else "ws") ↔
      enforceHttps = true ∨ ClearWs service.isHttps req := by
  unfold ReverseProxyService.wsProto ClearWs
  cases enforceHttps with
  | true => simp
  | false =>
    rw [if_neg Bool.false_ne_true, if_neg Bool.false_ne_true]
    cases req.uriScheme with
    | some scheme => simp
    | none => cases service.isHttps <;> simp

/-- A websocket follows the record exactly where the port that is taken is the record's and the
scheme is the one of its setting. -/
theorem forwardWs_follows_iff {site : Site} {backend : Backend} {host : String} {port : UInt16}
    (hselect : app.global.handleWs req.toRequest = .site site)
    (htarget : wsTarget counts site = some (host, port, backend.https.getD false))
    (hreads : ReadsUrls service network counts app req backend) :
    FollowsRecord backend
        ((service.forwardWs network.http counts app req).map WsConnection.connection) ↔
      port ≠ 0 ∧ port = backend.port ∧
        (backend.https = some true ∨ ClearWs service.isHttps req) := by
  have hparse := hreads.upgrade site host port _ hselect htarget
  unfold FollowsRecord ReverseProxyService.forwardWs
  rw [hselect]
  dsimp only
  rw [htarget]
  dsimp only
  by_cases hzero : port = 0
  · simp [hzero]
  · rw [if_neg hzero, connectAsync_iff hparse, ← getD_eq_beq, wsProto_eq, getD_eq_beq, beq_iff_eq]
    simp [hzero]

/-! ## Both kinds of requests -/

/-- A target of a websocket has the setting of the record, and its port where it is up. -/
theorem wsTarget_of_record {site : Site} {backend : Backend}
    (hrecord : wsRecord network counts service.configuration site = some backend) :
    ∃ host port, wsTarget counts site = some (host, port, backend.https.getD false) ∧
      (∀ process, site = .hostedProcess process → port = process.activePort.getD 0) ∧
      ((∀ process, site ≠ .hostedProcess process) → port = backend.port) := by
  unfold wsRecord at hrecord
  split at hrecord
  · next remote =>
    refine ⟨backend.address, backend.port, ?_, ?_, fun _ => rfl⟩
    · unfold wsTarget
      dsimp only
      rw [hrecord]
      rfl
    · rintro process ⟨⟩
  · next process =>
    obtain ⟨port, -, rfl⟩ := Option.map_eq_some_iff.mp hrecord
    refine ⟨process.hostName, process.activePort.getD 0, rfl, ?_, ?_⟩
    · rintro _ ⟨⟩
      rfl
    · intro hnot
      exact absurd rfl (hnot process)
  · contradiction

/-- An upgrade follows the record exactly where it has to be opened the right way. -/
theorem upgrade_follows_iff {site : Site} {backend : Backend}
    (hselect : app.global.handleWs req.toRequest = .site site)
    (hrecord : wsRecord network counts service.configuration site = some backend)
    (hreads : ReadsUrls service network counts app req backend) :
    FollowsRecord backend
        ((service.forwardWs network.http counts app req).map WsConnection.connection) ↔
      UpgradeAgrees service app req backend := by
  obtain ⟨host, port, htarget, hhosted, hremote⟩ := wsTarget_of_record hrecord
  rw [forwardWs_follows_iff hselect htarget hreads]
  constructor
  · rintro ⟨hport, hsame, htls⟩
    refine ⟨hsame ▸ hport, htls, ?_⟩
    intro process hprocess
    have hsite : site = .hostedProcess process :=
      Selection.site.inj (hselect.symm.trans hprocess)
    rw [hhosted process hsite] at hport hsame
    cases hactive : process.activePort with
    | none =>
      rw [hactive] at hport
      contradiction
    | some active =>
      rw [hactive] at hsame
      exact congrArg some hsame
  · rintro ⟨hport, htls, hactive⟩
    have hsame : port = backend.port := by
      cases site with
      | hostedProcess process =>
        rw [hhosted process rfl, hactive process hselect]
        rfl
      | remoteTarget remote => exact hremote (by rintro process ⟨⟩)
      | docker name remote => exact hremote (by rintro process ⟨⟩)
      | dirServer dir => exact hremote (by rintro process ⟨⟩)
    exact ⟨hsame ▸ hport, hsame, htls⟩

/-- **Agreement with the record**: what is served follows its record exactly where it is an
ordinary request or an upgrade that is opened the right way; and an upgrade goes where an
ordinary request for the same record goes exactly in that case. -/
theorem backend_agreement_iff {backend : Backend} {connection : Option Connection}
    (hserved : Served service network counts app req backend connection)
    (hreads : ReadsUrls service network counts app req backend) :
    (FollowsRecord backend connection ↔
        (req.isUpgradeRequest = true → UpgradeAgrees service app req backend)) ∧
      ∀ service' counts' app' req' other,
        Served service' network counts' app' req' backend other →
        ReadsUrls service' network counts' app' req' backend → req'.isUpgradeRequest = false →
        (connection = other ↔
          (req.isUpgradeRequest = true → UpgradeAgrees service app req backend)) := by
  have hfollows : FollowsRecord backend connection ↔
      (req.isUpgradeRequest = true → UpgradeAgrees service app req backend) := by
    cases hserved with
    | ordinary hkind hforward =>
      rw [hkind]
      simp [forwardHttp_agrees hforward hreads.ordinary]
    | upgrade hkind hselect hrecord =>
      rw [upgrade_follows_iff hselect hrecord hreads, hkind]
      simp
  refine ⟨hfollows, ?_⟩
  intro service' counts' app' req' other hother hreads' hkind'
  rw [← hfollows]
  cases hother with
  | ordinary _ hforward =>
    have hsame : some _ = some _ := forwardHttp_agrees hforward hreads'.ordinary
    rw [hsame]
    rfl
  | upgrade hkind _ _ =>
    rw [hkind'] at hkind
    contradiction

end

/-! ## A client on TLS -/

def elsewhereOnly : OddBoxV3Config := withRemotes [elsewhere none]

/-- A request for the site on another machine, whose backend has no TLS. -/
def forElsewhere (isUpgradeRequest : Bool) : IncomingRequest :=
  rootRequest (.text "site.test") isUpgradeRequest

def ServedElsewhere (isHttps isUpgradeRequest : Bool) : Option Connection → Prop :=
  Served (unpeekedService elsewhereOnly isHttps) (networkOn 0) (fun _ => none)
    (freshApp elsewhereOnly) (forElsewhere isUpgradeRequest) otherMachine

theorem handleWs_elsewhere (isUpgradeRequest : Bool) :
    (freshApp elsewhereOnly).global.handleWs (forElsewhere isUpgradeRequest).toRequest =
      .site (.remoteTarget (elsewhere none)) := by
  cases isUpgradeRequest <;> decide +kernel

/-- Where the client has TLS, the websocket gets it too. -/
theorem upgrade_servedElsewhere (isHttps : Bool) :
    ServedElsewhere isHttps true (some ⟨8080, isHttps⟩) := by
  have hopened : ((unpeekedService elsewhereOnly isHttps).forwardWs (networkOn 0).http
      (fun _ => none) (freshApp elsewhereOnly) (forElsewhere true)).map WsConnection.connection =
        some ⟨8080, isHttps⟩ := by
    cases isHttps <;> decide +kernel
  unfold ServedElsewhere
  rw [← hopened]
  apply Served.upgrade rfl (handleWs_elsewhere true)
  cases isHttps <;> decide +kernel

theorem ordinary_servedElsewhere : ServedElsewhere true false (some ⟨8080, false⟩) :=
  .ordinary rfl (forwardHttp_elsewhere none)

theorem readsUrls_elsewhere (isHttps isUpgradeRequest : Bool) :
    ReadsUrls (unpeekedService elsewhereOnly isHttps) (networkOn 0) (fun _ => none)
      (freshApp elsewhereOnly) (forElsewhere isUpgradeRequest) otherMachine := by
  constructor
  · cases isUpgradeRequest <;> exact reads_otherMachine
  · intro site host port enforceHttps hselect htarget
    have hsite := Selection.site.inj
      (hselect.symm.trans (handleWs_elsewhere isUpgradeRequest))
    have hrecord : wsTarget (fun _ => none) (.remoteTarget (elsewhere none)) =
        some ("backend.test", 8080, false) := by
      decide +kernel
    rw [hsite, hrecord] at htarget
    cases htarget
    cases isHttps <;> cases isUpgradeRequest <;> decide +kernel

/-- Of a client without TLS the websocket goes where an ordinary request goes. -/
theorem clearUpgrade_follows :
    FollowsRecord otherMachine (some ⟨8080, false⟩) ∧
      ServedElsewhere false true (some ⟨8080, false⟩) := by
  refine ⟨?_, upgrade_servedElsewhere false⟩
  apply (backend_agreement_iff (upgrade_servedElsewhere false)
    (readsUrls_elsewhere false true)).1.mpr
  intro _
  refine ⟨by decide, .inr (.inr ⟨rfl, rfl⟩), ?_⟩
  intro process hprocess
  rw [handleWs_elsewhere] at hprocess
  cases hprocess

/-- Of a client on TLS it does not: the backend is spoken to by TLS that it does not have. -/
theorem tlsUpgrade_differs :
    ServedElsewhere true true (some ⟨8080, true⟩) ∧
      ServedElsewhere true false (some ⟨8080, false⟩) ∧
      ¬FollowsRecord otherMachine (some ⟨8080, true⟩) := by
  refine ⟨upgrade_servedElsewhere true, ordinary_servedElsewhere, ?_⟩
  unfold FollowsRecord
  decide

end OddBox.Proxy
