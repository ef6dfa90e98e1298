import OddBox.Api.Controllers

/-!
`OddBoxAPI`: the routes of the admin API and the password that they ask for. Documentation,
the event stream and the files of the web interface have no effects.
-/

namespace OddBox.Api

open OddBox.Configuration OddBox.Routing OddBox.TcpProxy

/-! ## Routes -/

inductive Handler where
  | stop
  | start
  | updateSite
  | listSites
  | deleteSite
  | startSite
  | stopSite
  | siteStatus
  | setSettings
  | getSettings
  deriving DecidableEq, Repr

/-- The routes that `validate_request` is a layer of, without the documentation. -/
def routes : List (String × Method × Handler) :=
  [("/STOP", .get, .stop),
    ("/START", .get, .start),
    ("/api/sites", .post, .updateSite),
    ("/api/sites", .get, .listSites),
    ("/api/sites", .delete, .deleteSite),
    ("/api/sites/start", .put, .startSite),
    ("/api/sites/stop", .put, .stopSite),
    ("/api/sites/status", .get, .siteStatus),
    ("/api/settings", .post, .setSettings),
    ("/api/settings", .get, .getSettings)]

/-- A route for GET takes HEAD too. -/
def Method.serves (route : Method) (method : Method) : Bool :=
  route == method || route == .get && method == .head

def findRoute (req : HttpRequest) : Option Handler :=
  (routes.find? fun route => route.1 == req.path && route.2.1.serves req.method).map (·.2.2)

def Handler.run (outside : Outside) (app : AppState) (req : HttpRequest) : Handler → Effect
  | .stop => stopHandler outside app req
  | .start => startHandler outside app req
  | .updateSite => updateHandler outside app req
  | .deleteSite => deleteHandler outside app req
  | .startSite => sitesStartHandler outside app req
  | .stopSite => sitesStopHandler outside app req
  | .setSettings => setSettingsHandler outside app req
  | .listSites => app.unchanged
  | .siteStatus => app.unchanged
  | .getSettings => app.unchanged

/-! ## The password -/

def startsWith (text start : String) : Bool := start.toList.isPrefixOf text.toList

def documentation : List String := ["/api-docs/", "/swagger-ui", "/rapidoc", "/redoc"]

/-- The request has the password, where one is set. -/
def authorized (config : OddBoxV3Config) (req : HttpRequest) : Bool :=
  match config.oddBoxPassword with
  | some pwd => req.authorization == some pwd.toUTF8.toList
  | none => true

/-- Whether `validate_request` runs what it is a layer of. -/
def validateRequest (config : OddBoxV3Config) (req : HttpRequest) : Bool :=
  req.method == .get && documentation.any (startsWith req.path) || authorized config req

def handleRequest (outside : Outside) (app : AppState) (req : HttpRequest) : Effect :=
  match findRoute req with
  | some handler =>
    if validateRequest app.global.config req then handler.run outside app req else app.unchanged
  | none => app.unchanged

/-! ## What a request can do -/

theorem findRoute_eq_some {req : HttpRequest} {handler : Handler}
    (h : findRoute req = some handler) :
    ∃ route ∈ routes, route.1 = req.path ∧ route.2.2 = handler := by
  obtain ⟨route, hfind, hhandler⟩ := Option.map_eq_some_iff.mp h
  have hmatch := List.find?_some hfind
  rw [Bool.and_eq_true, beq_iff_eq] at hmatch
  exact ⟨route, List.mem_of_find?_eq_some hfind, hmatch.1, hhandler⟩

/-- No path of a handler is one of the documentation, which needs no password. -/
theorem validateRequest_of_route {config : OddBoxV3Config} {req : HttpRequest} {handler : Handler}
    (h : findRoute req = some handler) : validateRequest config req = authorized config req := by
  have hroutes : ∀ route ∈ routes, documentation.any (startsWith route.1) = false := by decide
  obtain ⟨route, hmem, hpath, -⟩ := findRoute_eq_some h
  have hpublic := hroutes route hmem
  rw [hpath] at hpublic
  rw [validateRequest, hpublic, Bool.and_false, Bool.false_or]

/-- Without the password nothing is done. -/
theorem handleRequest_unauthorized {outside : Outside} {app : AppState} {req : HttpRequest}
    (h : authorized app.global.config req = false) :
    handleRequest outside app req = app.unchanged := by
  unfold handleRequest
  cases hroute : findRoute req with
  | none => rfl
  | some handler =>
    simp only [validateRequest_of_route hroute, h, Bool.false_eq_true, if_false]

section Handlers

variable {outside : Outside} {app : AppState} {req : HttpRequest}

theorem signalHandler_app (all : Proxy.ProcMessage) (one : String → Proxy.ProcMessage) :
    (signalHandler outside all one app req).app = app := by
  unfold signalHandler
  split <;> rfl

theorem saveSites_config (config : OddBoxV3Config) :
    (saveSites outside app config).app.global.config = app.global.config := by
  simp only [saveSites]
  split <;> rfl

theorem updateHandler_config :
    (updateHandler outside app req).app.global.config = app.global.config := by
  simp only [updateHandler]
  split
  · split
    · rfl
    · exact saveSites_config _
  · rfl

theorem deleteHandler_config :
    (deleteHandler outside app req).app.global.config = app.global.config := by
  unfold deleteHandler
  split
  · split
    · simp only
      split <;> rfl
    · rfl
  · rfl

theorem setSettingsHandler_app : (setSettingsHandler outside app req).app = app := by
  unfold setSettingsHandler
  split
  · rfl
  · split
    · rfl
    · simp only
      split <;> rfl

/-- The running configuration is left to the reload. -/
theorem handleRequest_config :
    (handleRequest outside app req).app.global.config = app.global.config := by
  unfold handleRequest
  split
  · rename_i handler _
    split
    · cases handler with
      | stop => rfl
      | start => rfl
      | updateSite => exact updateHandler_config
      | listSites => rfl
      | deleteSite => exact deleteHandler_config
      | startSite => exact congrArg (·.global.config) (signalHandler_app _ _)
      | stopSite => exact congrArg (·.global.config) (signalHandler_app _ _)
      | siteStatus => rfl
      | setSettings => exact congrArg (·.global.config) setSettingsHandler_app
      | getSettings => rfl
    · rfl
  · rfl

end Handlers

end OddBox.Api
