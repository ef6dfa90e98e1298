import OddBox.Routing.Agreement

/-!
Whether a site can stand in front of another: the resolver is asked first, and
where it finds nothing the HTTP handler chooses without a peeked target.
-/

namespace OddBox.Routing

open OddBox.FirstMatch OddBox.Str OddBox.Configuration

/-- Where a request goes, by the resolver or else by the HTTP handler. -/
def GlobalState.resolve (state : GlobalState) (mapping : CaseMapping) (host : String)
    (req : Request) (isHttps : Bool) : Selection :=
  match (state.tryFindSite mapping host).1 with
  | .yes target => .site target.site
  | .no => state.handleHttpRequest req isHttps none
  | .failed => .error

/-- The resolver captures every subdomain for a container. -/
def Site.captureSubdomains : Site → Bool
  | .dirServer site => site.captureSubdomains.getD false
  | .docker _ _ => true
  | .hostedProcess site => site.captureSubdomains.getD false
  | .remoteTarget site => site.captureSubdomains.getD false

section Shadowing

variable (state : GlobalState) (mapping : CaseMapping) (host : String) (req : Request)
  (isHttps : Bool)

end Shadowing

section Resolve

variable {state : GlobalState} {mapping : CaseMapping} {host : String} {req : Request}
  {isHttps : Bool}

end Resolve

/-! ## Two remote targets -/

end OddBox.Routing
