import RcProtocol.Gateway.Auth
import RcProtocol.Library.PrefixTable
import RcProtocol.Library.ReverseProxy

/-!
The router of the gateway (go-gateway, proxy/router.go): which service a path belongs
to, and the request that service is sent.
-/

namespace RcProtocol.Gateway
open Library

inductive Upstream where
  | rcApi
  | goBff
  | goIam
  | goWorkorder
  deriving DecidableEq

/-- The base URL of each service; the empty text is one that is not configured. -/
structure Config where
  rcApiUpstream : String
  goBffUpstream : String
  goIamUpstream : String
  goWorkorderUpstream : String

def Config.url (cfg : Config) : Upstream → String
  | .rcApi => cfg.rcApiUpstream
  | .goBff => cfg.goBffUpstream
  | .goIam => cfg.goIamUpstream
  | .goWorkorder => cfg.goWorkorderUpstream

structure Route where
  routePrefix : String
  stripPrefix : String
  upstream : Upstream
  deriving DecidableEq

def routes : List Route :=
  [⟨"/api/verify", "/api", .rcApi⟩,
    ⟨"/api/protocol/", "/api/protocol", .rcApi⟩,
    ⟨"/api/brands/", "/api", .rcApi⟩,
    ⟨"/api/brands", "/api", .rcApi⟩,
    ⟨"/api/factory/quick-log", "/api", .rcApi⟩,
    ⟨"/api/bff/", "/api/bff", .goBff⟩,
    ⟨"/api/iam/", "/api/iam", .goIam⟩,
    ⟨"/api/workorder/", "/api/workorder", .goWorkorder⟩]

/-- Of a parsed base URL, what the gateway puts in the place of its own. -/
structure Target where
  scheme : String
  host : String
  deriving DecidableEq

/-- A request as it is sent to a service. -/
structure Forwarded where
  upstream : Upstream
  target : Target
  path : String
  rawPath : String
  header : Header
  deriving DecidableEq

inductive Routed where
  | healthz
  | refused (rejection : Rejection)
  | forwarded (request : Forwarded)
  deriving DecidableEq

section Router
variable (cfg : Config) (parse : String → Option Target) (clientIP : Option String)
  (rawPath : String) (r : Request)

/-- A path stripped of the gateway's part. -/
def strippedPath (path stripPrefix : String) : String :=
  let path := trimPrefix path stripPrefix
  if path = "" then "/" else path

def serveProxy (route : Route) (traceID : String) : Routed :=
  match parse (cfg.url route.upstream) with
  | none => .refused ⟨502, "UPSTREAM_FAILURE", "invalid upstream URL", traceID⟩
  | some target =>
      .forwarded
        { upstream := route.upstream
          target := target
          path := strippedPath r.path route.stripPrefix
          rawPath := if rawPath ≠ "" then trimPrefix rawPath route.stripPrefix else rawPath
          header := r.header.passedOn clientIP }

/-- The first route whose prefix the path has. -/
def matchRoute (path : String) : Option Route :=
  routes.find? fun route => hasPrefix path route.routePrefix

/-- What becomes of a request from a client at an address. `rawPath` is the path as the
client encoded it, when that is not the usual way; `url.Parse` is an argument. -/
def newRouter : Routed :=
  let traceID := r.header.get traceIDHeader
  if r.path = "/healthz" then .healthz
  else
    match matchRoute r.path with
    | none => .refused ⟨404, "NOT_FOUND", "no matching route", traceID⟩
    | some route =>
        if cfg.url route.upstream = "" then
          .refused ⟨503, "UPSTREAM_FAILURE", "upstream service not configured", traceID⟩
        else serveProxy cfg parse clientIP rawPath r route traceID

/-- Every service has a base URL that can be read. -/
def Config.Configured : Prop :=
  ∀ upstream, cfg.url upstream ≠ "" ∧ (parse (cfg.url upstream)).isSome = true

variable {cfg parse clientIP rawPath r} {route : Route} {request : Forwarded} {s path : String}

theorem hasPrefix_iff : hasPrefix path s = true ↔ s.toList <+: path.toList :=
  List.isPrefixOf_iff_prefix

theorem matchRoute_eq_firstMatch :
    matchRoute path = firstMatch (·.routePrefix.toList) routes path.toList := rfl

/-- A request is passed on along the route of its path. -/
theorem forwarded_route (h : newRouter cfg parse clientIP rawPath r = .forwarded request) :
    ∃ route, matchRoute r.path = some route ∧ request.upstream = route.upstream ∧
      request.path = strippedPath r.path route.stripPrefix := by
  unfold newRouter at h
  dsimp only at h
  split at h
  · cases h
  split at h
  · cases h
  next route hroute =>
  split at h
  · cases h
  unfold serveProxy at h
  split at h
  · cases h
  cases h
  exact ⟨route, hroute, rfl, rfl⟩

variable (clientIP rawPath) in
/-- A path with a route is passed on along it, with what the reverse proxy leaves of the header. -/
theorem forwarded_of_route (hconfigured : cfg.Configured parse) (hhealthz : r.path ≠ "/healthz")
    (hroute : matchRoute r.path = some route) :
    ∃ request, newRouter cfg parse clientIP rawPath r = .forwarded request ∧
      request.upstream = route.upstream ∧
      request.path = strippedPath r.path route.stripPrefix ∧
      request.header = r.header.passedOn clientIP := by
  obtain ⟨hurl, hparsed⟩ := hconfigured route.upstream
  obtain ⟨target, htarget⟩ := Option.isSome_iff_exists.mp hparsed
  unfold newRouter
  simp only [if_neg hhealthz, hroute, if_neg hurl, serveProxy, htarget]
  exact ⟨_, rfl, rfl, rfl, rfl⟩

/-- A path with no route reaches no service. -/
theorem not_forwarded (hroute : matchRoute r.path = none) :
    newRouter cfg parse clientIP rawPath r ≠ .forwarded request := by
  intro h
  obtain ⟨route, hfound, -⟩ := forwarded_route h
  rw [hroute] at hfound
  cases hfound

end Router

end RcProtocol.Gateway
