import RcProtocol.Bff.Claims
import RcProtocol.Gateway.Router
import RcProtocol.IdentityHeaders

/-!
The ways into the system without a token: a scan by anyone, and a brand with its API
key. The gateway names the paths of both in one table and routes them by another, and
what it puts on a request with a key is read by a third party, go-bff. On most requests
the three agree.
-/

namespace RcProtocol
open Library Gateway

/-- The paths rc-api verifies at (routes/verify.rs, `router`). -/
def verifyRoutes : List String := ["/verify", "/verify/v2"]

section Stages
variable (p : Primitives) (parseWithClaims : String → Option Gateway.Claims)
  (cfg : Config) (parse : String → Option Target) (clientIP : Option String) (rawPath : String)

/-- The request goes on because of its API key, of which the form is all that is checked. -/
structure AdmittedByKey (r next : Request) : Prop where
  admitted : auth p parseWithClaims r = .ok next
  notPublic : isPublicPath r.path = false
  wellFormed : hasPrefix (r.header.get apiKeyHeader) apiKeyPrefix = true

/-- What the tables and headers of the stages promise each other about a request. -/
structure StagesAgree (r : Request) : Prop where
  routed : hasPrefix r.path "/api/" = true →
    isPublicPath r.path = true ∨ supportsApiKey r.path = true →
      ∃ request, newRouter cfg parse clientIP rawPath r = .forwarded request
  scanPublic : ∀ request, newRouter cfg parse clientIP rawPath r = .forwarded request →
    request.upstream = .rcApi → request.path ∈ verifyRoutes → isPublicPath r.path = true
  keyIdentified : ∀ next, AdmittedByKey p parseWithClaims r next →
    ∀ request, newRouter cfg parse clientIP rawPath next = .forwarded request →
      request.upstream = .goBff → (Bff.parseClaims request.header).isOk = true

end Stages

/-- Admitted under a version no route has. -/
def versionedPrefixes : List String := ["/api/v1/verify", "/api/v1/batches", "/api/v1/assets/"]

/-- Where a scan is routed from. -/
def scanPaths : List String :=
  ["/api/verify", "/api/verify/v2", "/api/protocol/verify", "/api/protocol/verify/v2"]

/-- The routes of go-bff an API key is declared for. -/
def keyedPrefixes : List String :=
  ["/api/bff/console/brands/", "/api/bff/console/dashboard", "/api/bff/app/assets"]

/-- The request is none of those the stages treat differently. -/
structure Unaffected (r : Request) : Prop where
  unversioned : ∀ start ∈ versionedPrefixes, hasPrefix r.path start = false
  noScan : r.path ∉ scanPaths
  notKeyed : hasPrefix (r.header.get apiKeyHeader) apiKeyPrefix = true →
    ∀ start ∈ keyedPrefixes, hasPrefix r.path start = false

section Paths
variable {path start : String} {r next : Request} {request : Forwarded} {route : Route}

theorem admitted_iff : isPublicPath path = true ∨ supportsApiKey path = true ↔
    ∃ start ∈ publicPrefixes ++ apiKeyRoutes, hasPrefix path start = true := by
  rw [isPublicPath, supportsApiKey, List.any_eq_true, List.any_eq_true]
  constructor
  · rintro (⟨start, hstart, hpath⟩ | ⟨start, hstart, hpath⟩)
    · exact ⟨start, List.mem_append_left _ hstart, hpath⟩
    · exact ⟨start, List.mem_append_right _ hstart, hpath⟩
  · rintro ⟨start, hstart, hpath⟩
    obtain hstart | hstart := List.mem_append.mp hstart
    · exact .inl ⟨start, hstart, hpath⟩
    · exact .inr ⟨start, hstart, hpath⟩

theorem matchRoute_versioned (hstart : start ∈ versionedPrefixes)
    (hpath : hasPrefix path start = true) : matchRoute path = none := by
  have hapart : ∀ start ∈ versionedPrefixes, ∀ route ∈ routes,
      ¬Comparable route.routePrefix.toList start.toList := by decide
  rw [matchRoute_eq_firstMatch]
  exact firstMatch_eq_none (hasPrefix_iff.mp hpath) (hapart start hstart)

/-- Every other prefix of the tables is under the prefix of a route, and no route above that
route can take its paths. -/
theorem matchRoute_admitted (hapi : hasPrefix path "/api/" = true)
    (hstart : start ∈ publicPrefixes ++ apiKeyRoutes) (hpath : hasPrefix path start = true)
    (hunversioned : ∀ start ∈ versionedPrefixes, hasPrefix path start = false) :
    ∃ route, matchRoute path = some route := by
  have htables : ∀ start ∈ publicPrefixes ++ apiKeyRoutes,
      Comparable start.toList "/api/".toList →
        (∃ v ∈ versionedPrefixes, v.toList <+: start.toList) ∨
          ∃ route ∈ routes, route.routePrefix.toList <+: start.toList ∧
            routes.find? (fun e => Comparable e.routePrefix.toList start.toList) = some route := by
    decide
  have hbegins := hasPrefix_iff.mp hpath
  obtain ⟨v, hv, hcovered⟩ | ⟨route, -, hcovered, hfirst⟩ :=
    htables start hstart (comparable_of_begins hbegins (hasPrefix_iff.mp hapi))
  · have hversioned := hasPrefix_iff.mpr (hcovered.trans hbegins)
    rw [hunversioned v hv] at hversioned
    cases hversioned
  · refine ⟨route, ?_⟩
    rw [matchRoute_eq_firstMatch]
    exact firstMatch_of_begins hbegins hfirst hcovered

theorem matchRoute_keyed (hstart : start ∈ keyedPrefixes) (hpath : hasPrefix path start = true) :
    matchRoute path = some ⟨"/api/bff/", "/api/bff", .goBff⟩ := by
  have htable : ∀ start ∈ keyedPrefixes, "/api/bff/".toList <+: start.toList ∧
      routes.find? (fun e => Comparable e.routePrefix.toList start.toList) =
        some ⟨"/api/bff/", "/api/bff", .goBff⟩ := by decide
  obtain ⟨hcovered, hfirst⟩ := htable start hstart
  rw [matchRoute_eq_firstMatch]
  exact firstMatch_of_begins (hasPrefix_iff.mp hpath) hfirst hcovered

/-- A path of the console a key is declared for is not a public one. -/
theorem keyed_supported (hstart : start ∈ keyedPrefixes) (hpath : hasPrefix path start = true) :
    isPublicPath path = false ∧ supportsApiKey path = true := by
  have hapart : ∀ start ∈ keyedPrefixes, ∀ s ∈ publicPrefixes,
      ¬Comparable s.toList start.toList := by decide
  have hdeclared : ∀ start ∈ keyedPrefixes, start ∈ apiKeyRoutes := by decide
  constructor
  · rw [isPublicPath, List.any_eq_false]
    intro s hs hbegins
    exact hapart start hstart s hs
      (comparable_of_begins (hasPrefix_iff.mp hbegins) (hasPrefix_iff.mp hpath))
  · exact List.any_eq_true.mpr ⟨start, hdeclared start hstart, hpath⟩

/-- What a key is declared for and go-bff receives is on one of its keyed routes. -/
theorem keyed_of_goBff (hsupported : supportsApiKey path = true)
    (hroute : matchRoute path = some route) (hupstream : route.upstream = .goBff) :
    ∃ start ∈ keyedPrefixes, hasPrefix path start = true := by
  have htable : ∀ route ∈ routes, route.upstream = .goBff → ∀ start ∈ apiKeyRoutes,
      Comparable start.toList route.routePrefix.toList →
        ∃ v ∈ keyedPrefixes, v.toList <+: start.toList := by decide
  rw [matchRoute_eq_firstMatch] at hroute
  obtain ⟨hmem, hbegins⟩ := firstMatch_begins hroute
  obtain ⟨start, hstart, hpath⟩ := List.any_eq_true.mp hsupported
  obtain ⟨v, hv, hcovered⟩ := htable route hmem hupstream start hstart
    (comparable_of_begins (hasPrefix_iff.mp hpath) hbegins)
  exact ⟨v, hv, hasPrefix_iff.mpr (hcovered.trans (hasPrefix_iff.mp hpath))⟩

theorem strippedPath_eq {stripPrefix rest : String} (hpath : hasPrefix path stripPrefix = true)
    (hrest : rest ≠ "/") (h : strippedPath path stripPrefix = rest) :
    path = stripPrefix ++ rest := by
  simp only [strippedPath] at h
  split at h
  · exact absurd h.symm hrest
  · rw [← h]
    exact hasPrefix_append hpath

/-- rc-api is asked to verify from the paths of a scan only. -/
theorem scan_of_verify (hroute : matchRoute path = some route) (hupstream : route.upstream = .rcApi)
    (hverify : strippedPath path route.stripPrefix ∈ verifyRoutes) : path ∈ scanPaths := by
  have htable : ∀ route ∈ routes, route.stripPrefix.toList <+: route.routePrefix.toList ∧
      (route.upstream = .rcApi → ∀ rest ∈ verifyRoutes,
        route.routePrefix.toList <+: (route.stripPrefix ++ rest).toList →
          route.stripPrefix ++ rest ∈ scanPaths) := by decide
  have hlong : ∀ rest ∈ verifyRoutes, rest ≠ "/" := by decide
  rw [matchRoute_eq_firstMatch] at hroute
  obtain ⟨hmem, hbegins⟩ := firstMatch_begins hroute
  obtain ⟨hstrip, hscan⟩ := htable route hmem
  have hpath := strippedPath_eq (hasPrefix_iff.mpr (hstrip.trans hbegins)) (hlong _ hverify) rfl
  rw [hpath] at hbegins ⊢
  exact hscan hupstream _ hverify hbegins

/-- A scan is routed to where rc-api verifies, and is not public. -/
theorem verify_of_scan (hpath : path ∈ scanPaths) :
    isPublicPath path = false ∧ path ≠ "/healthz" ∧ ∃ route ∈ routes,
      matchRoute path = some route ∧ route.upstream = .rcApi ∧
        strippedPath path route.stripPrefix ∈ verifyRoutes := by
  have htable : ∀ path ∈ scanPaths, isPublicPath path = false ∧ path ≠ "/healthz" ∧
      ∃ route ∈ routes, matchRoute path = some route ∧ route.upstream = .rcApi ∧
        strippedPath path route.stripPrefix ∈ verifyRoutes := by decide
  exact htable path hpath

end Paths

section Requests
variable {p : Primitives} {parseWithClaims : String → Option Gateway.Claims} {cfg : Config}
  {parse : String → Option Target} {clientIP : Option String} {rawPath : String}
  {r next : Request} {start : String}

/-- Under a path a well-formed key is declared for, Auth lets the request through on it. -/
theorem admitted_of_key (hpublic : isPublicPath r.path = false)
    (hsupported : supportsApiKey r.path = true)
    (hform : hasPrefix (r.header.get apiKeyHeader) apiKeyPrefix = true) :
    ∃ next, AdmittedByKey p parseWithClaims r next := by
  have hkept : (claimsHeaders.foldl Header.del r.header).get apiKeyHeader =
      r.header.get apiKeyHeader := get_stripped (by decide)
  have hpresent : r.header.get apiKeyHeader ≠ "" := by
    intro hnone
    rw [hnone] at hform
    exact absurd hform (by decide)
  have hadmitted : (auth p parseWithClaims r).isOk = true := by
    simp [auth, hkept, hpublic, hpresent, hsupported, hform, Except.isOk, Except.toBool]
  cases hauth : auth p parseWithClaims r with
  | error rejection =>
      rw [hauth] at hadmitted
      cases hadmitted
  | ok next => exact ⟨next, hauth, hpublic, hform⟩

/-- On a key a request goes on with its path, and with no subject. -/
theorem AdmittedByKey.unnamed (h : AdmittedByKey p parseWithClaims r next) :
    supportsApiKey r.path = true ∧ next.path = r.path ∧
      next.header.values "X-Claims-Sub" = [] := by
  cases auth_forwards h.admitted with
  | unchecked hpath => exact absurd (hpath.symm.trans h.notPublic) (by decide)
  | hashed hpath hkey hroute hform =>
      refine ⟨hroute, rfl, ?_⟩
      simp only [Request.set]
      rw [Header.values_set_other (by decide), Header.values_set_other (by decide),
        Header.values_set_other (by decide), Header.values_dels, if_pos (by decide)]
  | claimed hpath hkey htoken hparse hrole =>
      have hform := h.wellFormed
      rw [hkey] at hform
      exact absurd hform (by decide)

variable (clientIP rawPath) in
/-- The keyed routes of go-bff are closed to every key. -/
theorem keyed_refused (hconfigured : cfg.Configured parse) (hstart : start ∈ keyedPrefixes)
    (hpath : hasPrefix r.path start = true) (h : AdmittedByKey p parseWithClaims r next) :
    ∃ request, newRouter cfg parse clientIP rawPath next = .forwarded request ∧
      request.upstream = .goBff ∧ (Bff.parseClaims request.header).isOk = false := by
  obtain ⟨-, hnext, hunnamed⟩ := h.unnamed
  rw [← hnext] at hpath
  have hhealthz : next.path ≠ "/healthz" := by
    intro hpathz
    have hapart : ∀ start ∈ keyedPrefixes, hasPrefix "/healthz" start = false := by decide
    rw [hpathz, hapart start hstart] at hpath
    cases hpath
  obtain ⟨request, hforwarded, hupstream, -, hheader⟩ :=
    forwarded_of_route clientIP rawPath hconfigured hhealthz
      (matchRoute_keyed hstart hpath)
  have hnone : request.header.values "X-Claims-Sub" = [] := by
    have hsubset : (next.header.passedOn clientIP).values "X-Claims-Sub" ⊆
        next.header.values "X-Claims-Sub" := Header.values_passedOn (by decide)
    rw [hheader]
    rw [hunnamed] at hsubset
    exact List.subset_nil.mp hsubset
  refine ⟨request, hforwarded, hupstream, ?_⟩
  rw [Bff.parseClaims_unnamed hnone]
  rfl

theorem routed_of_unversioned (hconfigured : cfg.Configured parse)
    (hunversioned : ∀ start ∈ versionedPrefixes, hasPrefix r.path start = false)
    (hapi : hasPrefix r.path "/api/" = true)
    (hadmitted : isPublicPath r.path = true ∨ supportsApiKey r.path = true) :
    ∃ request, newRouter cfg parse clientIP rawPath r = .forwarded request := by
  have hhealthz : r.path ≠ "/healthz" := by
    intro hpath
    rw [hpath] at hapi
    exact absurd hapi (by decide)
  obtain ⟨start, hstart, hpath⟩ := admitted_iff.mp hadmitted
  obtain ⟨route, hroute⟩ := matchRoute_admitted hapi hstart hpath hunversioned
  obtain ⟨request, hforwarded, -⟩ := forwarded_of_route clientIP rawPath hconfigured hhealthz hroute
  exact ⟨request, hforwarded⟩

/-- The stages agree on the requests of neither table's gaps, and on no others. -/
theorem stages_agree_iff (hconfigured : cfg.Configured parse) :
    StagesAgree p parseWithClaims cfg parse clientIP rawPath r ↔ Unaffected r := by
  constructor
  · intro hagree
    refine ⟨?_, ?_, ?_⟩
    · intro start hstart
      by_contra hpath
      rw [Bool.not_eq_false] at hpath
      have hunder : ∀ start ∈ versionedPrefixes, "/api/".toList <+: start.toList ∧
          start ∈ publicPrefixes ++ apiKeyRoutes := by decide
      obtain ⟨hunderApi, hlisted⟩ := hunder start hstart
      obtain ⟨request, hforwarded⟩ := hagree.routed
        (hasPrefix_iff.mpr (hunderApi.trans (hasPrefix_iff.mp hpath)))
        (admitted_iff.mpr ⟨start, hlisted, hpath⟩)
      exact not_forwarded (matchRoute_versioned hstart hpath) hforwarded
    · intro hpath
      obtain ⟨hpublic, hhealthz, route, -, hroute, hupstream, hverify⟩ := verify_of_scan hpath
      obtain ⟨request, hforwarded, hto, hat, -⟩ :=
        forwarded_of_route clientIP rawPath hconfigured hhealthz hroute
      have hscan := hagree.scanPublic request hforwarded (hto.trans hupstream) (hat ▸ hverify)
      exact absurd (hscan.symm.trans hpublic) (by decide)
    · intro hform start hstart
      by_contra hpath
      rw [Bool.not_eq_false] at hpath
      obtain ⟨hpublic, hsupported⟩ := keyed_supported hstart hpath
      obtain ⟨next, hnext⟩ := admitted_of_key hpublic hsupported hform
      obtain ⟨request, hforwarded, hto, hrefused⟩ :=
        keyed_refused clientIP rawPath hconfigured hstart hpath hnext
      have hidentified := hagree.keyIdentified next hnext request hforwarded hto
      exact absurd (hidentified.symm.trans hrefused) (by decide)
  · intro hstep
    refine ⟨routed_of_unversioned hconfigured hstep.unversioned, ?_, ?_⟩
    · intro request hforwarded hto hverify
      obtain ⟨route, hroute, hupstream, hat⟩ := forwarded_route hforwarded
      rw [hat] at hverify
      exact absurd (scan_of_verify hroute (hupstream.symm.trans hto) hverify) hstep.noScan
    · intro next hnext request hforwarded hto
      obtain ⟨route, hroute, hupstream, -⟩ := forwarded_route hforwarded
      obtain ⟨hsupported, hpath, -⟩ := hnext.unnamed
      rw [hpath] at hroute
      obtain ⟨start, hstart, hbegins⟩ :=
        keyed_of_goBff hsupported hroute (hupstream.symm.trans hto)
      have hno := hstep.notKeyed hnext.wellFormed start hstart
      exact absurd (hbegins.symm.trans hno) (by decide)

/-- So a scan with nothing to show is turned away. -/
theorem scan_turned_away (hpath : r.path ∈ scanPaths) (hkey : r.header.get apiKeyHeader = "")
    (htoken : r.header.get "Authorization" = "") :
    auth p parseWithClaims r = .error ⟨401, "AUTH_REQUIRED",
      "missing Authorization header or X-Api-Key", r.header.get traceIDHeader⟩ := by
  have hpublic := (verify_of_scan hpath).1
  have hkept : ∀ name, canonicalName name ∉ claimsHeaders.map canonicalName →
      (claimsHeaders.foldl Header.del r.header).get name = r.header.get name :=
    fun name => get_stripped
  simp only [auth, hpublic, hkept _ (by decide : canonicalName apiKeyHeader ∉ _), hkey,
    hkept _ (by decide : canonicalName "Authorization" ∉ _), htoken,
    hkept _ (by decide : canonicalName traceIDHeader ∉ _)]
  rfl

end Requests

section Sample

def deployedUpstreams : Config where
  rcApiUpstream := "http://rc-api:8081"
  goBffUpstream := "http://go-bff:8082"
  goIamUpstream := "http://go-iam:8083"
  goWorkorderUpstream := "http://go-workorder:8085"

/-- Enough of `url.Parse` for a scheme and a host. -/
def parseBase (url : String) : Option Target :=
  if hasPrefix url "http://" then some ⟨"http", trimPrefix url "http://"⟩ else none

theorem deployedUpstreams_configured : deployedUpstreams.Configured parseBase := by
  intro upstream
  cases upstream <;> decide

def keyedRequest (path : String) : Request where
  path := path
  header := .received [("x-api-key", "rcpk_live_1234567890abcdef1234567890abcdef")]

theorem stages_agree_iff_login :
    StagesAgree default (fun _ => none) deployedUpstreams parseBase (some "10.0.0.7") ""
      (keyedRequest "/api/iam/auth/login") :=
  (stages_agree_iff deployedUpstreams_configured).mpr ⟨by decide, by decide, by decide⟩

/-- A public scan has no route, a routed scan is not public, and a brand's key opens no route
of the console. -/
theorem stages_disagree :
    ¬StagesAgree default (fun _ => none) deployedUpstreams parseBase none ""
        ⟨"/api/v1/verify", {}⟩ ∧
      ¬StagesAgree default (fun _ => none) deployedUpstreams parseBase none ""
        ⟨"/api/verify", {}⟩ ∧
      ¬StagesAgree default (fun _ => none) deployedUpstreams parseBase none ""
        (keyedRequest "/api/bff/console/brands/b-001") := by
  refine ⟨?_, ?_, ?_⟩
  · intro hagree
    obtain ⟨request, hforwarded⟩ := hagree.routed (by decide) (.inl (by decide))
    exact not_forwarded (by decide) hforwarded
  · intro hagree
    have hforwarded : newRouter deployedUpstreams parseBase none "" ⟨"/api/verify", {}⟩ =
        .forwarded ⟨.rcApi, ⟨"http", "rc-api:8081"⟩, "/verify", "", {}⟩ := by decide
    exact absurd (hagree.scanPublic _ hforwarded rfl (by decide)) (by decide)
  · intro hagree
    have hkey : ∃ next, AdmittedByKey default (fun _ => none)
        (keyedRequest "/api/bff/console/brands/b-001") next :=
      admitted_of_key (by decide) (by decide) (by decide)
    obtain ⟨next, hnext⟩ := hkey
    obtain ⟨request, hforwarded, hto, hrefused⟩ :=
      keyed_refused none "" deployedUpstreams_configured
        (by decide : "/api/bff/console/brands/" ∈ keyedPrefixes) (by decide) hnext
    have hidentified := hagree.keyIdentified next hnext request hforwarded hto
    exact absurd (hidentified.symm.trans hrefused) (by decide)

end Sample

end RcProtocol
