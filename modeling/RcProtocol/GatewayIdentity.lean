import RcProtocol.AccessModes
import RcProtocol.Bff.Claims
import RcProtocol.Gateway.Headers
import RcProtocol.Gateway.Router
import RcProtocol.Iam.Guard
import RcProtocol.IdentityHeaders
import RcProtocol.Workorders.Handler

/-!
Whom the Go services take the caller of a forwarded request for. They believe the headers of
the claims, which the gateway sets from a token it has checked and from nothing else; but the
client may list such a header among the fields of its connection, and the reverse proxy of the
gateway then leaves it out.
-/

namespace RcProtocol
open Library Gateway

section Headers
variable {h h' : Header} {name value other : String}

theorem get_set_self : (h.set name value).get name = value := by
  rw [Header.get, Header.values_set_self]
  rfl

theorem get_set_other (hne : canonicalName name ≠ canonicalName other) :
    (h.set name value).get other = h.get other := by
  rw [Header.get, Header.values_set_other hne, Header.get]

/-- A value that is only set when there is one. -/
theorem get_ite_set (hnone : h.get name = "") :
    (if value ≠ "" then h.set name value else h).get name = value := by
  split
  · exact get_set_self
  · next hempty => rw [hnone, not_not.mp hempty]

theorem get_ite_other {c : Prop} [Decidable c] (hne : canonicalName name ≠ canonicalName other) :
    (if c then h.set name value else h).get other = h.get other := by
  rw [Header.get, Header.values_ite_set_other hne, Header.get]

theorem named_congr (hconnection : h.values "Connection" = h'.values "Connection") :
    h.Named name ↔ h'.Named name := by
  rw [Header.Named, Header.listed, hconnection]
  rfl

theorem get_passedOn {clientIP : Option String}
    (hname : ∀ n ∈ "X-Forwarded-For" :: hopHeaders, canonicalName n ≠ canonicalName name) :
    (h.passedOn clientIP).get name = if h.Named name then "" else h.get name := by
  rw [Header.get, Header.values_passedOn_named hname]
  split
  · rfl
  · rfl

end Headers

/-- The request shows a token, and the library of the gateway reads these claims in it. -/
structure Shows (parseWithClaims : String → Option Gateway.Claims) (r : Request)
    (claims : Gateway.Claims) : Prop where
  path : isPublicPath r.path = false
  noKey : r.header.get apiKeyHeader = ""
  token : ∃ token, r.header.get "Authorization" = "Bearer " ++ token ∧
    parseWithClaims token = some claims
  role : claims.role ∈ validRoles

/-- What a client lets through of a claim: nothing, if it lists the header as its connection's. -/
def letThrough (r : Request) (name value : String) : String :=
  if r.header.Named name then "" else value

def delivered (r : Request) (claims : Gateway.Claims) : Gateway.Claims where
  sub := letThrough r "X-Claims-Sub" claims.sub
  role := letThrough r "X-Claims-Role" claims.role
  orgID := letThrough r "X-Claims-Org-Id" claims.orgID
  brandID := letThrough r "X-Claims-Brand-Id" claims.brandID

/-- The headers of the claims, as every service reads them. -/
def identity (header : Header) : Gateway.Claims where
  sub := header.get "X-Claims-Sub"
  role := header.get "X-Claims-Role"
  orgID := header.get "X-Claims-Org-Id"
  brandID := header.get "X-Claims-Brand-Id"

section Gate
variable {p : Primitives} {parseWithClaims : String → Option Gateway.Claims} {fresh method : String}
  {cfg : Config} {parse : String → Option Target} {clientIP : Option String} {rawPath : String}
  {r next : Request} {request : Forwarded} {claims claims' : Gateway.Claims} {name : String}

theorem Shows.unique (h : Shows parseWithClaims r claims) (h' : Shows parseWithClaims r claims') :
    claims = claims' := by
  obtain ⟨token, htoken, hclaims⟩ := h.token
  obtain ⟨token', htoken', hclaims'⟩ := h'.token
  have hsame : token = token' := by
    apply String.toList_injective
    have hlist := congrArg String.toList (htoken.symm.trans htoken')
    rw [String.toList_append, String.toList_append] at hlist
    exact List.append_cancel_left hlist
  rw [hsame, hclaims'] at hclaims
  exact (Option.some.inj hclaims).symm

theorem trace_get (hname : canonicalName traceIDHeader ≠ canonicalName name) :
    (trace fresh r).header.values name = r.header.values name := by
  rw [trace]
  split
  · exact Header.values_set_other hname
  · rfl

theorem trace_path : (trace fresh r).path = r.path := by
  rw [trace]
  split <;> rfl

theorem serve_forwards (h : serve p parseWithClaims fresh method r = .ok next) :
    Forwards p parseWithClaims (trace fresh r) next := by
  rw [serve] at h
  cases hauth : auth p parseWithClaims (trace fresh r) with
  | error rejection =>
      rw [hauth] at h
      cases h
  | ok passed =>
      rw [hauth] at h
      have hwrite : writeHeaders method passed = .ok next := h
      have hsame : passed = next := by
        rw [writeHeaders] at hwrite
        split at hwrite
        · exact Except.ok.inj hwrite
        · split at hwrite
          · cases hwrite
          · exact Except.ok.inj hwrite
      rw [← hsame]
      exact auth_forwards hauth

theorem forwarded_header (h : newRouter cfg parse clientIP rawPath r = .forwarded request) :
    request.header = r.header.passedOn clientIP := by
  unfold newRouter at h
  dsimp only at h
  split at h
  · cases h
  split at h
  · cases h
  split at h
  · cases h
  unfold serveProxy at h
  split at h
  · cases h
  cases h
  rfl

theorem values_dels_claims (hname : ∀ n ∈ claimsHeaders, canonicalName n ≠ canonicalName name) :
    (claimsHeaders.foldl Header.del r.header).values name = r.header.values name := by
  rw [Header.values_dels, if_neg]
  intro hmem
  obtain ⟨n, hn, hsame⟩ := List.mem_map.mp hmem
  exact hname n hn hsame

theorem get_dels_claims (hname : canonicalName name ∈ claimsHeaders.map canonicalName) :
    (claimsHeaders.foldl Header.del r.header).get name = "" := by
  rw [Header.get, Header.values_dels, if_pos hname]
  rfl

/-- Which fields the client lists as its connection's is not for the gateway to change. -/
theorem Forwards.connection (h : Forwards p parseWithClaims r next) :
    next.header.values "Connection" = r.header.values "Connection" := by
  cases h with
  | unchecked => exact values_dels_claims (by decide)
  | hashed =>
      simp only [Request.set]
      rw [Header.values_set_other (by decide), Header.values_set_other (by decide),
        Header.values_set_other (by decide)]
      exact values_dels_claims (by decide)
  | claimed =>
      rw [claimed_other (by decide)]
      exact values_dels_claims (by decide)

/-- Of a claim a service reads what the client lets through. -/
theorem get_forwarded (hforwards : Forwards p parseWithClaims (trace fresh r) next)
    (hheader : request.header = next.header.passedOn clientIP)
    (hname : ∀ n ∈ "X-Forwarded-For" :: hopHeaders, canonicalName n ≠ canonicalName name) :
    request.header.get name = letThrough r name (next.header.get name) := by
  have hconnection : next.header.values "Connection" = r.header.values "Connection" := by
    rw [hforwards.connection]
    exact trace_get (by decide)
  rw [hheader, get_passedOn hname, letThrough]
  exact if_congr (named_congr hconnection) rfl rfl

theorem identity_forwarded (hforwards : Forwards p parseWithClaims (trace fresh r) next)
    (hheader : request.header = next.header.passedOn clientIP) :
    identity request.header = delivered r (identity next.header) := by
  have hread : ∀ name ∈ identityHeaders,
      request.header.get name = letThrough r name (next.header.get name) := by
    intro name hname
    have hfree : ∀ name ∈ identityHeaders, ∀ n ∈ "X-Forwarded-For" :: hopHeaders,
        canonicalName n ≠ canonicalName name := by decide
    exact get_forwarded hforwards hheader (hfree name hname)
  rw [identity, hread _ (by decide), hread _ (by decide), hread _ (by decide), hread _ (by decide)]
  rfl

/-- Before the reverse proxy the headers of the claims are those of the token. -/
theorem identity_claimed :
    identity ((Request.mk r.path (claimsHeaders.foldl Header.del r.header)).claimed claims).header =
      claims := by
  have hnone : ∀ name, canonicalName name ∈ claimsHeaders.map canonicalName →
      (claimsHeaders.foldl Header.del r.header).get name = "" := fun name hname =>
    get_dels_claims hname
  simp only [identity, Request.claimed, Request.set, apply_ite Request.header]
  congr 1
  · rw [get_ite_other (by decide), get_ite_other (by decide), get_set_other (by decide),
      get_set_self]
  · rw [get_ite_other (by decide), get_ite_other (by decide), get_set_self]
  · rw [get_ite_other (by decide)]
    apply get_ite_set
    rw [get_set_other (by decide), get_set_other (by decide)]
    exact hnone _ (by decide)
  · apply get_ite_set
    rw [get_ite_other (by decide), get_set_other (by decide), get_set_other (by decide)]
    exact hnone _ (by decide)

/-- What the header of a forwarded request tells of the client: the claims of a token it shows,
or no one. -/
inductive Tells (parseWithClaims : String → Option Gateway.Claims) (r : Request)
    (header : Header) : Prop
  | named (claims : Gateway.Claims) (hshows : Shows parseWithClaims r claims)
      (hidentity : identity header = delivered r claims)
  | unnamed (hnone : ∀ claims, ¬Shows parseWithClaims r claims)
      (hsub : header.get "X-Claims-Sub" = "")

theorem forwarded_tells (hserve : serve p parseWithClaims fresh method r = .ok next)
    (hforward : newRouter cfg parse clientIP rawPath next = .forwarded request) :
    Tells parseWithClaims r request.header := by
  have hforwards := serve_forwards hserve
  have hidentity := identity_forwarded hforwards (forwarded_header hforward)
  have hunsaid : next.header.get "X-Claims-Sub" = "" →
      request.header.get "X-Claims-Sub" = "" := by
    intro hempty
    have hsub := congrArg Gateway.Claims.sub hidentity
    simp only [identity, delivered, hempty, letThrough, ite_self] at hsub
    exact hsub
  cases hforwards with
  | unchecked hpath =>
      refine .unnamed (fun claims hshows => ?_) (hunsaid (get_dels_claims (by decide)))
      rw [trace_path, hshows.path] at hpath
      cases hpath
  | hashed hpath hkey =>
      refine .unnamed (fun claims hshows => hkey ?_) (hunsaid ?_)
      · rw [Header.get, trace_get (by decide)]
        exact hshows.noKey
      · simp only [Request.set]
        rw [get_set_other (by decide), get_set_other (by decide), get_set_other (by decide)]
        exact get_dels_claims (by decide)
  | @claimed token claims hpath hkey htoken hparse hrole =>
      rw [identity_claimed] at hidentity
      refine .named claims ⟨?_, ?_, ⟨token, ?_, hparse⟩, hrole⟩ hidentity
      · rw [← hpath, trace_path]
      · rw [← hkey, Header.get, Header.get, trace_get (by decide)]
      · rw [← htoken, Header.get, Header.get, trace_get (by decide)]

end Gate

/-- A caller the services can tell from the claims of his token. -/
structure Caller (parseWithClaims : String → Option Gateway.Claims) (r : Request)
    (d : Gateway.Claims) : Prop where
  sub : d.sub ≠ ""
  role : d.role ≠ ""
  shown : ∃ claims, Shows parseWithClaims r claims ∧ d = delivered r claims

section Services
variable {p : Primitives} {parseWithClaims : String → Option Gateway.Claims} {fresh method : String}
  {cfg : Config} {parse : String → Option Target} {clientIP : Option String} {rawPath : String}
  {r next : Request} {request : Forwarded} {header : Header} {d : Gateway.Claims}

theorem delivered_role {claims : Gateway.Claims} (hrole : (delivered r claims).role ≠ "") :
    (delivered r claims).role = claims.role := by
  have hset : letThrough r "X-Claims-Role" claims.role ≠ "" := hrole
  simp only [delivered]
  rw [letThrough] at hset ⊢
  split at hset
  · exact absurd rfl hset
  · next hnamed => exact if_neg hnamed

theorem Caller.valid (h : Caller parseWithClaims r d) : d.role ∈ validRoles := by
  obtain ⟨claims, hshows, hd⟩ := h.shown
  have hrole := h.role
  rw [hd] at hrole ⊢
  rw [delivered_role hrole]
  exact hshows.role

/-- A service that reads a subject and a role has the client's token to thank for them. -/
theorem Tells.caller_iff (h : Tells parseWithClaims r header) :
    Caller parseWithClaims r d ↔ identity header = d ∧ d.sub ≠ "" ∧ d.role ≠ "" := by
  constructor
  · intro hcaller
    refine ⟨?_, hcaller.sub, hcaller.role⟩
    obtain ⟨claims, hshows, hd⟩ := hcaller.shown
    cases h with
    | named claims' hshows' hidentity => rw [hidentity, hd, hshows.unique hshows']
    | unnamed hnone => exact absurd hshows (hnone claims)
  · intro hread
    obtain ⟨hidentity, hsub, hrole⟩ := hread
    refine ⟨hsub, hrole, ?_⟩
    cases h with
    | named claims hshows hdelivered =>
        exact ⟨claims, hshows, hidentity.symm.trans hdelivered⟩
    | unnamed hnone hempty =>
        rw [← hidentity] at hsub
        exact absurd hempty hsub

theorem bff_reads {c : Bff.Claims} (h : Tells parseWithClaims r header) :
    Bff.parseClaims header = .ok c ↔
      ∃ d, Caller parseWithClaims r d ∧ c = ⟨d.sub, d.role, d.orgID, d.brandID⟩ := by
  constructor
  · intro hread
    rw [Bff.parseClaims] at hread
    split at hread
    · cases hread
    next hpresent =>
    obtain ⟨hsub, hrole⟩ := not_or.mp hpresent
    split at hread
    · exact ⟨identity header, h.caller_iff.mpr ⟨rfl, hsub, hrole⟩, (Except.ok.inj hread).symm⟩
    · cases hread
  · intro hcaller
    obtain ⟨d, hcaller, hc⟩ := hcaller
    have hvalid := hcaller.valid
    obtain ⟨hidentity, hsub, hrole⟩ := h.caller_iff.mp hcaller
    rw [← hidentity] at hsub hrole hvalid hc
    rw [hc]
    exact (if_neg (not_or.mpr ⟨hsub, hrole⟩)).trans (if_pos hvalid)

theorem workorders_reads {c : Workorders.Claims} (h : Tells parseWithClaims r header) :
    Workorders.Claims.fromRequest header = c ∧ c.valid = true ↔
      ∃ d, Caller parseWithClaims r d ∧ d.orgID ≠ "" ∧ c = ⟨d.sub, d.role, d.orgID⟩ := by
  constructor
  · intro hread
    obtain ⟨hc, hvalid⟩ := hread
    rw [Workorders.Claims.valid] at hvalid
    simp only [Bool.and_eq_true, decide_eq_true_eq] at hvalid
    obtain ⟨⟨⟨hsub, hrole⟩, horg⟩, -⟩ := hvalid
    rw [← hc] at hsub hrole horg
    exact ⟨identity header, h.caller_iff.mpr ⟨rfl, hsub, hrole⟩, horg, hc.symm⟩
  · intro hcaller
    obtain ⟨d, hcaller, horg, hc⟩ := hcaller
    have hvalid := hcaller.valid
    obtain ⟨hidentity, hsub, hrole⟩ := h.caller_iff.mp hcaller
    rw [hc]
    refine ⟨?_, ?_⟩
    · rw [← hidentity]
      rfl
    · rw [Workorders.Claims.valid]
      simp only [Bool.and_eq_true, decide_eq_true_eq]
      exact ⟨⟨⟨hsub, hrole⟩, horg⟩, List.contains_iff_mem.mpr hvalid⟩

theorem iam_reads {c : Iam.Middleware.Claims} (h : Tells parseWithClaims r header) :
    Iam.Middleware.management header = .ok c ↔
      ∃ d, Caller parseWithClaims r d ∧ d.role = "Platform" ∧
        c = ⟨d.sub, d.role, d.orgID, d.brandID⟩ := by
  rw [Iam.Middleware.management_ok, Iam.Middleware.Claims.valid]
  simp only [Bool.and_eq_true, decide_eq_true_eq]
  constructor
  · intro hread
    obtain ⟨hc, ⟨⟨hsub, hrole⟩, -⟩, hplatform⟩ := hread
    rw [← hc] at hsub hrole hplatform
    exact ⟨identity header, h.caller_iff.mpr ⟨rfl, hsub, hrole⟩, hplatform, hc.symm⟩
  · intro hcaller
    obtain ⟨d, hcaller, hplatform, hc⟩ := hcaller
    have hvalid := hcaller.valid
    obtain ⟨hidentity, hsub, hrole⟩ := h.caller_iff.mp hcaller
    rw [hc]
    refine ⟨?_, ⟨⟨hsub, hrole⟩, List.contains_iff_mem.mpr hvalid⟩, hplatform⟩
    rw [← hidentity]
    rfl

/-- The Go services identify the caller of a request that reaches them exactly when it shows a
token the gateway accepts, and as the one its claims name, less those the client does not let
through. -/
theorem services_identify (hserve : serve p parseWithClaims fresh method r = .ok next)
    (hforward : newRouter cfg parse clientIP rawPath next = .forwarded request) :
    (∀ c, Bff.parseClaims request.header = .ok c ↔
      ∃ d, Caller parseWithClaims r d ∧ c = ⟨d.sub, d.role, d.orgID, d.brandID⟩) ∧
    (∀ c, Workorders.Claims.fromRequest request.header = c ∧ c.valid = true ↔
      ∃ d, Caller parseWithClaims r d ∧ d.orgID ≠ "" ∧ c = ⟨d.sub, d.role, d.orgID⟩) ∧
    (∀ c, Iam.Middleware.management request.header = .ok c ↔
      ∃ d, Caller parseWithClaims r d ∧ d.role = "Platform" ∧
        c = ⟨d.sub, d.role, d.orgID, d.brandID⟩) := by
  have htells := forwarded_tells hserve hforward
  exact ⟨fun _ => bff_reads htells, fun _ => workorders_reads htells, fun _ => iam_reads htells⟩

end Services

section Sample

def platformClaims : Gateway.Claims := { sub := "admin", role := "Platform", orgID := "org" }

def readAdmin (token : String) : Option Gateway.Claims :=
  if token = "t" then some platformClaims else none

/-- An administrator lists the header of his organization as one of his connection's. -/
def adminRequest : Request where
  path := "/api/iam/users"
  header := .received [("authorization", "Bearer t"), ("connection", "x-claims-org-id")]

theorem adminRequest_caller : Caller readAdmin adminRequest ⟨"admin", "Platform", "", ""⟩ where
  sub := by decide
  role := by decide
  shown := ⟨platformClaims, ⟨by decide, by decide, ⟨"t", by decide, by decide⟩, by decide⟩,
    by decide⟩

/-- The console and the management take him for an administrator; to the workorders he is one of
no organization, and so no one. -/
theorem services_identify_sample :
    ∃ next request, serve default readAdmin "trace" "GET" adminRequest = .ok next ∧
      newRouter deployedUpstreams parseBase none "" next = .forwarded request ∧
      Bff.parseClaims request.header = .ok ⟨"admin", "Platform", "", ""⟩ ∧
      Iam.Middleware.management request.header = .ok ⟨"admin", "Platform", "", ""⟩ ∧
      (Workorders.Claims.fromRequest request.header).valid = false := by
  have hserved : (serve default readAdmin "trace" "GET" adminRequest).isOk = true := by decide
  have hrouted : (serve default readAdmin "trace" "GET" adminRequest).map (fun next =>
      (next.path, matchRoute next.path)) =
        .ok ("/api/iam/users", some ⟨"/api/iam/", "/api/iam", .goIam⟩) := by decide
  cases hserve : serve default readAdmin "trace" "GET" adminRequest with
  | error rejection =>
      rw [hserve] at hserved
      cases hserved
  | ok next =>
      rw [hserve] at hrouted
      obtain ⟨hpath, hroute⟩ := Prod.mk.inj (Except.ok.inj hrouted)
      have hhealthz : next.path ≠ "/healthz" := by
        rw [hpath]
        decide
      obtain ⟨request, hforward, -⟩ :=
        forwarded_of_route none "" deployedUpstreams_configured hhealthz hroute
      obtain ⟨hbff, hworkorders, hiam⟩ := services_identify hserve hforward
      refine ⟨next, request, rfl, hforward, (hbff _).mpr ⟨_, adminRequest_caller, rfl⟩,
        (hiam _).mpr ⟨_, adminRequest_caller, rfl, rfl⟩, ?_⟩
      by_contra hvalid
      obtain ⟨d, hcaller, horg, -⟩ := (hworkorders _).mp ⟨rfl, by simpa using hvalid⟩
      obtain ⟨claims, hshows, hd⟩ := hcaller.shown
      obtain ⟨claims', hshows', hd'⟩ := adminRequest_caller.shown
      rw [hd, hshows.unique hshows', ← hd'] at horg
      exact absurd rfl horg

end Sample

end RcProtocol
