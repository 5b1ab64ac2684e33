import RcProtocol.Crypto.Keys
import RcProtocol.Library.Header

/-!
The `Auth` middleware of the gateway (go-gateway, middleware/auth.go): what it
forwards, under which headers, and what it turns away.
-/

namespace RcProtocol.Gateway
open Library

def apiKeyHeader : String := "X-Api-Key"

def apiKeyPrefix : String := "rcpk_live_"

def traceIDHeader : String := "X-Trace-Id"

structure Claims where
  sub : String
  role : String
  orgID : String := ""
  brandID : String := ""
  deriving DecidableEq

def validRoles : List String := ["Platform", "Brand", "Factory", "Consumer", "Moderator"]

/-- Prefixes of paths that need no authentication. -/
def publicPrefixes : List String :=
  ["/health", "/healthz", "/api/v1/verify", "/api/iam/auth/login"]

def apiKeyRoutes : List String :=
  ["/api/v1/batches", "/api/v1/assets/blind-scan", "/api/v1/assets/activate",
    "/api/v1/assets/sell", "/api/v1/assets/", "/api/bff/console/brands/",
    "/api/bff/console/dashboard", "/api/bff/app/assets", "/api/bff/app/assets/"]

/-- The headers stripped from every request. -/
def claimsHeaders : List String :=
  ["X-Claims-Sub", "X-Claims-Role", "X-Claims-Org-Id", "X-Claims-Brand-Id", "X-Api-Key-Verified"]

def hasPrefix (s start : String) : Bool := start.toList.isPrefixOf s.toList

def trimPrefix (s start : String) : String :=
  if hasPrefix s start then .ofList (s.toList.drop start.toList.length) else s

def isPublicPath (path : String) : Bool := publicPrefixes.any (hasPrefix path)

def supportsApiKey (path : String) : Bool := apiKeyRoutes.any (hasPrefix path)

def hashApiKey (p : Primitives) (apiKey : String) : String :=
  hexEncode (p.sha256 (utf8 apiKey)).toList

structure Request where
  path : String
  header : Header
  deriving DecidableEq

/-- What `WriteError` answers with. -/
structure Rejection where
  statusCode : Nat
  code : String
  message : String
  traceID : String
  deriving DecidableEq

def Request.set (r : Request) (name value : String) : Request :=
  { r with header := r.header.set name value }

/-- The headers of a verified token. -/
def Request.claimed (r : Request) (claims : Claims) : Request :=
  let r := (r.set "X-Claims-Sub" claims.sub).set "X-Claims-Role" claims.role
  let r := if claims.orgID ≠ "" then r.set "X-Claims-Org-Id" claims.orgID else r
  if claims.brandID ≠ "" then r.set "X-Claims-Brand-Id" claims.brandID else r

/-- The request `next` is served with. The library that verifies a token under the
secret of the gateway is an argument: it answers with the claims of a valid token. The
key of a brand is only hashed here; rc-api looks the hash up. -/
def auth (p : Primitives) (parseWithClaims : String → Option Claims) (r : Request) :
    Except Rejection Request :=
  let r := { r with header := claimsHeaders.foldl Header.del r.header }
  if isPublicPath r.path then .ok r
  else
    let traceID := r.header.get traceIDHeader
    let apiKey := r.header.get apiKeyHeader
    if apiKey ≠ "" then
      if !supportsApiKey r.path then
        .error ⟨401, "AUTH_REQUIRED", "API Key not supported for this route", traceID⟩
      else if !hasPrefix apiKey apiKeyPrefix then
        .error ⟨401, "AUTH_REQUIRED", "invalid API Key format (must start with rcpk_live_)", traceID⟩
      else
        .ok (((r.set "X-Api-Key-Hash" (hashApiKey p apiKey)).set "X-Api-Key-Verified"
          "hash-only").set "X-Claims-Role" "Brand")
    else
      let authHeader := r.header.get "Authorization"
      if authHeader = "" then
        .error ⟨401, "AUTH_REQUIRED", "missing Authorization header or X-Api-Key", traceID⟩
      else
        let tokenStr := trimPrefix authHeader "Bearer "
        if tokenStr = authHeader then
          .error ⟨401, "AUTH_REQUIRED", "invalid Authorization format, expected Bearer token",
            traceID⟩
        else
          match parseWithClaims tokenStr with
          | none => .error ⟨401, "AUTH_REQUIRED", "invalid or expired token", traceID⟩
          | some claims =>
              if claims.role ∉ validRoles then
                .error ⟨403, "INVALID_ROLE", "role not allowed: " ++ claims.role, traceID⟩
              else .ok (r.claimed claims)

section Headers
variable {r : Request} {name value other : String} {claims : Claims}

theorem hasPrefix_append {s start : String} (h : hasPrefix s start = true) :
    s = start ++ trimPrefix s start := by
  obtain ⟨rest, hrest⟩ := List.isPrefixOf_iff_prefix.mp h
  apply String.toList_injective
  rw [String.toList_append, trimPrefix, if_pos h, String.toList_ofList, ← hrest,
    List.drop_left]

theorem mem_values_set {n v : String} (hn : canonicalName n = n) (hname : canonicalName name = name)
    (hvalue : value ∈ (r.set n v).header.values name) :
    (name, value) = (n, v) ∨ value ∈ r.header.values name :=
  Header.mem_values_set hn hname hvalue

theorem mem_values_ite {c : Prop} [Decidable c] {n v : String} (hn : canonicalName n = n)
    (hname : canonicalName name = name)
    (hvalue : value ∈ (if c then r.set n v else r).header.values name) :
    (name, value) = (n, v) ∨ value ∈ r.header.values name := by
  split at hvalue
  · exact mem_values_set hn hname hvalue
  · exact .inr hvalue

/-- The headers of a verified token are those of its claims. -/
theorem claimed_values (hname : canonicalName name = name)
    (hvalue : value ∈ (r.claimed claims).header.values name) :
    (name, value) ∈ [("X-Claims-Sub", claims.sub), ("X-Claims-Role", claims.role),
        ("X-Claims-Org-Id", claims.orgID), ("X-Claims-Brand-Id", claims.brandID)] ∨
      value ∈ r.header.values name := by
  unfold Request.claimed at hvalue
  obtain h | hvalue := mem_values_ite (by decide) hname hvalue
  · simp [h]
  obtain h | hvalue := mem_values_ite (by decide) hname hvalue
  · simp [h]
  obtain h | hvalue := mem_values_set (by decide) hname hvalue
  · simp [h]
  obtain h | hvalue := mem_values_set (by decide) hname hvalue
  · simp [h]
  · exact .inr hvalue

theorem values_ite_other {c : Prop} [Decidable c] {n v : String}
    (hne : canonicalName n ≠ canonicalName name) :
    (if c then r.set n v else r).header.values name = r.header.values name := by
  split
  · exact Header.values_set_other hne
  · rfl

/-- A verified token leaves the other headers as they are. -/
theorem claimed_other (hname : ∀ n ∈ claimsHeaders, canonicalName n ≠ canonicalName name) :
    (r.claimed claims).header.values name = r.header.values name := by
  unfold Request.claimed
  simp only
  rw [values_ite_other (hname _ (by decide)), values_ite_other (hname _ (by decide))]
  simp only [Request.set]
  rw [Header.values_set_other (hname _ (by decide)), Header.values_set_other (hname _ (by decide))]

end Headers

end RcProtocol.Gateway
