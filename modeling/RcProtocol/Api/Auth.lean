import RcProtocol.Api.Messages
import RcProtocol.Library.Header

/-!
The authentication of rc-api (auth/middleware.rs): by the hash of an API key, by the
key itself, or by a token, in this order.
-/

namespace RcProtocol
open Library

/-- The forwarded fields, as rc-api reads them. -/
def HeaderMap.ofHeader (header : Header) : HeaderMap := fun name =>
  (header.values name).head?.map fun value =>
    if value.toList.all fun c => (32 ≤ c.toNat ∧ c.toNat < 127) ∨ c = '\t' then .text value
    else .unreadable

/-- The claims a request is served under. -/
structure Claims where
  sub : String
  role : String
  orgId : Option String
  brandId : Option String
  deriving DecidableEq

namespace Claims
variable (claims : Claims)

def actorRole : Except String ActorRole :=
  match claims.role with
  | "Platform" => .ok .platform
  | "Factory" => .ok .factory
  | "Brand" => .ok .brand
  | "Consumer" => .ok .consumer
  | "Moderator" => .ok .moderator
  | _ => .error "unknown role"

/-- A brand or a factory must carry a brand id. -/
def validate : Except String Unit := do
  let role ← claims.actorRole
  if (role = .brand ∨ role = .factory) ∧ claims.brandId = none then
    .error "brand_id required for Brand/Factory role"
  else .ok ()

end Claims

structure AuthState where
  authDisabled : Bool
  decode : String → Except String Claims
  fetchBrandByApiKeyHash : String → Except String (Option String)

/-- What a caller is authenticated by. -/
inductive Presented where
  | fallback
  | apiKeyHash (hash : String)
  | apiKey (key : String)
  | bearer (token : Option String)
  deriving DecidableEq

def extractApiKeyHash (headers : HeaderMap) : Option String :=
  optionalHeader headers "X-Api-Key-Hash"

def extractApiKey (headers : HeaderMap) : Option String := optionalHeader headers "X-Api-Key"

def extractBearerToken (headers : HeaderMap) : Option String :=
  (optionalHeader headers "Authorization").bind fun value =>
    if "Bearer ".toList.isPrefixOf value.toList then some (.ofList (value.toList.drop 7)) else none

namespace AuthState
variable (auth : AuthState) (headers : HeaderMap)

def presented : Presented :=
  if auth.authDisabled then .fallback
  else
    match extractApiKeyHash headers with
    | some hash => .apiKeyHash hash
    | none =>
        match extractApiKey headers with
        | some key => .apiKey key
        | none => .bearer (extractBearerToken headers)

def authenticateApiKeyHash (hash : String) : Except String Claims :=
  match auth.fetchBrandByApiKeyHash hash with
  | .ok (some brandId) => .ok ⟨"apikey:" ++ brandId, "Brand", none, some brandId⟩
  | _ => .error "invalid_api_key"

def buildFallbackClaims : Except String Claims :=
  let actorId := (optionalHeader headers "Authorization").getD "anonymous"
  let role := (optionalHeader headers "X-Actor-Role").getD "Platform"
  let brandId := optionalHeader headers "X-Brand-Id"
  if (role = "Brand" ∨ role = "Factory") ∧ brandId = none then
    .error "Brand/Factory role requires X-Brand-Id header"
  else .ok ⟨actorId, role, none, brandId⟩

/-- The claims the handlers are given, or the message of a 401. -/
def authMiddleware (p : Primitives) : Except String Claims :=
  match auth.presented headers with
  | .fallback => buildFallbackClaims headers
  | .apiKeyHash hash => auth.authenticateApiKeyHash hash
  | .apiKey key => auth.authenticateApiKeyHash (hexEncode (p.sha256 (utf8 key)).toList)
  | .bearer none => .error "missing or invalid Authorization header"
  | .bearer (some token) => auth.decode token

variable {auth headers}

theorem presented_apiKeyHash {hash : String} (h : auth.presented headers = .apiKeyHash hash) :
    optionalHeader headers "X-Api-Key-Hash" = some hash := by
  unfold presented at h
  split at h
  · cases h
  · split at h
    · next hhash =>
      cases h
      exact hhash
    · split at h <;> cases h

end AuthState

end RcProtocol
