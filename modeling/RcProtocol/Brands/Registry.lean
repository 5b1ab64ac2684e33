import RcProtocol.Brands.Spec

/-!
The routes that write brands and keys (routes/brand.rs) behind the authentication of rc-api
(auth/middleware.rs, auth/extractor.rs): a request presents a key, which is looked up, or claims.
-/

namespace RcProtocol.Brands
open Library

inductive RegistryCall where
  | register (payload : RegisterBrandRequest)
  | rotate (brandId : String) (payload : RotateApiKeyRequest)

structure RegistryRequest where
  headers : HeaderMap
  call : RegistryCall

/-- What a request is served under: the hash of a key, or the claims it has come with. -/
inductive Credential where
  | key (hash : String)
  | claims (result : Except String Claims)

def credential (p : Primitives) (auth : AuthState) (headers : HeaderMap) : Credential :=
  match auth.presented headers with
  | .fallback => .claims (AuthState.buildFallbackClaims headers)
  | .apiKeyHash hash => .key hash
  | .apiKey key => .key (hashApiKey p key)
  | .bearer none => .claims (.error "missing or invalid Authorization header")
  | .bearer (some token) => .claims (auth.decode token)

/-- `ActorContext` out of the claims. -/
def actorOf (claims : Claims) : Except String ActorContext :=
  match claims.actorRole with
  | .error message => .error ("InvalidClaims(\"" ++ message ++ "\")")
  | .ok role => .ok ⟨claims.sub, role, claims.orgId, claims.brandId⟩

section
variable (p : Primitives) (auth : AuthState)

def RegistryCall.handle (actor : ActorContext) : RegistryCall → Program interface Reply
  | .register payload => registerBrand p actor payload
  | .rotate brandId payload => rotateApiKey p actor brandId payload

def RegistryCall.serve (call : RegistryCall) (claims : Claims) : Program interface Reply :=
  match actorOf claims with
  | .error message => .done (.unauthorized message)
  | .ok actor => call.handle p actor

/-- The key is looked up once, before the handler begins. -/
def RegistryCall.serveKey (call : RegistryCall) (hash : String) : Program interface Reply :=
  (authenticateApiKeyHash auth hash).bind fun
    | .authenticated claims => call.serve p claims
    | refused => .done refused

def RegistryRequest.handle (r : RegistryRequest) : Program interface Reply :=
  match credential p auth r.headers with
  | .key hash => r.call.serveKey p auth hash
  | .claims (.error message) => .done (.unauthorized message)
  | .claims (.ok claims) => r.call.serve p claims

def RegistryRequest.pool {ι : Type} (requests : ι → RegistryRequest) (start : KeyDb) :
    Pool interface KeyDb ι Reply :=
  ⟨start, fun i => (requests i).handle p auth⟩

end

/-- The middleware, as it is where the answers of the database are given. -/
theorem authMiddleware_credential (p : Primitives) (auth : AuthState) (headers : HeaderMap) :
    auth.authMiddleware headers p =
      match credential p auth headers with
      | .key hash => auth.authenticateApiKeyHash hash
      | .claims result => result := by
  rw [AuthState.authMiddleware, credential]
  cases auth.presented headers with
  | fallback | apiKeyHash | apiKey => rfl
  | bearer token => cases token <;> rfl

/-- The claims speak for a brand: those of the platform, and those of the brand itself. -/
def Speaks (claims : Claims) (brandId : String) : Prop :=
  claims.role = "Platform" ∨ claims.role = "Brand" ∧ claims.brandId = some brandId

/-- The key was found, and under this brand. -/
def Found (hash brandId : String) (e : Event interface) : Prop :=
  ∃ brand, e = ⟨.fetchBrandByApiKeyHash hash, .ok (some brand)⟩ ∧ brand.brandId = brandId

inductive Entitled (log : Log) (brandId : String) : Credential → Prop
  | claims {claims : Claims} (hspeaks : Speaks claims brandId) :
      Entitled log brandId (.claims (.ok claims))
  | key {hash : String} {e : Event interface} (he : e ∈ log) (hfound : Found hash brandId e) :
      Entitled log brandId (.key hash)

/-- What the request commits, and what entitles it. -/
inductive Warranted (c : Credential) (call : RegistryCall) (log : Log) : List Write → Prop
  | registration {claims : Claims} {brand : BrandRow} {key : ApiKeyRow}
      (hcred : c = .claims (.ok claims)) (hrole : claims.role = "Platform")
      (hbrand : key.brandId = brand.brandId) :
      Warranted c call log [.insertBrand brand, .insertApiKey key]
  | rotation {payload : RotateApiKeyRequest} {old key : ApiKeyRow} {now : Time}
      (hcall : call = .rotate key.brandId payload) (hentitled : Entitled log key.brandId c)
      (hfetched : (⟨.fetchActiveApiKey ⟨now, []⟩ key.brandId, .ok old⟩ : Event interface) ∈ log) :
      Warranted c call log [.revokeApiKey old.keyId now, .insertApiKey key]

def Reply.revokedKeyId : Reply → Option String
  | .rotated _ _ _ revokedKeyId _ => some revokedKeyId
  | _ => none

/-- The key that a reply calls revoked was revoked by a commit that has succeeded. -/
def Told (log : Log) (reply : Reply) : Prop :=
  ∀ keyId, reply.revokedKeyId = some keyId →
    ∃ tx now, (⟨.commit tx, .ok ()⟩ : Event interface) ∈ log ∧ .revokeApiKey keyId now ∈ tx.writes

def WarrantedCall (c : Credential) (call : RegistryCall) (log : Log) (op : Op) : Prop :=
  op.written = [] ∨ Warranted c call log op.written

section Specs
variable {p : Primitives} {auth : AuthState} {c : Credential} {call : RegistryCall} {log : Log}

theorem told_nothing {reply : Reply} (h : reply.revokedKeyId = none) : Told log reply := by
  intro keyId hkey
  rw [h] at hkey
  cases hkey

theorem meets_quiet {op : Op} {next : op.Answer → Program interface Reply} (hop : op.written = [])
    (h : ∀ answer, Meets (WarrantedCall c call) Told (log ++ [⟨op, answer⟩]) (next answer)) :
    Meets (WarrantedCall c call) Told log ((ask op).bind next) := ⟨.inl hop, h⟩

theorem brandRefused_revokes_nothing (e : DbError) : (brandRefused e).revokedKeyId = none := by
  dsimp only [brandRefused]
  split
  · rfl
  · split <;> rfl

theorem actorRole_platform {claims : Claims} (h : claims.actorRole = .ok .platform) :
    claims.role = "Platform" := by
  dsimp only [Claims.actorRole] at h
  split at h <;> first | assumption | cases h

theorem actorRole_brand {claims : Claims} (h : claims.actorRole = .ok .brand) :
    claims.role = "Brand" := by
  dsimp only [Claims.actorRole] at h
  split at h <;> first | assumption | cases h

theorem actorOf_ok {claims : Claims} {actor : ActorContext} (h : actorOf claims = .ok actor) :
    claims.actorRole = .ok actor.actorRole ∧ actor.brandId = claims.brandId := by
  rw [actorOf] at h
  split at h
  · cases h
  · next role hrole =>
    cases h
    exact ⟨hrole, rfl⟩

theorem checkRegistration_platform {actor : ActorContext} {payload : RegisterBrandRequest}
    (h : checkRegistration actor payload = .ok ()) : actor.actorRole = .platform := by
  rw [checkRegistration, checkRoleAllowed] at h
  split at h
  · next hallowed => simpa using hallowed
  · cases h

theorem checkBrandWriteAccess_speaks {claims : Claims} {actor : ActorContext} {brandId : String}
    (hactor : actorOf claims = .ok actor) (h : checkBrandWriteAccess actor brandId = .ok ()) :
    Speaks claims brandId := by
  obtain ⟨hrole, hbrand⟩ := actorOf_ok hactor
  rw [checkBrandWriteAccess] at h
  split at h
  · next hplatform =>
    rw [hplatform] at hrole
    exact .inl (actorRole_platform hrole)
  · next hbrandRole =>
    rw [hbrandRole] at hrole
    split at h
    · next hsame => exact .inr ⟨actorRole_brand hrole, hbrand.symm.trans hsame⟩
    · cases h
  · cases h

theorem meets_register {claims : Claims} {actor : ActorContext} {payload : RegisterBrandRequest}
    (hcred : actor.actorRole = .platform → c = .claims (.ok claims) ∧ claims.role = "Platform") :
    Meets (WarrantedCall c call) Told log (registerBrand p actor payload) := by
  rw [registerBrand]
  split
  · exact told_nothing rfl
  next hcheck =>
  obtain ⟨hclaims, hrole⟩ := hcred (checkRegistration_platform hcheck)
  refine meets_quiet rfl fun answer => ?_
  cases answer with
  | error e => exact told_nothing rfl
  | ok existing =>
  dsimp only
  split
  · exact told_nothing rfl
  refine meets_quiet rfl fun brandUlid => meets_quiet rfl fun bytes => ?_
  refine meets_quiet rfl fun keyUlid => meets_quiet rfl fun answer => ?_
  cases answer with
  | error e => exact told_nothing rfl
  | ok now =>
  refine meets_quiet rfl fun answer => ?_
  cases answer with
  | error e => exact told_nothing (brandRefused_revokes_nothing e)
  | ok a =>
  refine meets_quiet rfl fun answer => ?_
  cases answer with
  | error e => exact told_nothing rfl
  | ok a =>
  refine ⟨.inr (.registration hclaims hrole rfl), fun answer => ?_⟩
  cases answer with
  | error e => exact told_nothing rfl
  | ok a => exact told_nothing rfl

theorem meets_rotate {actor : ActorContext} {brandId : String} {payload : RotateApiKeyRequest}
    (hcall : call = .rotate brandId payload)
    (hentitled : checkBrandWriteAccess actor brandId = .ok () → Entitled log brandId c) :
    Meets (WarrantedCall c call) Told log (rotateApiKey p actor brandId payload) := by
  rw [rotateApiKey]
  split
  · exact told_nothing rfl
  next hcheck =>
  have hkeeps : ∀ rest, Entitled (log ++ rest) brandId c := by
    intro rest
    cases hentitled hcheck with
    | claims hspeaks => exact .claims hspeaks
    | key he hfound => exact .key (List.mem_append_left _ he) hfound
  refine meets_quiet rfl fun bytes => meets_quiet rfl fun keyUlid => ?_
  refine meets_quiet rfl fun answer => ?_
  cases answer with
  | error e => exact told_nothing rfl
  | ok now =>
  refine meets_quiet rfl fun answer => ?_
  cases answer with
  | error e => exact told_nothing rfl
  | ok old =>
  refine meets_quiet rfl fun answer => ?_
  cases answer with
  | error e => exact told_nothing rfl
  | ok a =>
  refine meets_quiet rfl fun answer => ?_
  cases answer with
  | error e => exact told_nothing rfl
  | ok a =>
  refine ⟨.inr (.rotation hcall ?_ ?_), fun answer => ?_⟩
  · simp only [List.append_assoc]
    exact hkeeps _
  · simp [newApiKey]
  cases answer with
  | error e => exact told_nothing rfl
  | ok a =>
      intro keyId hkey
      cases hkey
      exact ⟨_, now, List.mem_append_right _ (List.mem_singleton_self _), List.mem_cons_self ..⟩

theorem meets_serve {claims : Claims}
    (hregister : claims.role = "Platform" → c = .claims (.ok claims))
    (hentitled : ∀ brandId, Speaks claims brandId → Entitled log brandId c) :
    Meets (WarrantedCall c call) Told log (call.serve p claims) := by
  rw [RegistryCall.serve]
  split
  · exact told_nothing rfl
  next actor hactor =>
  cases call with
  | register payload =>
      apply meets_register
      intro hplatform
      have hrole := (actorOf_ok hactor).1
      rw [hplatform] at hrole
      exact ⟨hregister (actorRole_platform hrole), actorRole_platform hrole⟩
  | rotate brandId payload =>
      exact meets_rotate rfl fun hcheck =>
        hentitled brandId (checkBrandWriteAccess_speaks hactor hcheck)

/-- A key speaks for its own brand and registers none. -/
theorem meets_serveKey {hash : String} :
    Meets (WarrantedCall (.key hash) call) Told [] (call.serveKey p auth hash) := by
  refine ⟨.inl rfl, fun answer => ?_⟩
  cases answer with
  | error e => exact told_nothing rfl
  | ok found =>
      cases found with
      | none => exact told_nothing rfl
      | some brand =>
          let claims : Claims := ⟨"apikey:" ++ brand.brandId, "Brand", none, some brand.brandId⟩
          have hrole : claims.role ≠ "Platform" := by
            show "Brand" ≠ "Platform"
            decide
          change Meets _ _ _ (call.serve p claims)
          apply meets_serve
          · exact fun hplatform => absurd hplatform hrole
          · intro brandId hspeaks
            have hsame := Option.some.inj (hspeaks.resolve_left hrole).2
            exact .key (List.mem_singleton_self _) ⟨brand, rfl, hsame⟩

theorem meets_registry (r : RegistryRequest) :
    Meets (WarrantedCall (credential p auth r.headers) r.call) Told [] (r.handle p auth) := by
  rw [RegistryRequest.handle]
  cases credential p auth r.headers with
  | key hash => exact meets_serveKey
  | claims result =>
      cases result with
      | error message => exact told_nothing rfl
      | ok claims => exact meets_serve (fun _ => rfl) fun _ hspeaks => .claims hspeaks

end Specs

end RcProtocol.Brands
