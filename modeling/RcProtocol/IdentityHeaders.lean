import RcProtocol.Api.Auth
import RcProtocol.Gateway.Auth

/-!
Whose word the identity headers of a forwarded request are. The gateway strips what
a client may have put under the names of the claims, but not under that of the hash
of an API key, which rc-api takes before any token.
-/

namespace RcProtocol
open Library Gateway

/-- The headers rc-api and the Go services take the caller's identity from. -/
def identityHeaders : List String :=
  ["X-Api-Key-Hash", "X-Claims-Sub", "X-Claims-Role", "X-Claims-Org-Id", "X-Claims-Brand-Id"]

/-- What a client proves who they are with. -/
inductive Credential where
  | apiKey (key : String)
  | token (claims : Gateway.Claims)

/-- The identity headers of a credential. -/
def Credential.headers (p : Primitives) : Credential → List (String × String)
  | apiKey key => [("X-Api-Key-Hash", hashApiKey p key), ("X-Claims-Role", "Brand")]
  | token claims =>
      [("X-Claims-Sub", claims.sub), ("X-Claims-Role", claims.role),
        ("X-Claims-Org-Id", claims.orgID), ("X-Claims-Brand-Id", claims.brandID)]

/-- The request presents the credential, and the gateway has checked it: a key for its
form and its route, a token for who issued it and its role. -/
def Verified (issued : String → Gateway.Claims → Prop) (r : Request) : Credential → Prop
  | .apiKey key =>
      r.header.get apiKeyHeader = key ∧ hasPrefix key apiKeyPrefix = true ∧
        isPublicPath r.path = false ∧ supportsApiKey r.path = true
  | .token claims =>
      ∃ token, r.header.get "Authorization" = "Bearer " ++ token ∧ issued token claims ∧
        claims.role ∈ validRoles ∧ isPublicPath r.path = false

structure Trusted (p : Primitives) (issued : String → Gateway.Claims → Prop)
    (r forwarded : Request) : Prop where
  set : ∀ name ∈ identityHeaders, ∀ value ∈ forwarded.header.values name,
    ∃ credential, Verified issued r credential ∧ (name, value) ∈ credential.headers p
  hashed : ∀ (auth : AuthState) claims hash,
    auth.presented (.ofHeader forwarded.header) = .apiKeyHash hash →
      auth.authMiddleware (.ofHeader forwarded.header) p = .ok claims →
        ∃ key ∈ r.header.values apiKeyHeader, hashApiKey p key = hash

/-- The client sends no hash, or a key whose hash replaces it. -/
def BringsNoHash (r : Request) : Prop :=
  r.header.values "X-Api-Key-Hash" = [] ∨
    isPublicPath r.path = false ∧ r.header.get apiKeyHeader ≠ ""

section Requests
variable {p : Primitives} {parse : String → Option Gateway.Claims}
  {issued : String → Gateway.Claims → Prop} {r forwarded : Request} {name value : String}

theorem canonical_identityHeaders (hname : name ∈ identityHeaders) : canonicalName name = name := by
  simp only [identityHeaders, List.mem_cons, List.not_mem_nil, or_false] at hname
  obtain rfl | rfl | rfl | rfl | rfl := hname <;> decide

/-- The fields as stripped: of the identity headers only a hash is left. -/
theorem values_stripped (hname : name ∈ identityHeaders)
    (hvalue : value ∈ (claimsHeaders.foldl Header.del r.header).values name) :
    name = "X-Api-Key-Hash" ∧ value ∈ r.header.values name := by
  rw [Header.values_dels] at hvalue
  simp only [identityHeaders, List.mem_cons, List.not_mem_nil, or_false] at hname
  obtain rfl | hname := hname
  · rw [if_neg (by decide)] at hvalue
    exact ⟨rfl, hvalue⟩
  · have hstripped : canonicalName name ∈ claimsHeaders.map canonicalName := by
      obtain rfl | rfl | rfl | rfl := hname <;> decide
    rw [if_pos hstripped] at hvalue
    exact absurd hvalue List.not_mem_nil

theorem get_stripped (hname : canonicalName name ∉ claimsHeaders.map canonicalName) :
    (claimsHeaders.foldl Header.del r.header).get name = r.header.get name := by
  rw [Header.get, Header.values_dels, if_neg hname, Header.get]

/-- What is forwarded, by the three ways through: past no check, with an API key, with a token. -/
inductive Forwards (p : Primitives) (parse : String → Option Gateway.Claims) (r : Request) :
    Request → Prop
  | unchecked (hpath : isPublicPath r.path = true) :
      Forwards p parse r { r with header := claimsHeaders.foldl Header.del r.header }
  | hashed (hpath : isPublicPath r.path = false) (hkey : r.header.get apiKeyHeader ≠ "")
      (hroute : supportsApiKey r.path = true)
      (hform : hasPrefix (r.header.get apiKeyHeader) apiKeyPrefix = true) :
      Forwards p parse r
        (((Request.mk r.path (claimsHeaders.foldl Header.del r.header)).set "X-Api-Key-Hash"
          (hashApiKey p (r.header.get apiKeyHeader))).set "X-Api-Key-Verified" "hash-only" |>.set
            "X-Claims-Role" "Brand")
  | claimed {token : String} {claims : Gateway.Claims} (hpath : isPublicPath r.path = false)
      (hkey : r.header.get apiKeyHeader = "")
      (htoken : r.header.get "Authorization" = "Bearer " ++ token)
      (hparse : parse token = some claims) (hrole : claims.role ∈ validRoles) :
      Forwards p parse r
        ((Request.mk r.path (claimsHeaders.foldl Header.del r.header)).claimed claims)

theorem auth_forwards (h : auth p parse r = .ok forwarded) : Forwards p parse r forwarded := by
  have hkey : (claimsHeaders.foldl Header.del r.header).get apiKeyHeader =
      r.header.get apiKeyHeader := get_stripped (by decide)
  have hauthorization : (claimsHeaders.foldl Header.del r.header).get "Authorization" =
      r.header.get "Authorization" := get_stripped (by decide)
  simp only [auth, hkey, hauthorization] at h
  split at h
  · next hpath =>
    obtain rfl := Except.ok.inj h
    exact .unchecked hpath
  next hpath =>
  have hpath : isPublicPath r.path = false := by simpa using hpath
  split at h
  · next hkey =>
    split at h
    · cases h
    next hroute =>
    split at h
    · cases h
    next hform =>
    obtain rfl := Except.ok.inj h
    exact .hashed hpath hkey (by simpa using hroute) (by simpa using hform)
  · next hkey =>
    split at h
    · cases h
    split at h
    · cases h
    next htoken =>
    split at h
    · cases h
    next claims hparse =>
    split at h
    · cases h
    next hrole =>
    obtain rfl := Except.ok.inj h
    refine .claimed hpath (by simpa using hkey) ?_ hparse (by simpa using hrole)
    refine hasPrefix_append ?_
    by_contra hno
    exact htoken (if_neg hno)

/-- A hash the client has sent stays, unless its key is hashed in its place. -/
theorem bringsNoHash_of_set (h : Forwards p parse r forwarded)
    (hset : ∀ name ∈ identityHeaders, ∀ value ∈ forwarded.header.values name,
      ∃ credential, Verified issued r credential ∧ (name, value) ∈ credential.headers p) :
    BringsNoHash r := by
  have hkept : (claimsHeaders.foldl Header.del r.header).values "X-Api-Key-Hash" =
      r.header.values "X-Api-Key-Hash" := by
    rw [Header.values_dels, if_neg (by decide)]
  by_contra hbrings
  obtain ⟨hhash, hplain⟩ := not_or.mp hbrings
  obtain ⟨value, hvalue⟩ := List.exists_mem_of_ne_nil _ hhash
  have hforwarded : value ∈ forwarded.header.values "X-Api-Key-Hash" := by
    cases h with
    | unchecked => rwa [hkept]
    | hashed hpath hkey => exact absurd ⟨hpath, hkey⟩ hplain
    | claimed =>
        rw [claimed_other (by decide)]
        rwa [hkept]
  obtain ⟨credential, hverified, hmem⟩ := hset _ (by decide) value hforwarded
  cases credential with
  | apiKey key =>
      obtain ⟨hkey, hform, hpath, -⟩ := hverified
      refine hplain ⟨hpath, fun hempty => ?_⟩
      rw [← hkey, hempty] at hform
      exact absurd hform (by decide)
  | token claims => simp [Credential.headers] at hmem

/-- Without a hash of the client's, every identity header is that of its credential. -/
theorem set_of_bringsNoHash (h : Forwards p parse r forwarded)
    (sound : ∀ token claims, parse token = some claims → issued token claims)
    (hbrings : BringsNoHash r) (hname : name ∈ identityHeaders)
    (hvalue : value ∈ forwarded.header.values name) :
    ∃ credential, Verified issued r credential ∧ (name, value) ∈ credential.headers p := by
  have hcanonical := canonical_identityHeaders hname
  have hnone : isPublicPath r.path = true ∨ r.header.get apiKeyHeader = "" →
      value ∉ (claimsHeaders.foldl Header.del r.header).values name := by
    intro hplain hstripped
    obtain ⟨rfl, hvalue⟩ := values_stripped hname hstripped
    obtain hhash | ⟨hpath, hkey⟩ := hbrings
    · rw [hhash] at hvalue
      exact absurd hvalue List.not_mem_nil
    · obtain hpublic | hempty := hplain
      · rw [hpath] at hpublic
        cases hpublic
      · exact hkey hempty
  cases h with
  | unchecked hpath => exact absurd hvalue (hnone (.inl hpath))
  | hashed hpath hkey hroute hform =>
      refine ⟨.apiKey _, ⟨rfl, hform, hpath, hroute⟩, ?_⟩
      simp only [Credential.headers, List.mem_cons, List.not_mem_nil, or_false]
      obtain hrole | hvalue := mem_values_set (by decide) hcanonical hvalue
      · exact .inr hrole
      obtain hverified | hvalue := mem_values_set (by decide) hcanonical hvalue
      · obtain ⟨rfl, -⟩ := Prod.mk.inj hverified
        exact absurd hname (by decide)
      by_cases hhash : name = "X-Api-Key-Hash"
      · subst hhash
        simp only [Request.set, Header.values_set_self] at hvalue
        exact .inl (by rw [List.mem_singleton.mp hvalue])
      · obtain hset | hvalue := mem_values_set (by decide) hcanonical hvalue
        · exact .inl hset
        · exact absurd (values_stripped hname hvalue).1 hhash
  | claimed hpath hkey htoken hparse hrole =>
      obtain hmem | hvalue := claimed_values hcanonical hvalue
      · exact ⟨.token _, ⟨_, htoken, sound _ _ hparse, hrole, hpath⟩, hmem⟩
      · exact absurd hvalue (hnone (.inr hkey))

theorem mem_of_ofHeader {header : Header} {name value : String}
    (h : optionalHeader (.ofHeader header) name = some value) : value ∈ header.values name := by
  simp only [optionalHeader, HeaderMap.ofHeader] at h
  cases hv : header.values name with
  | nil =>
      rw [hv] at h
      cases h
  | cons v vs =>
      rw [hv] at h
      simp only [List.head?_cons, Option.map_some, Option.bind_some] at h
      split at h
      · rw [← Option.some.inj h]
        exact List.mem_cons_self ..
      · cases h

/-- Every identity header of a forwarded request comes from a credential checked on
it, if and only if the client brings no hash of its own past the gateway. -/
theorem identity_trusted_iff
    (sound : ∀ token claims, parse token = some claims → issued token claims)
    (h : auth p parse r = .ok forwarded) : Trusted p issued r forwarded ↔ BringsNoHash r := by
  have hforwards := auth_forwards h
  constructor
  · intro htrusted
    exact bringsNoHash_of_set hforwards htrusted.set
  · intro hbrings
    have hset : ∀ name ∈ identityHeaders, ∀ value ∈ forwarded.header.values name,
        ∃ credential, Verified issued r credential ∧ (name, value) ∈ credential.headers p :=
      fun name hname value hvalue => set_of_bringsNoHash hforwards sound hbrings hname hvalue
    refine ⟨hset, fun auth claims hash hpresented _ => ?_⟩
    have hvalue := mem_of_ofHeader (AuthState.presented_apiKeyHash hpresented)
    obtain ⟨credential, hverified, hmem⟩ := hset _ (by decide) hash hvalue
    cases credential with
    | token claims => simp [Credential.headers] at hmem
    | apiKey key =>
        obtain ⟨rfl, hform, -⟩ := hverified
        have hkey : r.header.get apiKeyHeader ≠ "" := by
          intro hempty
          rw [hempty] at hform
          exact absurd hform (by decide)
        refine ⟨_, Header.get_mem hkey, ?_⟩
        simpa [Credential.headers, eq_comm] using hmem

end Requests

section Sample

def consumerClaims : Gateway.Claims := { sub := "user", role := "Consumer" }

/-- The one token the library accepts. -/
def parseSample (token : String) : Option Gateway.Claims :=
  if token = "t" then some consumerClaims else none

/-- A consumer asks to freeze an asset. -/
def consumerRequest (lines : List (String × String)) : Request where
  path := "/api/protocol/assets/a/freeze"
  header := .received (("authorization", "Bearer t") :: lines)

theorem identity_trusted_iff_stripped :
    (auth default parseSample (consumerRequest [("x-claims-role", "Platform")])).isOk = true ∧
      ∀ forwarded, auth default parseSample (consumerRequest [("x-claims-role", "Platform")]) =
        .ok forwarded → Trusted default (fun token claims => parseSample token = some claims)
          (consumerRequest [("x-claims-role", "Platform")]) forwarded := by
  refine ⟨by decide, fun forwarded h => ?_⟩
  exact (identity_trusted_iff (fun _ _ h => h) h).mpr (.inl (by decide))

/-- An rc-api with one brand, whose key has the hash. -/
def brandAuth : AuthState where
  authDisabled := false
  decode _ := .error "no token"
  fetchBrandByApiKeyHash hash := .ok (if hash = "victim" then some "brand" else none)

/-- The hash of another's key rides along with a token of one's own. -/
theorem client_hash_is_forwarded :
    ¬∀ (p : Primitives) (parse : String → Option Gateway.Claims)
      (issued : String → Gateway.Claims → Prop) (lines : List (String × String)) (path : String)
      (forwarded : Request),
      (∀ token claims, parse token = some claims → issued token claims) →
        auth p parse ⟨path, .received lines⟩ = .ok forwarded →
          Trusted p issued ⟨path, .received lines⟩ forwarded := by
  intro hall
  have htrusted := hall default parseSample (fun token claims => parseSample token = some claims)
    [("authorization", "Bearer t"), ("x-api-key-hash", "victim")] "/api/protocol/assets/a/freeze"
  have hpresented : (auth default parseSample (consumerRequest [("x-api-key-hash", "victim")])).map
      (fun f => brandAuth.presented (.ofHeader f.header)) = .ok (.apiKeyHash "victim") := by decide
  have hbrand : (auth default parseSample (consumerRequest [("x-api-key-hash", "victim")])).map
      (fun f => brandAuth.authMiddleware (.ofHeader f.header) default) =
        .ok (.ok ⟨"apikey:brand", "Brand", none, some "brand"⟩) := by decide
  cases hauth : auth default parseSample (consumerRequest [("x-api-key-hash", "victim")]) with
  | error e =>
      rw [hauth] at hpresented
      cases hpresented
  | ok forwarded =>
      rw [hauth] at hpresented hbrand
      obtain ⟨key, hkey, -⟩ := (htrusted forwarded (fun _ _ h => h) hauth).hashed brandAuth _ _
        (Except.ok.inj hpresented) (Except.ok.inj hbrand)
      have hnone : (consumerRequest [("x-api-key-hash", "victim")]).header.values apiKeyHeader =
          [] := by decide
      rw [show (Header.received _).values apiKeyHeader = [] from hnone] at hkey
      exact absurd hkey List.not_mem_nil

end Sample

end RcProtocol
