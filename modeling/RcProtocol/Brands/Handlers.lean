import Mathlib.Data.List.Infix
import RcProtocol.Api.Auth
import RcProtocol.Brands.KeyStore

/-!
Registering a brand, rotating its API key (routes/brand.rs, auth/api_key.rs), and the
authentication by a key (auth/middleware.rs).
-/

namespace RcProtocol.Brands
open Library

structure RegisterBrandRequest where
  brandName : String
  contactEmail : String
  industry : String

structure RotateApiKeyRequest where
  reason : Option String := none

inductive Reply where
  | registered (brand : BrandRow) (keyId apiKey : String) (createdAt : Time) (note : String)
  | rotated (keyId apiKey : String) (createdAt : Time) (revokedKeyId note : String)
  | authenticated (claims : Claims)
  | unauthorized (message : String)
  | error (e : RcError)

/-- The key a reply shows. -/
def Reply.apiKey : Reply → Option String
  | .registered _ _ apiKey _ _ | .rotated _ apiKey _ _ _ => some apiKey
  | _ => none

/-- The key made of the random bytes. -/
def apiKeyOf (randomBytes : Bytes 16) : String := "rcpk_live_" ++ hexEncode randomBytes.toList

def hashApiKey (p : Primitives) (apiKey : String) : String :=
  hexEncode (p.sha256 (utf8 apiKey)).toList

def extractKeyPrefix (apiKey : String) : String := String.ofList (apiKey.toList.take 16) ++ "****"

def validateName (name field : String) : Except RcError Unit :=
  if (trim name).isEmpty then .error (.invalidInput (field ++ " cannot be empty"))
  else if 200 < (utf8 (trim name)).length then
    .error (.invalidInput (field ++ " too long (max 200 chars)"))
  else .ok ()

def validateEmail (email : String) : Except RcError Unit :=
  if (trim email).isEmpty then .error (.invalidInput "email cannot be empty")
  else if (trim email).toList.contains '@' = false then .error (.invalidInput "invalid email format")
  else if 255 < (utf8 (trim email)).length then
    .error (.invalidInput "email too long (max 255 chars)")
  else .ok ()

def validIndustries : List String := ["Watches", "Fashion", "Wine", "Jewelry", "Art", "Other"]

def validateIndustry (industry : String) : Except RcError Unit :=
  if validIndustries.contains industry then .ok ()
  else .error (.invalidInput ("invalid industry, must be one of: " ++ ", ".intercalate validIndustries))

def checkRoleAllowed (actor : ActorContext) (allowed : List ActorRole) : Except RcError Unit :=
  if allowed.contains actor.actorRole then .ok () else .error .permissionDenied

def checkBrandWriteAccess (actor : ActorContext) (brandId : String) : Except RcError Unit :=
  match actor.actorRole with
  | .platform => .ok ()
  | .brand => if actor.brandId = some brandId then .ok () else .error .brandBoundaryViolation
  | _ => .error .permissionDenied

def DbError.display (e : DbError) : String :=
  if e.code.isSome then "error returned from database: " ++ e.message else e.message

def databaseError (e : DbError) : Reply := .error (.database e.display)

/-- The error of `create_brand`: a unique index tells what there was already. -/
def brandRefused (e : DbError) : Reply :=
  let names (index : String) : Bool := index.toList <:+: e.message.toList
  if e.code = some "23505" ∧ (names "brands_contact_email_key" ∨ names "idx_brands_contact_email") then
    .error (.conflict "邮箱已被注册")
  else if e.code = some "23505" ∧ names "uq_brands_name" then .error (.conflict "品牌名称已存在")
  else databaseError e

def newApiKey (p : Primitives) (keyUlid brandId apiKey : String) (now : Time) : ApiKeyRow where
  keyId := "key_" ++ keyUlid
  brandId := brandId
  keyHash := hashApiKey p apiKey
  keyPrefix := extractKeyPrefix apiKey
  createdAt := now

section
variable (p : Primitives)

def checkRegistration (actor : ActorContext)
    (payload : RegisterBrandRequest) : Except RcError Unit := do
  checkRoleAllowed actor [.platform]
  validateName payload.brandName "brand_name"
  validateEmail payload.contactEmail
  validateIndustry payload.industry

/-- The transaction of a registration: the brand, and its first key. -/
def createBrand (brand : BrandRow) (keyUlid apiKey : String) (tx : Transaction) :
    Program interface Reply :=
  (ask (.execute tx (.insertBrand brand))).attempt brandRefused fun _ =>
    let key := newApiKey p keyUlid brand.brandId apiKey tx.now
    let tx := tx.add (.insertBrand brand)
    (ask (.execute tx (.insertApiKey key))).attempt databaseError fun _ =>
      (ask (.commit (tx.add (.insertApiKey key)))).attempt databaseError fun _ =>
        .done (.registered brand key.keyId apiKey key.createdAt "⚠️ 此 API Key 仅显示一次，请妥善保管")

def registerBrand (actor : ActorContext)
    (payload : RegisterBrandRequest) : Program interface Reply :=
  match checkRegistration actor payload with
  | .error e => .done (.error e)
  | .ok () =>
      (ask (.fetchBrandByEmail payload.contactEmail)).attempt databaseError fun existing =>
        if existing.isSome then .done (.error (.conflict "品牌邮箱已存在"))
        else
          (ask .newUlid).bind fun brandUlid =>
            (ask .randomBytes).bind fun bytes =>
              (ask .newUlid).bind fun keyUlid =>
                (ask .begin).attempt databaseError fun now =>
                  createBrand p
                    { brandId := "brand_" ++ brandUlid
                      brandName := trim payload.brandName
                      contactEmail := trim payload.contactEmail
                      industry := payload.industry
                      createdAt := now }
                    keyUlid (apiKeyOf bytes) { now := now }

/-- The transaction of a rotation, from the key that is found active. -/
def replaceApiKey (brandId keyUlid apiKey : String) (tx : Transaction) : Program interface Reply :=
  (ask (.fetchActiveApiKey tx brandId)).attempt databaseError fun oldKey =>
    (ask (.execute tx (.revokeApiKey oldKey.keyId tx.now))).attempt databaseError fun _ =>
      let key := newApiKey p keyUlid brandId apiKey tx.now
      let tx := tx.add (.revokeApiKey oldKey.keyId tx.now)
      (ask (.execute tx (.insertApiKey key))).attempt databaseError fun _ =>
        (ask (.commit (tx.add (.insertApiKey key)))).attempt databaseError fun _ =>
          .done (.rotated key.keyId apiKey key.createdAt oldKey.keyId
            "⚠️ 旧 API Key 已失效，请使用新密钥")

def rotateApiKey (actor : ActorContext) (brandId : String) (_payload : RotateApiKeyRequest) :
    Program interface Reply :=
  match checkBrandWriteAccess actor brandId with
  | .error e => .done (.error e)
  | .ok () =>
      (ask .randomBytes).bind fun bytes =>
        (ask .newUlid).bind fun keyUlid =>
          (ask .begin).attempt databaseError fun now =>
            replaceApiKey p brandId keyUlid (apiKeyOf bytes) { now := now }

/-- What the authentication asks the database comes back as what it was answered. -/
def authenticateApiKeyHash (auth : AuthState) (hash : String) : Program interface Reply :=
  (ask (.fetchBrandByApiKeyHash hash)).map fun answer =>
    let found : Except String (Option String) :=
      match answer with
      | .error e => .error e.display
      | .ok brand => .ok (brand.map (·.brandId))
    match { auth with fetchBrandByApiKeyHash := fun _ => found }.authenticateApiKeyHash hash with
    | .error message => .unauthorized message
    | .ok claims => .authenticated claims

/-- A request on brands, or under one of their keys. -/
inductive BrandRequest where
  | register (actor : ActorContext) (payload : RegisterBrandRequest)
  | rotate (actor : ActorContext) (brandId : String) (payload : RotateApiKeyRequest)
  | authenticate (auth : AuthState) (hash : String)

def BrandRequest.handle : BrandRequest → Program interface Reply
  | .register actor payload => registerBrand p actor payload
  | .rotate actor brandId payload => rotateApiKey p actor brandId payload
  | .authenticate auth hash => authenticateApiKeyHash auth hash

def BrandRequest.pool {ι : Type} (requests : ι → BrandRequest) (start : KeyDb) :
    Pool interface KeyDb ι Reply :=
  ⟨start, fun i => (requests i).handle p⟩

end

end RcProtocol.Brands
