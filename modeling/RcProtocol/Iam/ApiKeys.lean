import Mathlib.Data.List.Sort
import RcProtocol.Iam.Handlers

/-!
The API keys of go-iam (handler/apikey.go, ValidateApiKey, repo/apikey.go). The time a key
was used last and the one it was revoked at are left out; no check reads them.
-/

namespace RcProtocol.Iam
open Library Workorders

structure BrandApiKey where
  keyID : Uuid
  orgID : Uuid
  keyHash : String
  description : Option String
  status : String
  createdAt : Int
  deriving DecidableEq

instance : Keyed BrandApiKey where
  Key := Uuid
  key k := k.keyID
  Clash a b := a = b
  decClash _ _ := inferInstanceAs (Decidable (_ = _))
  symm h := h.symm

structure KeyStore extends Store where
  apiKeys : Table BrandApiKey := .empty

inductive KeyStmt where
  | create | getActiveKeysByOrg | revoke
  deriving DecidableEq

/-- The UUID of the request is the id of a new key, and its salt is the salt of the hash. -/
structure KeyEnv extends Env where
  keyFails : KeyStmt → Option String := fun _ => none
  random : Except String (Bytes 16)

/-- `bcrypt.DefaultCost`. -/
def defaultCost : Nat := 10

section Statements
variable (env : KeyEnv) (s : KeyStore)

def keyQuery {α : Type} (q : KeyStmt) (a : Except DbError α) : Except DbError α :=
  match env.keyFails q with
  | some e => .error (.other e)
  | none => a

def keyCommand (q : KeyStmt) (outcome : Except DbError KeyStore) : Except DbError Unit × KeyStore :=
  match env.keyFails q, outcome with
  | some e, .ok s' => (.error (.other e), if env.applied then s' else s)
  | some e, .error _ => (.error (.other e), s)
  | none, .error e => (.error e, s)
  | none, .ok s' => (.ok (), s')

/-- A parameter that goes into a `TEXT` column, which holds no zero byte. -/
def textParam (text : Option String) : Except DbError (Option String) :=
  if text.any fun t => t.toList.contains '\x00' then
    .error (.other "invalid byte sequence for encoding \"UTF8\": 0x00")
  else .ok text

/-- `INSERT INTO brand_api_keys`. -/
def createApiKey (keyID : Uuid) (orgID keyHash : String) (description : Option String)
    (status : String) (createdAt : Int) : Except DbError Unit × KeyStore :=
  keyCommand env s .create do
    let org ← uuidParam orgID
    let description ← textParam description
    if (s.org org).isNone then .error missingReference
    else
      inserted s.apiKeys ⟨keyID, org, keyHash, description, status, createdAt⟩ fun t =>
        { s with apiKeys := t }

/-- The active keys of the organization, the latest first. -/
def getActiveKeysByOrg (orgID : String) : Except DbError (List BrandApiKey) :=
  keyQuery env .getActiveKeysByOrg do
    let org ← uuidParam orgID
    .ok ((s.apiKeys.rows.filter fun k => k.orgID = org && k.status = "active").insertionSort
      fun a b => b.createdAt ≤ a.createdAt)

/-- Revoking a key that is not there does nothing. -/
def revokeApiKey (keyID : String) : Except DbError Unit × KeyStore :=
  keyCommand env s .revoke do
    let id ← uuidParam keyID
    .ok { s with
      apiKeys := s.apiKeys.update (·.keyID = id) (fun k => { k with status := "revoked" })
        fun _ => rfl }

end Statements

inductive KeyReply where
  | error (statusCode : Nat) (code message : String)
  | created (keyID : Uuid) (apiKey : String) (createdAt : Int)
  | revoked
  | validated (orgID : Uuid) (brandID : Option String) (orgName : String)
  | other (reply : Reply)
  deriving DecidableEq

def keyInternalError (message : String) : KeyReply := .error 500 "INTERNAL_ERROR" message

def invalidApiKey (message : String) : KeyReply := .error 401 "INVALID_API_KEY" message

def generateApiKey (env : KeyEnv) (orgID : String) : Except String String :=
  env.random.map fun bytes => "brand_" ++ orgID ++ "_" ++ hexEncode bytes.toList

/-- The text between the two separators. -/
def extractOrgIDFromKey (apiKey : String) : Except String String :=
  match apiKey.toList.splitOn '_' with
  | [first, orgID, _] =>
      if first = "brand".toList then .ok (String.ofList orgID)
      else .error "invalid API key format"
  | _ => .error "invalid API key format"

namespace ApiKeyHandler
variable (bcrypt : Bcrypt) (env : KeyEnv) (s : KeyStore)

/-- The organization of the request. The repository answers a missing one with an error. -/
def brandOrg (orgID : String) : Except KeyReply Organization :=
  match getOrg env.toEnv s.toStore orgID with
  | .error _ => .error (keyInternalError "Failed to query organization")
  | .ok org =>
      if org.orgType ≠ "brand" then
        .error (.error 400 "INVALID_ORG_TYPE" "Only brand organizations can create API keys")
      else .ok org

/-- The new key and its hash. -/
def newKey (orgID : String) : Except KeyReply (String × String) :=
  match generateApiKey env orgID with
  | .error _ => .error (keyInternalError "Failed to generate API key")
  | .ok apiKeyPlaintext =>
      match bcrypt.generate apiKeyPlaintext defaultCost env.salt with
      | .error _ => .error (keyInternalError "Failed to hash API key")
      | .ok keyHash => .ok (apiKeyPlaintext, keyHash)

/-- The body is the description of the key, where it can be decoded. -/
def create (orgID : String) (body : Option (Option String)) : KeyReply × KeyStore :=
  match brandOrg env s orgID with
  | .error reply => (reply, s)
  | .ok _ =>
      match body with
      | none => (.error 400 "INVALID_JSON" "Invalid JSON body", s)
      | some description =>
          match newKey bcrypt env orgID with
          | .error reply => (reply, s)
          | .ok (apiKeyPlaintext, keyHash) =>
              match createApiKey env s env.uuid orgID keyHash description "active" env.now with
              | (.error _, s) => (keyInternalError "Failed to create API key", s)
              | (.ok _, s) => (.created env.uuid apiKeyPlaintext env.now, s)

def revoke (keyID : String) : KeyReply × KeyStore :=
  match revokeApiKey env s keyID with
  | (.error _, s) => (keyInternalError "Failed to revoke API key", s)
  | (.ok _, s) => (.revoked, s)

end ApiKeyHandler

namespace AuthHandler
variable (bcrypt : Bcrypt) (env : KeyEnv) (s : KeyStore)

def validateApiKey (body : Option String) : KeyReply :=
  match body with
  | none => .error 400 "INVALID_INPUT" "invalid request body"
  | some apiKey =>
      if apiKey = "" then .error 400 "INVALID_INPUT" "api_key is required"
      else
        match extractOrgIDFromKey apiKey with
        | .error _ =>
            invalidApiKey "legacy API key format not recognized by go-iam compatibility endpoint"
        | .ok orgID =>
            match getActiveKeysByOrg env s orgID with
            | .error _ => keyInternalError "failed to query API keys"
            | .ok keys =>
                if keys.any fun k => bcrypt.compare k.keyHash apiKey then
                  match getOrg env.toEnv s.toStore orgID with
                  | .error _ => keyInternalError "failed to query organization"
                  | .ok org => .validated org.orgID org.brandID org.orgName
                else invalidApiKey "API key not found or revoked"

end AuthHandler

inductive KeyRequest where
  | create (orgID : String) (body : Option (Option String))
  | revoke (keyID : String)
  | validate (body : Option String)
  | other (request : Request)

def handleKeys (bcrypt : Bcrypt) (expiryHours : Int) (env : KeyEnv) (s : KeyStore) :
    KeyRequest → KeyReply × KeyStore
  | .create orgID body => ApiKeyHandler.create bcrypt env s orgID body
  | .revoke keyID => ApiKeyHandler.revoke env s keyID
  | .validate body => (AuthHandler.validateApiKey bcrypt env s body, s)
  | .other request =>
      let (reply, s') := handle bcrypt expiryHours env.toEnv s.toStore request
      (.other reply, { s with toStore := s' })

end RcProtocol.Iam
