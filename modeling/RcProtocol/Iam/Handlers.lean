import RcProtocol.Api.Auth
import RcProtocol.Iam.Repo

/-!
The handlers of go-iam that write (internal/handler), and the token of a login. The
management of users, organizations, positions and members is behind the role Platform; it
is modelled past that check.
-/

namespace RcProtocol.Iam
open Library

/-- The password hashes, which golang.org/x/crypto makes and compares. -/
structure Bcrypt where
  generate (password : String) (cost : Nat) (salt : String) : Except String String
  compare (hash password : String) : Bool
  cost (hash : String) : Nat

/-- The payload of a token; an empty brand id is left out of it. -/
structure Token where
  sub : String
  role : String
  orgID : String
  brandID : String
  scopes : List String
  exp : Int
  iat : Int
  deriving DecidableEq

/-- The claims rc-api reads of it. -/
def Token.claims (t : Token) : Claims :=
  ⟨t.sub, t.role, some t.orgID, if t.brandID = "" then none else some t.brandID⟩

inductive Reply where
  | error (statusCode : Nat) (code message : String)
  | org (statusCode : Nat) (o : Organization)
  | position (statusCode : Nat) (p : Position)
  | member (statusCode : Nat) (m : UserOrgPosition)
  | user (statusCode : Nat) (u : User)
  | done (status : String)
  | selectOrg (orgs : List UserOrgView)
  | token (t : Token) (expiresAt : Int) (u : User)
  deriving DecidableEq

def invalidInput (message : String) : Reply := .error 400 "INVALID_INPUT" message

def notFound (message : String) : Reply := .error 404 "NOT_FOUND" message

def conflict (message : String) : Reply := .error 409 "CONFLICT" message

def forbidden (message : String) : Reply := .error 403 "FORBIDDEN" message

def authRequired (message : String) : Reply := .error 401 "AUTH_REQUIRED" message

def internalError (message : String) : Reply := .error 500 "INTERNAL_ERROR" message

def invalidBody : Reply := invalidInput "invalid request body"

/-- The value of a read, or the reply for no row and the one for an error. -/
def orReply {α : Type} (noRows failed : Reply) : Except DbError α → Except Reply α
  | .ok a => .ok a
  | .error .noRows => .error noRows
  | .error _ => .error failed

/-- The reply for the outcome of a write. -/
def replied {α : Type} (outcome : Except DbError α × Store) (refuse : DbError → Reply)
    (ok : α → Reply) : Reply × Store :=
  match outcome with
  | (.error e, s) => (refuse e, s)
  | (.ok a, s) => (ok a, s)

structure CreateOrgRequest where
  orgName : String
  orgType : String
  parentOrgID : Option String := none
  brandID : Option String := none
  contactEmail : Option String := none
  contactPhone : Option String := none

structure UpdateOrgRequest where
  orgName : String
  status : String

structure CreatePositionRequest where
  positionName : String
  protocolRole : String

structure BindRequest where
  userID : String
  positionID : String

structure CreateUserRequest where
  email : String
  password : String
  displayName : String

structure UpdateUserRequest where
  displayName : String
  status : String

structure LoginRequest where
  email : String
  password : String
  orgID : Option String := none

def validOrgTypes : List String := ["platform", "brand", "factory"]

def generateBrandID (env : Env) : String :=
  "brand-" ++ toString env.now ++ "-" ++ hexEncode env.randomBytes

/-- Missing, or the empty text. -/
def blank (value : Option String) : Bool := value.getD "" = ""

namespace OrgHandler
variable (env : Env) (s : Store)

/-- The request as it is stored: a brand gets a brand id if it has none. -/
def checkCreate (body : Option CreateOrgRequest) : Except Reply CreateOrgRequest :=
  match body with
  | none => .error invalidBody
  | some req =>
      if req.orgType ∉ validOrgTypes then
        .error (invalidInput "org_type must be one of: platform, brand, factory")
      else if req.orgType = "brand" then
        if blank req.contactEmail then
          .error (invalidInput "contact_email is required for brand organizations")
        else if blank req.contactPhone then
          .error (invalidInput "contact_phone is required for brand organizations")
        else if blank req.brandID then .ok { req with brandID := some (generateBrandID env) }
        else .ok req
      else .ok req

def organization (req : CreateOrgRequest) : Organization where
  orgID := env.uuid
  orgName := req.orgName
  orgType := req.orgType
  parentOrgID := none
  brandID := req.brandID
  contactEmail := req.contactEmail
  contactPhone := req.contactPhone
  status := "active"

def create (body : Option CreateOrgRequest) : Reply × Store :=
  match checkCreate env body with
  | .error reply => (reply, s)
  | .ok req =>
      replied (createOrg env s (organization env req) req.parentOrgID)
        (fun
          | .uniqueViolation => conflict "organization already exists"
          | _ => internalError "failed to create organization")
        fun _ => .org 201 (organization env req)

def update (id : String) (body : Option UpdateOrgRequest) : Reply × Store :=
  match body with
  | none => (invalidBody, s)
  | some req =>
      replied (updateOrg env s id req.orgName req.status)
        (fun
          | .noRows => notFound "organization not found"
          | _ => internalError "failed to update organization")
        (.org 200)

end OrgHandler

/-- `orgTypeRoleCompat`. -/
def isRoleCompatible (orgType protocolRole : String) : Bool :=
  match orgType with
  | "platform" => protocolRole = "Platform" || protocolRole = "Moderator"
  | "brand" => protocolRole = "Brand"
  | "factory" => protocolRole = "Factory"
  | _ => false

namespace PositionHandler
variable (env : Env) (s : Store)

def checkCreate (orgID : String) (body : Option CreatePositionRequest) :
    Except Reply CreatePositionRequest :=
  match body with
  | none => .error invalidBody
  | some req => do
      let org ← orReply (notFound "organization not found")
        (internalError "failed to get organization") (getOrg env s orgID)
      if isRoleCompatible org.orgType req.protocolRole then .ok req
      else .error (invalidInput "protocol_role is not compatible with organization type")

def create (orgID : String) (body : Option CreatePositionRequest) : Reply × Store :=
  match checkCreate env s orgID body with
  | .error reply => (reply, s)
  | .ok req =>
      replied (createPosition env s env.uuid orgID req.positionName req.protocolRole)
        (fun _ => internalError "failed to create position") (.position 201)

end PositionHandler

namespace MemberHandler
variable (env : Env) (s : Store)

def foreignPosition : Reply := invalidInput "position does not belong to this organization"

def checkBind (orgID : String) (body : Option BindRequest) : Except Reply BindRequest :=
  match body with
  | none => .error invalidBody
  | some req => do
      let _ ← orReply (notFound "user not found") (internalError "failed to get user")
        (getUser env s req.userID)
      let pos ← orReply foreignPosition (internalError "failed to get position")
        (getPosition env s req.positionID)
      if pos.orgID.display ≠ orgID then .error foreignPosition
      else
        match existsByUserAndOrg env s req.userID orgID with
        | .error _ => .error (internalError "failed to check membership")
        | .ok true => .error (conflict "user already has a position in this organization")
        | .ok false => .ok req

def bind (orgID : String) (body : Option BindRequest) : Reply × Store :=
  match checkBind env s orgID body with
  | .error reply => (reply, s)
  | .ok req =>
      replied (bindMember env s req.userID orgID req.positionID)
        (fun _ => internalError "failed to bind member") (.member 201)

def unbind (orgID userID : String) : Reply × Store :=
  replied (unbindMember env s userID orgID)
    (fun
      | .noRows => notFound "member binding not found"
      | _ => internalError "failed to unbind member")
    fun _ => .done "unbound"

end MemberHandler

/-- An `@` that is not the first character, and a dot after the first of them. -/
def isValidEmail (email : String) : Bool :=
  let name := email.toList.takeWhile (· ≠ '@')
  let domain := email.toList.dropWhile (· ≠ '@')
  name ≠ [] && domain ≠ [] && domain.tail.contains '.'

namespace UserHandler
variable (bcrypt : Bcrypt) (env : Env) (s : Store)

def checkCreate (body : Option CreateUserRequest) : Except Reply User :=
  match body with
  | none => .error invalidBody
  | some req =>
      if !isValidEmail req.email then .error (invalidInput "invalid email format")
      else if (utf8 req.password).length < 8 then
        .error (invalidInput "password must be at least 8 characters")
      else
        match bcrypt.generate req.password 12 env.salt with
        | .error _ => .error (internalError "failed to hash password")
        | .ok hash => .ok ⟨env.uuid, req.email, hash, req.displayName, "active"⟩

def create (body : Option CreateUserRequest) : Reply × Store :=
  match checkCreate bcrypt env body with
  | .error reply => (reply, s)
  | .ok user =>
      replied (createUser env s user)
        (fun
          | .uniqueViolation => conflict "email already exists"
          | _ => internalError "failed to create user")
        fun _ => .user 201 user

def update (id : String) (body : Option UpdateUserRequest) : Reply × Store :=
  match body with
  | none => (invalidBody, s)
  | some req =>
      replied (updateUser env s id req.displayName req.status)
        (fun
          | .noRows => notFound "user not found"
          | _ => internalError "failed to update user")
        (.user 200)

def delete (id : String) : Reply × Store :=
  replied (disable env s id)
    (fun
      | .noRows => notFound "user not found"
      | _ => internalError "failed to disable user")
    fun _ => .done "disabled"

end UserHandler

namespace AuthHandler
variable (bcrypt : Bcrypt) (expiryHours : Int) (env : Env) (s : Store)

def badCredentials : Reply := authRequired "invalid email or password"

/-- The user whose password the request has. -/
def authenticate (req : LoginRequest) : Except Reply User := do
  let user ← orReply badCredentials (internalError "failed to get user")
    (getByEmail env s req.email)
  if user.status = "disabled" then .error (forbidden "user account is disabled")
  else if bcrypt.compare user.passwordHash req.password then .ok user
  else .error badCredentials

/-- A hash of a lower cost is replaced, if that can be done. -/
def rehash (user : User) (password : String) : Store :=
  if bcrypt.cost user.passwordHash < 12 then
    match bcrypt.generate password 12 env.salt with
    | .ok newHash => (updatePasswordHash env s user.userID newHash).2
    | .error _ => s
  else s

def selectOrg (orgs : List UserOrgView) (orgID : Option String) : Except Reply UserOrgView :=
  match orgs with
  | [] => .error (forbidden "user has no organization binding")
  | [org] => .ok org
  | _ =>
      if blank orgID then .error (.selectOrg orgs)
      else
        match orgs.find? (·.orgID.display = orgID.getD "") with
        | some org => .ok org
        | none =>
            .error (invalidInput "specified org_id not found in user's organizations")

def issue (user : User) (org : UserOrgView) : Except String Token :=
  match env.signFails with
  | some e => .error e
  | none =>
      .ok
        { sub := user.userID.display
          role := org.role
          orgID := org.orgID.display
          brandID := org.brandID.getD ""
          scopes := []
          exp := env.now + expiryHours * 3600
          iat := env.now }

/-- What a login answers once the user is known. -/
def answer (user : User) (orgID : Option String) : Except Reply Token :=
  match getUserOrgs env s user.userID with
  | .error _ => .error (internalError "failed to get user organizations")
  | .ok orgs => do
      let org ← selectOrg orgs orgID
      match issue expiryHours env user org with
      | .error _ => .error (internalError "failed to issue token")
      | .ok token => .ok token

def login (body : Option LoginRequest) : Reply × Store :=
  match body with
  | none => (invalidBody, s)
  | some req =>
      match authenticate bcrypt env s req with
      | .error reply => (reply, s)
      | .ok user =>
          let s := rehash bcrypt env s user req.password
          match answer expiryHours env s user req.orgID with
          | .error reply => (reply, s)
          | .ok token => (.token token token.exp user, s)

end AuthHandler

inductive Request where
  | createOrg (body : Option CreateOrgRequest)
  | updateOrg (id : String) (body : Option UpdateOrgRequest)
  | createPosition (orgID : String) (body : Option CreatePositionRequest)
  | bind (orgID : String) (body : Option BindRequest)
  | unbind (orgID userID : String)
  | createUser (body : Option CreateUserRequest)
  | updateUser (id : String) (body : Option UpdateUserRequest)
  | deleteUser (id : String)
  | login (body : Option LoginRequest)

def handle (bcrypt : Bcrypt) (expiryHours : Int) (env : Env) (s : Store) : Request → Reply × Store
  | .createOrg body => OrgHandler.create env s body
  | .updateOrg id body => OrgHandler.update env s id body
  | .createPosition orgID body => PositionHandler.create env s orgID body
  | .bind orgID body => MemberHandler.bind env s orgID body
  | .unbind orgID userID => MemberHandler.unbind env s orgID userID
  | .createUser body => UserHandler.create bcrypt env s body
  | .updateUser id body => UserHandler.update env s id body
  | .deleteUser id => UserHandler.delete env s id
  | .login body => AuthHandler.login bcrypt expiryHours env s body

/-- What is stored after the requests, each under its own environment. -/
def after (bcrypt : Bcrypt) (expiryHours : Int) (calls : List (Request × Env))
    (s : Store) : Store :=
  calls.foldl (fun s call => (handle bcrypt expiryHours call.2 s call.1).2) s

end RcProtocol.Iam
