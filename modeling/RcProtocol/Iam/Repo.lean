import RcProtocol.Workorders.Repo

/-!
The tables of go-iam and the statements of its repositories. A statement commits by
itself. The column `org_type` takes the names the handlers write.
-/

namespace RcProtocol.Iam
open Library Workorders

structure User where
  userID : Uuid
  email : String
  passwordHash : String
  displayName : String
  status : String
  deriving DecidableEq

structure Organization where
  orgID : Uuid
  orgName : String
  orgType : String
  parentOrgID : Option Uuid
  brandID : Option String
  contactEmail : Option String
  contactPhone : Option String
  status : String
  deriving DecidableEq

structure Position where
  positionID : Uuid
  orgID : Uuid
  positionName : String
  protocolRole : String
  deriving DecidableEq

structure UserOrgPosition where
  userID : Uuid
  orgID : Uuid
  positionID : Uuid
  deriving DecidableEq

structure UserOrgView where
  orgID : Uuid
  orgName : String
  orgType : String
  role : String
  brandID : Option String
  deriving DecidableEq

theorem clash_symm {a b : Uuid × String} (h : a.1 = b.1 ∨ a.2 = b.2) : b.1 = a.1 ∨ b.2 = a.2 :=
  h.imp Eq.symm Eq.symm

instance : Keyed User where
  Key := Uuid × String
  key u := (u.userID, u.email)
  Clash a b := a.1 = b.1 ∨ a.2 = b.2
  decClash _ _ := inferInstanceAs (Decidable (_ ∨ _))
  symm := clash_symm

instance : Keyed Organization where
  Key := Uuid
  key o := o.orgID
  Clash a b := a = b
  decClash _ _ := inferInstanceAs (Decidable (_ = _))
  symm h := h.symm

instance : Keyed Position where
  Key := Uuid
  key p := p.positionID
  Clash a b := a = b
  decClash _ _ := inferInstanceAs (Decidable (_ = _))
  symm h := h.symm

instance : Keyed UserOrgPosition where
  Key := Uuid × Uuid
  key m := (m.userID, m.orgID)
  Clash a b := a = b
  decClash _ _ := inferInstanceAs (Decidable (_ = _))
  symm h := h.symm

structure Store where
  users : Table User := .empty
  orgs : Table Organization := .empty
  positions : Table Position := .empty
  members : Table UserOrgPosition := .empty

inductive Stmt where
  | createOrg | getOrg | updateOrg | createPosition | getPosition
  | bind | unbind | existsByUserAndOrg | getUserOrgs
  | createUser | getUser | getByEmail | updateUser | updatePasswordHash | disable
  deriving DecidableEq

/-- What the world contributes to one request: which statements fail, and whether one that
writes had taken effect, the UUID and the bytes that are drawn, the salt of a new password
hash, the time in seconds, and whether signing fails. -/
structure Env where
  fails : Stmt → Option String := fun _ => none
  applied : Bool := false
  uuid : Uuid := .repeated 0
  randomBytes : List UInt8 := [0, 0, 0]
  salt : String := ""
  now : Int := 0
  signFails : Option String := none

inductive DbError where
  | noRows
  | uniqueViolation
  | other (message : String)

def orgTypes : List String := ["platform", "brand", "factory"]

def protocolRoles : List String := ["Platform", "Brand", "Factory", "Consumer", "Moderator"]

section Statements
variable (env : Env) (s : Store)

def query {α : Type} (q : Stmt) (a : Except DbError α) : Except DbError α :=
  match env.fails q with
  | some e => .error (.other e)
  | none => a

/-- The statement answers what it has done; one that fails has done it or nothing. -/
def command {α : Type} (q : Stmt) (outcome : Except DbError (α × Store)) :
    Except DbError α × Store :=
  match env.fails q, outcome with
  | some e, .ok (_, s') => (.error (.other e), if env.applied then s' else s)
  | some e, .error _ => (.error (.other e), s)
  | none, .error e => (.error e, s)
  | none, .ok (a, s') => (.ok a, s')

/-- A parameter that goes into a UUID column. -/
def uuidParam (text : String) : Except DbError Uuid :=
  match uuidIn text with
  | none => .error (.other badArgument)
  | some id => .ok id

def found {α : Type} : Option α → Except DbError α
  | none => .error .noRows
  | some a => .ok a

def inserted {ρ α : Type} [Keyed ρ] (t : Table ρ) (r : ρ) (f : Table ρ → α) : Except DbError α :=
  match t.insert r with
  | none => .error .uniqueViolation
  | some t' => .ok (f t')

def missingReference : DbError := .other "violates foreign key constraint"

def Store.org (orgID : Uuid) : Option Organization := s.orgs.find (·.orgID = orgID)

def parentParam : Option String → Except DbError (Option Uuid)
  | none => .ok none
  | some text => (uuidParam text).map some

/-- `INSERT INTO organizations`; the parent is the text of the request. -/
def createOrg (org : Organization) (parentOrgID : Option String) : Except DbError Unit × Store :=
  command env s .createOrg do
    let parent ← parentParam parentOrgID
    if org.orgType ∉ orgTypes then .error (.other badArgument)
    else if parent.any fun id => (s.org id).isNone then .error missingReference
    else inserted s.orgs { org with parentOrgID := parent } fun t => ((), { s with orgs := t })

def getOrg (orgID : String) : Except DbError Organization :=
  query env .getOrg do found (s.org (← uuidParam orgID))

def setOrg (orgName status : String) (o : Organization) : Organization :=
  { o with orgName := orgName, status := status }

def updateOrg (orgID orgName status : String) : Except DbError Organization × Store :=
  command env s .updateOrg do
    let id ← uuidParam orgID
    let o ← found (s.org id)
    .ok (setOrg orgName status o, { s with
      orgs := s.orgs.update (·.orgID = id) (setOrg orgName status) fun _ => rfl })

def Store.position (positionID : Uuid) : Option Position :=
  s.positions.find (·.positionID = positionID)

def createPosition (positionID : Uuid) (orgID positionName protocolRole : String) :
    Except DbError Position × Store :=
  command env s .createPosition do
    let id ← uuidParam orgID
    if protocolRole ∉ protocolRoles then .error (.other badArgument)
    else if (s.org id).isNone then .error missingReference
    else
      inserted s.positions ⟨positionID, id, positionName, protocolRole⟩ fun t =>
        (⟨positionID, id, positionName, protocolRole⟩, { s with positions := t })

def getPosition (positionID : String) : Except DbError Position :=
  query env .getPosition do found (s.position (← uuidParam positionID))

def Store.user (userID : Uuid) : Option User := s.users.find (·.userID = userID)

def createUser (user : User) : Except DbError Unit × Store :=
  command env s .createUser (inserted s.users user fun t => ((), { s with users := t }))

def getUser (userID : String) : Except DbError User :=
  query env .getUser do found (s.user (← uuidParam userID))

def getByEmail (email : String) : Except DbError User :=
  query env .getByEmail (found (s.users.find (·.email = email)))

def Store.updateUsers (userID : Uuid) (f : User → User) (hf : ∀ u, Keyed.key (f u) = Keyed.key u) :
    Store :=
  { s with users := s.users.update (·.userID = userID) f hf }

def setUser (displayName status : String) (u : User) : User :=
  { u with displayName := displayName, status := status }

def updateUser (userID displayName status : String) : Except DbError User × Store :=
  command env s .updateUser do
    let id ← uuidParam userID
    let u ← found (s.user id)
    .ok (setUser displayName status u, s.updateUsers id (setUser displayName status) fun _ => rfl)

def updatePasswordHash (userID : Uuid) (newHash : String) : Except DbError Unit × Store :=
  command env s .updatePasswordHash
    (.ok ((), s.updateUsers userID (fun u => { u with passwordHash := newHash }) fun _ => rfl))

def disable (userID : String) : Except DbError Unit × Store :=
  command env s .disable do
    let id ← uuidParam userID
    let _ ← found (s.user id)
    .ok ((), s.updateUsers id (fun u => { u with status := "disabled" }) fun _ => rfl)

def Store.member (userID orgID : Uuid) : Option UserOrgPosition :=
  s.members.find fun m => m.userID = userID ∧ m.orgID = orgID

def existsByUserAndOrg (userID orgID : String) : Except DbError Bool :=
  query env .existsByUserAndOrg do
    let user ← uuidParam userID
    let org ← uuidParam orgID
    .ok (s.member user org).isSome

def bindMember (userID orgID positionID : String) : Except DbError UserOrgPosition × Store :=
  command env s .bind do
    let user ← uuidParam userID
    let org ← uuidParam orgID
    let position ← uuidParam positionID
    if (s.user user).isNone ∨ (s.org org).isNone ∨ (s.position position).isNone then
      .error missingReference
    else
      inserted s.members ⟨user, org, position⟩ fun t =>
        (⟨user, org, position⟩, { s with members := t })

def unbindMember (userID orgID : String) : Except DbError Unit × Store :=
  command env s .unbind do
    let user ← uuidParam userID
    let org ← uuidParam orgID
    let _ ← found (s.member user org)
    .ok ((), { s with members := s.members.delete fun m => m.userID = user ∧ m.orgID = org })

def Store.view (m : UserOrgPosition) : Option UserOrgView := do
  let o ← s.org m.orgID
  let p ← s.position m.positionID
  some ⟨o.orgID, o.orgName, o.orgType, p.protocolRole, o.brandID⟩

def getUserOrgs (userID : Uuid) : Except DbError (List UserOrgView) :=
  query env .getUserOrgs (.ok ((s.members.rows.filter (·.userID = userID)).filterMap s.view))

end Statements

end RcProtocol.Iam
