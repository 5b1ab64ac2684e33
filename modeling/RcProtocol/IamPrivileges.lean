import RcProtocol.IamTokens

/-!
What an account can do over a run of requests. A disabled user gets no token until his status
is set again, and the role a login names for a user in an organization is the one he was bound
to, until he is unbound.
-/

namespace RcProtocol.Iam
open Library Workorders

/-- The rows a request adds, or the ones it changes. -/
inductive Effect (s : Store) (request : Request) : Store → Prop
  | same : Effect s request s
  | org (o : Organization) (orgs : Table Organization) (h : s.orgs.insert o = some orgs) :
      Effect s request { s with orgs := orgs }
  | setOrg (orgID : Uuid) (orgName status : String) :
      Effect s request { s with
        orgs := s.orgs.update (·.orgID = orgID) (setOrg orgName status) fun _ => rfl }
  | position (p : Position) (positions : Table Position) (h : s.positions.insert p = some positions) :
      Effect s request { s with positions := positions }
  | member (m : UserOrgPosition) (members : Table UserOrgPosition)
      (h : s.members.insert m = some members) : Effect s request { s with members := members }
  | unbound (org user : String) (orgID userID : Uuid) (hrequest : request = .unbind org user)
      (horg : uuidIn org = some orgID) (huser : uuidIn user = some userID) :
      Effect s request { s with
        members := s.members.delete fun m => m.userID = userID ∧ m.orgID = orgID }
  | user (u : User) (users : Table User) (h : s.users.insert u = some users) :
      Effect s request { s with users := users }
  | rehashed (userID : Uuid) (newHash : String) :
      Effect s request (s.updateUsers userID (fun u => { u with passwordHash := newHash })
        fun _ => rfl)
  | setUser (id : String) (body : UpdateUserRequest) (userID : Uuid)
      (hrequest : request = .updateUser id (some body)) (hid : uuidIn id = some userID) :
      Effect s request (s.updateUsers userID (setUser body.displayName body.status) fun _ => rfl)
  | disabled (userID : Uuid) :
      Effect s request (s.updateUsers userID (fun u => { u with status := "disabled" }) fun _ => rfl)

section Effects
variable {bcrypt : Bcrypt} {expiryHours : Int} {env : Env} {s s' : Store} {request : Request}

/-- A statement has the effect it says or none, whatever fails. -/
theorem command_effect {α : Type} {q : Stmt} {outcome : Except DbError (α × Store)}
    (h : ∀ a s', outcome = .ok (a, s') → Effect s request s') :
    Effect s request (command env s q outcome).2 := by
  cases @command_state env s α q outcome with
  | inl hs =>
      rw [hs]
      exact .same
  | inr hok =>
      obtain ⟨a, ha⟩ := hok
      exact h a _ ha

theorem createOrg_effect {body : Option CreateOrgRequest} :
    Effect s request (OrgHandler.create env s body).2 := by
  dsimp only [OrgHandler.create]
  split
  · exact .same
  · rw [replied_state]
    apply command_effect
    intro a s' h
    obtain ⟨parent, -, h⟩ := bind_ok h
    split at h
    · cases h
    · split at h
      · cases h
      · obtain ⟨orgs, horgs, heq⟩ := inserted_ok h
        cases heq
        exact .org _ orgs horgs

theorem updateOrg_effect {id : String} {body : Option UpdateOrgRequest} :
    Effect s request (OrgHandler.update env s id body).2 := by
  cases body with
  | none => exact .same
  | some req =>
      dsimp only [OrgHandler.update]
      rw [replied_state]
      apply command_effect
      intro a s' h
      obtain ⟨orgID, -, h⟩ := bind_ok h
      obtain ⟨o, -, h⟩ := bind_ok h
      cases h
      exact .setOrg orgID req.orgName req.status

theorem createPosition_effect {orgID : String} {body : Option CreatePositionRequest} :
    Effect s request (PositionHandler.create env s orgID body).2 := by
  dsimp only [PositionHandler.create]
  split
  · exact .same
  · rw [replied_state]
    apply command_effect
    intro a s' h
    obtain ⟨id, -, h⟩ := bind_ok h
    split at h
    · cases h
    · split at h
      · cases h
      · obtain ⟨positions, hpositions, heq⟩ := inserted_ok h
        cases heq
        exact .position _ positions hpositions

theorem bind_effect {orgID : String} {body : Option BindRequest} :
    Effect s request (MemberHandler.bind env s orgID body).2 := by
  dsimp only [MemberHandler.bind]
  split
  · exact .same
  · rw [replied_state]
    apply command_effect
    intro a s' h
    obtain ⟨user, -, h⟩ := bind_ok h
    obtain ⟨org, -, h⟩ := bind_ok h
    obtain ⟨position, -, h⟩ := bind_ok h
    split at h
    · cases h
    · obtain ⟨members, hmembers, heq⟩ := inserted_ok h
      cases heq
      exact .member _ members hmembers

theorem unbind_effect {orgID userID : String} :
    Effect s (.unbind orgID userID) (MemberHandler.unbind env s orgID userID).2 := by
  dsimp only [MemberHandler.unbind]
  rw [replied_state]
  apply command_effect
  intro a s' h
  obtain ⟨user, huser, h⟩ := bind_ok h
  obtain ⟨org, horg, h⟩ := bind_ok h
  obtain ⟨m, -, h⟩ := bind_ok h
  cases h
  exact .unbound orgID userID org user rfl (uuidParam_ok horg) (uuidParam_ok huser)

theorem createUser_effect {body : Option CreateUserRequest} :
    Effect s request (UserHandler.create bcrypt env s body).2 := by
  dsimp only [UserHandler.create]
  split
  · exact .same
  · rw [replied_state]
    apply command_effect
    intro a s' h
    obtain ⟨users, husers, heq⟩ := inserted_ok h
    cases heq
    exact .user _ users husers

theorem updateUser_effect {id : String} {body : Option UpdateUserRequest} :
    Effect s (.updateUser id body) (UserHandler.update env s id body).2 := by
  cases body with
  | none => exact .same
  | some req =>
      dsimp only [UserHandler.update]
      rw [replied_state]
      apply command_effect
      intro a s' h
      obtain ⟨userID, hid, h⟩ := bind_ok h
      obtain ⟨u, -, h⟩ := bind_ok h
      cases h
      exact .setUser id req userID rfl (uuidParam_ok hid)

theorem deleteUser_effect {id : String} : Effect s request (UserHandler.delete env s id).2 := by
  dsimp only [UserHandler.delete]
  rw [replied_state]
  apply command_effect
  intro a s' h
  obtain ⟨userID, -, h⟩ := bind_ok h
  obtain ⟨u, -, h⟩ := bind_ok h
  cases h
  exact .disabled userID

theorem rehash_effect {u : User} {password : String} :
    Effect s request (AuthHandler.rehash bcrypt env s u password) := by
  dsimp only [AuthHandler.rehash]
  split
  · split
    · apply command_effect
      intro a s' h
      cases h
      exact .rehashed _ _
    · exact .same
  · exact .same

theorem login_effect {body : Option LoginRequest} :
    Effect s request (AuthHandler.login bcrypt expiryHours env s body).2 := by
  cases body with
  | none => exact .same
  | some req =>
      dsimp only [AuthHandler.login]
      split
      · exact .same
      · split <;> exact rehash_effect

theorem handle_effect (request : Request) :
    Effect s request (handle bcrypt expiryHours env s request).2 := by
  cases request with
  | createOrg body => exact createOrg_effect
  | updateOrg id body => exact updateOrg_effect
  | createPosition orgID body => exact createPosition_effect
  | bind orgID body => exact bind_effect
  | unbind orgID userID => exact unbind_effect
  | createUser body => exact createUser_effect
  | updateUser id body => exact updateUser_effect
  | deleteUser id => exact deleteUser_effect
  | login body => exact login_effect

/-- What each of the requests keeps is kept by all of them. -/
theorem after_keeps {P : Store → Prop} {calls : List (Request × Env)}
    (step : ∀ call ∈ calls, ∀ t t', Effect t call.1 t' → P t → P t') (hs : P s) :
    P (after bcrypt expiryHours calls s) := by
  induction calls generalizing s with
  | nil => exact hs
  | cons call calls ih =>
      apply ih
      · intro call' hcall'
        exact step call' (List.mem_cons_of_mem _ hcall')
      · exact step call (List.mem_cons_self ..) _ _ (handle_effect call.1) hs

end Effects

section Tokens
variable {bcrypt : Bcrypt} {expiryHours : Int} {env : Env} {s : Store} {req : LoginRequest}
  {t : Token} {expiresAt : Int} {u : User}

theorem login_parts
    (h : (AuthHandler.login bcrypt expiryHours env s (some req)).1 = .token t expiresAt u) :
    AuthHandler.authenticate bcrypt env s req = .ok u ∧
      AuthHandler.answer expiryHours env (AuthHandler.rehash bcrypt env s u req.password) u
        req.orgID = .ok t := by
  dsimp only [AuthHandler.login] at h
  split at h
  · next reply hreply =>
    have htoken : reply = .token t expiresAt u := h
    rw [htoken] at hreply
    exact absurd hreply AuthHandler.authenticate_error
  · next w hw =>
    split at h
    · next reply hreply =>
      have htoken : reply = .token t expiresAt u := h
      rw [htoken] at hreply
      exact absurd hreply AuthHandler.answer_error
    · next token htoken =>
      cases h
      exact ⟨hw, htoken⟩

theorem authenticate_email (h : AuthHandler.authenticate bcrypt env s req = .ok u) :
    u.email = req.email := by
  obtain ⟨w, hw, h⟩ := bind_ok h
  have hfound := found_ok (query_ok (orReply_ok hw))
  have hemail : w.email = req.email := by simpa using Table.prop_of_find hfound
  split at h
  · cases h
  · split at h
    · cases h
      exact hemail
    · cases h

theorem answer_sub {orgID : Option String}
    (h : AuthHandler.answer expiryHours env s u orgID = .ok t) :
    t.sub = u.userID.display := by
  dsimp only [AuthHandler.answer] at h
  split at h
  · cases h
  · obtain ⟨v, -, h⟩ := bind_ok h
    cases hissue : AuthHandler.issue expiryHours env u v with
    | error e =>
        rw [hissue] at h
        cases h
    | ok token =>
        rw [hissue] at h
        cases h
        dsimp only [AuthHandler.issue] at hissue
        split at hissue
        · cases hissue
        · cases hissue
          rfl

/-- A token is of the stored user whose e-mail the login names. -/
theorem login_user
    (h : (AuthHandler.login bcrypt expiryHours env s (some req)).1 = .token t expiresAt u) :
    u ∈ s.users.rows ∧ u.status ≠ "disabled" ∧ u.email = req.email ∧ t.sub = u.userID.display := by
  have hparts := login_parts h
  have hrow := AuthHandler.authenticate_ok hparts.1
  exact ⟨hrow.1, hrow.2, authenticate_email hparts.1, answer_sub hparts.2⟩

end Tokens

/-- The user is stored, and disabled. -/
def Store.Disabled (userID : Uuid) (email : String) (s : Store) : Prop :=
  ∃ u ∈ s.users.rows, u.userID = userID ∧ u.email = email ∧ u.status = "disabled"

/-- A request that sets another status of the user. -/
def Request.Reenables (userID : Uuid) : Request → Prop
  | .updateUser id (some body) => uuidIn id = some userID ∧ body.status ≠ "disabled"
  | _ => False

instance (userID : Uuid) : (request : Request) → Decidable (request.Reenables userID)
  | .updateUser _ (some _) => inferInstanceAs (Decidable (_ ∧ _))
  | .updateUser _ none => .isFalse not_false
  | .createOrg _ => .isFalse not_false
  | .updateOrg _ _ => .isFalse not_false
  | .createPosition _ _ => .isFalse not_false
  | .bind _ _ => .isFalse not_false
  | .unbind _ _ => .isFalse not_false
  | .createUser _ => .isFalse not_false
  | .deleteUser _ => .isFalse not_false
  | .login _ => .isFalse not_false

section Disabled
variable {bcrypt : Bcrypt} {expiryHours : Int} {env : Env} {s s' : Store} {request : Request}
  {userID : Uuid} {email : String}

/-- An update of users that turns no disabled one into another. -/
theorem Store.Disabled.updateUsers {id : Uuid} {f : User → User}
    {hf : ∀ u, Keyed.key (f u) = Keyed.key u} (h : s.Disabled userID email)
    (hstatus : ∀ u, u.userID = id → u.userID = userID → u.status = "disabled" → (f u).status = "disabled") :
    (s.updateUsers id f hf).Disabled userID email := by
  obtain ⟨u, hu, hid, hemail, hdisabled⟩ := h
  have hkey : (f u).userID = userID ∧ (f u).email = email := by
    have hkey : ((f u).userID, (f u).email) = (u.userID, u.email) := hf u
    obtain ⟨hid', hemail'⟩ := Prod.mk.inj hkey
    exact ⟨hid'.trans hid, hemail'.trans hemail⟩
  refine ⟨if decide (u.userID = id) = true then f u else u, List.mem_map_of_mem hu, ?_⟩
  by_cases hsame : u.userID = id
  · rw [if_pos (decide_eq_true hsame)]
    exact ⟨hkey.1, hkey.2, hstatus u hsame hid hdisabled⟩
  · rw [if_neg (by simpa using hsame)]
    exact ⟨hid, hemail, hdisabled⟩

theorem Effect.disabled_stays (heffect : Effect s request s') (hrequest : ¬request.Reenables userID)
    (h : s.Disabled userID email) : s'.Disabled userID email := by
  cases heffect with
  | same => exact h
  | org o orgs horgs => exact h
  | setOrg orgID orgName status => exact h
  | position p positions hpositions => exact h
  | member m members hmembers => exact h
  | unbound org user orgID userID => exact h
  | user u users husers =>
      obtain ⟨v, hv, hdisabled⟩ := h
      exact ⟨v, (Table.mem_insert husers).mpr (.inl hv), hdisabled⟩
  | rehashed id newHash => exact h.updateUsers fun _ _ _ hdisabled => hdisabled
  | disabled id => exact h.updateUsers fun _ _ _ _ => rfl
  | setUser id body userID' hrequest' hid =>
      apply h.updateUsers
      intro u hsame huser _
      rw [hrequest'] at hrequest
      by_contra hstatus
      apply hrequest
      rw [← hsame, huser] at hid
      exact ⟨hid, hstatus⟩

theorem Store.Disabled.login {req : LoginRequest} {t : Token} {expiresAt : Int} {u : User}
    (h : s.Disabled userID email)
    (hlogin : (AuthHandler.login bcrypt expiryHours env s (some req)).1 = .token t expiresAt u) :
    t.sub ≠ userID.display ∧ req.email ≠ email := by
  obtain ⟨hu, hstatus, hemail, hsub⟩ := login_user hlogin
  obtain ⟨v, hv, hid, hemail', hdisabled⟩ := h
  have hne : u.userID ≠ v.userID ∧ u.email ≠ v.email := by
    constructor
    · intro hsame
      have heq := Table.eq_of_clash hu hv (.inl hsame)
      exact hstatus (heq ▸ hdisabled)
    · intro hsame
      have heq := Table.eq_of_clash hu hv (.inr hsame)
      exact hstatus (heq ▸ hdisabled)
  constructor
  · intro hsame
    exact hne.1 ((display_injective (hsub.symm.trans hsame)).trans hid.symm)
  · intro hsame
    exact hne.2 (hemail.trans (hsame.trans hemail'.symm))

/-- A statement that is answered has been carried out. -/
theorem command_ok {α : Type} {q : Stmt} {outcome : Except DbError (α × Store)} {a : α}
    (h : command env s q outcome = (.ok a, s')) : outcome = .ok (a, s') := by
  cases outcome with
  | error e => cases hq : env.fails q <;> simp [command, hq] at h
  | ok o =>
      cases hq : env.fails q with
      | some e => simp [command, hq] at h
      | none =>
          simp only [command, hq, Prod.mk.injEq, Except.ok.injEq] at h
          rw [← h.1, ← h.2]

/-- A disable that is answered as done has found the user. -/
theorem delete_done {id : String} (hid : uuidIn id = some userID)
    (h : (UserHandler.delete env s id).1 = .done "disabled") :
    ∃ u ∈ s.users.rows, u.userID = userID ∧
      (UserHandler.delete env s id).2.Disabled userID u.email := by
  rw [UserHandler.delete] at h ⊢
  rw [replied_state]
  cases houtcome : disable env s id with
  | mk r t =>
      rw [houtcome] at h
      cases r with
      | error e => cases e <;> cases h
      | ok a =>
          obtain ⟨userID', hid', hfound⟩ := bind_ok (command_ok houtcome)
          obtain ⟨u, hu, heq⟩ := bind_ok hfound
          have hsame : userID' = userID := Option.some.inj ((uuidParam_ok hid').symm.trans hid)
          have hu := found_ok hu
          have huid : u.userID = userID' := by simpa using Table.prop_of_find hu
          cases heq
          refine ⟨u, Table.mem_of_find hu, huid.trans hsame, ?_⟩
          refine ⟨{ u with status := "disabled" }, ?_, huid.trans hsame, rfl, rfl⟩
          apply List.mem_map.mpr
          exact ⟨u, Table.mem_of_find hu, if_pos (decide_eq_true huid)⟩

end Disabled

/-- Once a disable is answered as done, no login gives a token for the user, by his e-mail or
any other, until a request sets another status of his. -/
theorem disabled_user_stays_out (bcrypt : Bcrypt) (expiryHours : Int) (s : Store) (env₀ : Env)
    (id : String) (userID : Uuid) (hid : uuidIn id = some userID)
    (hdelete : (handle bcrypt expiryHours env₀ s (.deleteUser id)).1 = .done "disabled")
    (calls : List (Request × Env)) (hcalls : ∀ call ∈ calls, ¬call.1.Reenables userID)
    (env : Env) (req : LoginRequest) (t : Token) (expiresAt : Int) (u : User)
    (hlogin : (handle bcrypt expiryHours env (after bcrypt expiryHours calls
      (handle bcrypt expiryHours env₀ s (.deleteUser id)).2) (.login (some req))).1 =
        .token t expiresAt u) :
    t.sub ≠ userID.display ∧ ∀ v ∈ s.users.rows, v.userID = userID → req.email ≠ v.email := by
  obtain ⟨v, hv, hvid, hdisabled⟩ := delete_done hid hdelete
  have hstays := @after_keeps bcrypt expiryHours _ (Store.Disabled userID v.email) calls
    (fun call hcall _ _ heffect => heffect.disabled_stays (hcalls call hcall)) hdisabled
  have hout := hstays.login hlogin
  refine ⟨hout.1, ?_⟩
  intro w hw hwid
  rw [Table.eq_of_clash hw hv (.inl (hwid.trans hvid.symm))]
  exact hout.2

/-- The user is bound to a position of this role, in an organization with this brand. -/
structure Store.Holds (m : UserOrgPosition) (role : String) (brandID : Option String) (s : Store) :
    Prop where
  member : m ∈ s.members.rows
  org : ∃ o, s.org m.orgID = some o ∧ o.brandID = brandID
  position : ∃ p, s.position m.positionID = some p ∧ p.protocolRole = role

/-- A request that unbinds the user from the organization, as PostgreSQL reads the two ids. -/
def Request.Unbinds (org user : String) : Request → Prop
  | .unbind org' user' => uuidIn org' = uuidIn org ∧ uuidIn user' = uuidIn user
  | _ => False

instance (org user : String) : (request : Request) → Decidable (request.Unbinds org user)
  | .unbind _ _ => inferInstanceAs (Decidable (_ ∧ _))
  | .createOrg _ => .isFalse not_false
  | .updateOrg _ _ => .isFalse not_false
  | .createPosition _ _ => .isFalse not_false
  | .bind _ _ => .isFalse not_false
  | .createUser _ => .isFalse not_false
  | .updateUser _ _ => .isFalse not_false
  | .deleteUser _ => .isFalse not_false
  | .login _ => .isFalse not_false

section Roles
variable {bcrypt : Bcrypt} {expiryHours : Int} {env : Env} {s s' : Store} {request : Request}
  {m : UserOrgPosition} {role : String} {brandID : Option String}

theorem Effect.role_stays (heffect : Effect s request s')
    (hrequest : ¬request.Unbinds m.orgID.display m.userID.display) (h : s.Holds m role brandID) :
    s'.Holds m role brandID := by
  obtain ⟨hm, ⟨o, ho, hbrand⟩, p, hp, hrole⟩ := h
  cases heffect with
  | same => exact ⟨hm, ⟨o, ho, hbrand⟩, p, hp, hrole⟩
  | org o' orgs horgs =>
      refine ⟨hm, ⟨o, ?_, hbrand⟩, p, hp, hrole⟩
      have hfind : orgs.find (·.orgID = m.orgID) = _ := Table.find_insert horgs
      rw [Store.org] at ho ⊢
      rw [hfind, ho, Option.some_or]
  | setOrg orgID orgName status =>
      refine ⟨hm, ?_, p, hp, hrole⟩
      have hfind : (s.orgs.update (·.orgID = orgID) (Iam.setOrg orgName status) fun _ => rfl).find
          (·.orgID = m.orgID) = _ := Table.find_update fun _ => rfl
      rw [Store.org] at ho
      refine ⟨if o.orgID = orgID then Iam.setOrg orgName status o else o, ?_, ?_⟩
      · rw [Store.org, hfind, ho]
        simp
      · split
        · exact hbrand
        · exact hbrand
  | position p' positions hpositions =>
      refine ⟨hm, ⟨o, ho, hbrand⟩, p, ?_, hrole⟩
      have hfind : positions.find (·.positionID = m.positionID) = _ := Table.find_insert hpositions
      rw [Store.position] at hp ⊢
      rw [hfind, hp, Option.some_or]
  | member m' members hmembers =>
      exact ⟨(Table.mem_insert hmembers).mpr (.inl hm), ⟨o, ho, hbrand⟩, p, hp, hrole⟩
  | unbound org user orgID userID hrequest' horg huser =>
      refine ⟨Table.mem_delete.mpr ⟨hm, ?_⟩, ⟨o, ho, hbrand⟩, p, hp, hrole⟩
      apply decide_eq_false
      intro ⟨hsameUser, hsameOrg⟩
      apply hrequest
      rw [hrequest']
      refine ⟨?_, ?_⟩
      · rw [horg, uuidIn_display, hsameOrg]
      · rw [huser, uuidIn_display, hsameUser]
  | user u users husers => exact ⟨hm, ⟨o, ho, hbrand⟩, p, hp, hrole⟩
  | rehashed id newHash => exact ⟨hm, ⟨o, ho, hbrand⟩, p, hp, hrole⟩
  | setUser id body userID => exact ⟨hm, ⟨o, ho, hbrand⟩, p, hp, hrole⟩
  | disabled id => exact ⟨hm, ⟨o, ho, hbrand⟩, p, hp, hrole⟩

/-- A token names the role and the brand its user holds. -/
theorem login_holds {req : LoginRequest} {t : Token} {expiresAt : Int} {u : User}
    (h : (AuthHandler.login bcrypt expiryHours env s (some req)).1 = .token t expiresAt u) :
    ∃ m brandID, s.Holds m t.role brandID ∧ t.brandID = brandID.getD "" ∧
      t.sub = m.userID.display ∧ t.orgID = m.orgID.display := by
  obtain ⟨-, -, m, hm, v, huser, hview, hrole, horg, hbrand⟩ := AuthHandler.login_token h
  obtain ⟨o, ho, hview⟩ := Option.bind_eq_some_iff.mp hview
  obtain ⟨p, hp, hview⟩ := Option.bind_eq_some_iff.mp hview
  cases hview
  refine ⟨m, o.brandID, ⟨hm, ⟨o, ho, rfl⟩, p, hp, hrole.symm⟩, hbrand, ?_, ?_⟩
  · rw [(login_user h).2.2.2, huser]
  · rw [horg]
    exact congrArg Uuid.display (Store.org_eq ho).2

theorem Store.Holds.unique {m' : UserOrgPosition} {role' : String} {brandID' : Option String}
    (h : s.Holds m role brandID) (h' : s.Holds m' role' brandID') (huser : m'.userID = m.userID)
    (horg : m'.orgID = m.orgID) : role' = role ∧ brandID' = brandID := by
  have hkey : Keyed.key m' = Keyed.key m := Prod.ext huser horg
  have hsame : m' = m := Table.eq_of_clash h'.member h.member hkey
  rw [hsame] at h'
  obtain ⟨o, ho, hbrand⟩ := h.org
  obtain ⟨o', ho', hbrand'⟩ := h'.org
  obtain ⟨p, hp, hrole⟩ := h.position
  obtain ⟨p', hp', hrole'⟩ := h'.position
  rw [ho] at ho'
  rw [hp] at hp'
  cases ho'
  cases hp'
  exact ⟨hrole'.symm.trans hrole, hbrand'.symm.trans hbrand⟩

end Roles

/-- Whatever is requested in between, two logins of a user for an organization name one role
and one brand, unless he was unbound. -/
theorem role_lasts (bcrypt : Bcrypt) (expiryHours : Int) (s : Store) (env env' : Env)
    (req req' : LoginRequest) (t t' : Token) (expiresAt expiresAt' : Int) (u u' : User)
    (calls : List (Request × Env))
    (hlogin : (handle bcrypt expiryHours env s (.login (some req))).1 = .token t expiresAt u)
    (hcalls : ∀ call ∈ calls, ¬call.1.Unbinds t.orgID t.sub)
    (hlogin' : (handle bcrypt expiryHours env' (after bcrypt expiryHours calls
      (handle bcrypt expiryHours env s (.login (some req))).2) (.login (some req'))).1 =
        .token t' expiresAt' u')
    (hsub : t'.sub = t.sub) (horg : t'.orgID = t.orgID) :
    t'.role = t.role ∧ t'.brandID = t.brandID := by
  obtain ⟨m, brandID, hholds, hbrand, huser, hmorg⟩ := login_holds hlogin
  obtain ⟨m', brandID', hholds', hbrand', huser', hmorg'⟩ := login_holds hlogin'
  rw [huser, hmorg] at hcalls
  have hfirst : (handle bcrypt expiryHours env s (.login (some req))).2.Holds m t.role brandID :=
    (handle_effect _).role_stays not_false hholds
  have hstays := @after_keeps bcrypt expiryHours _ (Store.Holds m t.role brandID) calls
    (fun call hcall _ _ heffect => heffect.role_stays (hcalls call hcall)) hfirst
  have hsameUser : m'.userID = m.userID := display_injective (huser'.symm.trans (hsub.trans huser))
  have hsameOrg : m'.orgID = m.orgID := display_injective (hmorg'.symm.trans (horg.trans hmorg))
  obtain ⟨hrole, hsameBrand⟩ := hstays.unique hholds' hsameUser hsameOrg
  exact ⟨hrole, by rw [hbrand', hbrand, hsameBrand]⟩

section Sample

/-- A second user of the factory. -/
def wangLogin : LoginRequest := { email := "wang@factory.example", password := "battery staple" }

def wang : User := ⟨.repeated 4, "wang@factory.example", "$2a$12$battery staple", "Wang", "active"⟩

def wangCalls : List (Request × Env) :=
  [(.createUser (some ⟨"wang@factory.example", "battery staple", "Wang"⟩), { uuid := .repeated 4 }),
    (.bind (Uuid.repeated 1).display
      (some ⟨(Uuid.repeated 4).display, (Uuid.repeated 2).display⟩), {})]

def twoUsers : Store := after plainBcrypt 24 (factoryCalls (some "brand-luxe") ++ wangCalls) {}

def wangToken : Token :=
  ⟨(Uuid.repeated 4).display, "Factory", (Uuid.repeated 1).display, "brand-luxe", [], 86400, 0⟩

/-- The first user tries to log in, and is renamed. -/
def otherCalls : List (Request × Env) :=
  [(.login (some factoryLogin), {}),
    (.updateUser (Uuid.repeated 3).display (some ⟨"Li Lei", "disabled"⟩), {}),
    (.unbind (Uuid.repeated 1).display (Uuid.repeated 3).display, {})]

theorem disabled_user_stays_out_sample :
    wangToken.sub ≠ (Uuid.repeated 3).display ∧
      ∀ v ∈ twoUsers.users.rows, v.userID = .repeated 3 → wangLogin.email ≠ v.email :=
  disabled_user_stays_out plainBcrypt 24 twoUsers {} (Uuid.repeated 3).display (.repeated 3)
    (uuidIn_display _) (by decide +kernel) otherCalls (by decide +kernel) {} wangLogin wangToken 86400
    wang (by decide +kernel)

/-- A token of the same user, an hour later. -/
def wangLater : Token := { wangToken with exp := 90000, iat := 3600 }

theorem role_lasts_sample : wangLater.role = wangToken.role ∧ wangLater.brandID = wangToken.brandID :=
  role_lasts plainBcrypt 24 twoUsers {} { now := 3600 } wangLogin wangLogin wangToken wangLater 86400
    90000 wang wang otherCalls (by decide +kernel) (by decide +kernel) (by decide +kernel) rfl rfl

end Sample

end RcProtocol.Iam
