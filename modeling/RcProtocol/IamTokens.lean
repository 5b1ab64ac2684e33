import RcProtocol.Api.Transfer
import RcProtocol.Iam.Handlers

/-!
The tokens of a login and what rc-api takes them for. Roles always fit the type of their
organization; but a factory may be registered without a brand, and rc-api has no use for
the tokens of its members.
-/

namespace RcProtocol

namespace Iam
open Library Workorders

/-- A group of four characters that are no hyphens. -/
theorem readGroups_digits {n : Nat} {a b c d : Fin 16} {cs : List Char}
    (h : cs.head? ≠ some '-') :
    readGroups (n + 1) (hexChar a :: hexChar b :: hexChar c :: hexChar d :: cs) =
      (readGroups n cs).map fun (group, rest) => ([a, b, c, d].map hexChar ++ group, rest) := by
  simp [readGroups, h]

theorem readGroups_hyphen {n : Nat} {a b c d : Fin 16} {cs : List Char} :
    readGroups (n + 2) (hexChar a :: hexChar b :: hexChar c :: hexChar d :: '-' :: cs) =
      (readGroups (n + 1) cs).map fun (group, rest) => ([a, b, c, d].map hexChar ++ group, rest) := by
  simp [readGroups]

theorem exists_four {α : Type} {n : Nat} {l : List α} (h : l.length = n + 4) :
    ∃ a b c d rest, l = a :: b :: c :: d :: rest ∧ rest.length = n := by
  match l, h with
  | a :: b :: c :: d :: rest, h => exact ⟨a, b, c, d, rest, rfl, by simpa using h⟩

theorem hexChar_ne (d : Fin 16) : hexChar d ≠ '-' ∧ hexChar d ≠ '\x7b' := by
  revert d
  decide

/-- PostgreSQL reads the text of a UUID as that UUID. -/
theorem uuidIn_display (u : Uuid) : uuidIn u.display = some u := by
  obtain ⟨digits, hlength⟩ := u
  obtain ⟨a0, a1, a2, a3, ds1, rfl, h1⟩ := exists_four hlength
  obtain ⟨a4, a5, a6, a7, ds2, rfl, h2⟩ := exists_four h1
  obtain ⟨b0, b1, b2, b3, ds3, rfl, h3⟩ := exists_four h2
  obtain ⟨c0, c1, c2, c3, ds4, rfl, h4⟩ := exists_four h3
  obtain ⟨d0, d1, d2, d3, ds5, rfl, h5⟩ := exists_four h4
  obtain ⟨e0, e1, e2, e3, ds6, rfl, h6⟩ := exists_four h5
  obtain ⟨e4, e5, e6, e7, ds7, rfl, h7⟩ := exists_four h6
  obtain ⟨e8, e9, e10, e11, ds8, rfl, h8⟩ := exists_four h7
  obtain rfl := List.length_eq_zero_iff.mp h8
  have hread : readGroups 8 (hexChar a0 :: hexChar a1 :: hexChar a2 :: hexChar a3 :: hexChar a4 ::
      hexChar a5 :: hexChar a6 :: hexChar a7 :: '-' :: hexChar b0 :: hexChar b1 :: hexChar b2 ::
      hexChar b3 :: '-' :: hexChar c0 :: hexChar c1 :: hexChar c2 :: hexChar c3 :: '-' ::
      hexChar d0 :: hexChar d1 :: hexChar d2 :: hexChar d3 :: '-' ::
      ([e0, e1, e2, e3, e4, e5, e6, e7, e8, e9, e10, e11].map hexChar)) =
        some ([a0, a1, a2, a3, a4, a5, a6, a7, b0, b1, b2, b3, c0, c1, c2, c3, d0, d1, d2, d3, e0,
          e1, e2, e3, e4, e5, e6, e7, e8, e9, e10, e11].map hexChar, []) := by
    rw [readGroups_digits (n := 7) (by simp [hexChar_ne]), readGroups_hyphen (n := 5),
      readGroups_hyphen (n := 4), readGroups_hyphen (n := 3), readGroups_hyphen (n := 2)]
    simp only [List.map_cons, List.map_nil]
    rw [readGroups_digits (n := 2) (by simp [hexChar_ne]),
      readGroups_digits (n := 1) (by simp [hexChar_ne]), readGroups_digits (n := 0) (by simp)]
    rfl
  simp only [List.map_cons, List.map_nil] at hread
  simp [uuidIn, Uuid.display, Uuid.displayChars, hexChar_ne, Uuid.parseSimple, hread,
    hexDigit_hexChar]

theorem display_injective {a b : Uuid} (h : a.display = b.display) : a = b := by
  have hread := congrArg uuidIn h
  rw [uuidIn_display, uuidIn_display] at hread
  exact Option.some.inj hread

variable {bcrypt : Bcrypt} {expiryHours : Int} {env : Env} {s s' : Store}

/-- What is true of an organization from the day it is registered. -/
structure Organization.Registered (o : Organization) : Prop where
  valid : o.orgType ∈ validOrgTypes
  branded : o.orgType = "brand" → blank o.brandID = false

def Bcrypt.Hashed (bcrypt : Bcrypt) (u : User) : Prop :=
  ∃ password, bcrypt.compare u.passwordHash password = true

/-- All that a request can do to the tables. -/
inductive Change (bcrypt : Bcrypt) (s : Store) : Store → Prop
  | none : Change bcrypt s s
  | org (o : Organization) (orgs : Table Organization) :
      s.orgs.insert o = some orgs → o.Registered → Change bcrypt s { s with orgs := orgs }
  | setOrg (orgID : Uuid) (orgName status : String) :
      Change bcrypt s { s with
        orgs := s.orgs.update (·.orgID = orgID) (setOrg orgName status) fun _ => rfl }
  | position (p : Position) (o : Organization) (positions : Table Position) :
      s.positions.insert p = some positions → s.org p.orgID = some o →
        isRoleCompatible o.orgType p.protocolRole = true →
          Change bcrypt s { s with positions := positions }
  | member (m : UserOrgPosition) (p : Position) (members : Table UserOrgPosition) :
      s.members.insert m = some members → s.position m.positionID = some p → p.orgID = m.orgID →
        Change bcrypt s { s with members := members }
  | removed (p : UserOrgPosition → Bool) :
      Change bcrypt s { s with members := s.members.delete p }
  | user (u : User) (users : Table User) :
      s.users.insert u = some users → bcrypt.Hashed u → Change bcrypt s { s with users := users }
  | setUser (userID : Uuid) (f : User → User) (hf : ∀ u, Keyed.key (f u) = Keyed.key u) :
      (∀ u, bcrypt.Hashed u → bcrypt.Hashed (f u)) → Change bcrypt s (s.updateUsers userID f hf)

theorem command_state {α : Type} {q : Stmt} {outcome : Except DbError (α × Store)} :
    (command env s q outcome).2 = s ∨
      ∃ a, outcome = .ok (a, (command env s q outcome).2) := by
  unfold command
  cases outcome with
  | error e => cases env.fails q <;> exact .inl rfl
  | ok o =>
      cases env.fails q with
      | none => exact .inr ⟨o.1, rfl⟩
      | some e =>
          by_cases happlied : env.applied = true
          · exact .inr ⟨o.1, by simp [happlied]⟩
          · exact .inl (by simp [happlied])

/-- A statement changes what it says or nothing, whatever fails. -/
theorem command_change {α : Type} {q : Stmt} {outcome : Except DbError (α × Store)}
    (h : ∀ a s', outcome = .ok (a, s') → Change bcrypt s s') :
    Change bcrypt s (command env s q outcome).2 := by
  rcases @command_state env s α q outcome with hs | ⟨a, ha⟩
  · rw [hs]
    exact .none
  · exact h a _ ha

theorem replied_state {α : Type} {outcome : Except DbError α × Store} {refuse : DbError → Reply}
    {ok : α → Reply} : (replied outcome refuse ok).2 = outcome.2 := by
  unfold replied
  obtain ⟨a, s⟩ := outcome
  cases a <;> rfl

theorem query_ok {α : Type} {q : Stmt} {a : Except DbError α} {v : α}
    (h : query env q a = .ok v) : a = .ok v := by
  unfold query at h
  cases hq : env.fails q with
  | none => rwa [hq] at h
  | some e => rw [hq] at h; cases h

theorem orReply_ok {α : Type} {noRows failed : Reply} {a : Except DbError α} {v : α}
    (h : orReply noRows failed a = .ok v) : a = .ok v := by
  cases a with
  | ok w => exact congrArg Except.ok (Except.ok.inj h)
  | error e => cases e <;> cases h

theorem found_ok {α : Type} {o : Option α} {v : α} (h : found o = .ok v) : o = some v := by
  cases o with
  | none => cases h
  | some w => exact congrArg some (Except.ok.inj h)

theorem uuidParam_ok {text : String} {id : Uuid} (h : uuidParam text = .ok id) :
    uuidIn text = some id := by
  unfold uuidParam at h
  cases hid : uuidIn text with
  | none => rw [hid] at h; cases h
  | some w => rw [hid] at h; exact congrArg some (Except.ok.inj h)

theorem inserted_ok {ρ α : Type} [Keyed ρ] {t : Table ρ} {r : ρ} {f : Table ρ → α} {v : α}
    (h : inserted t r f = .ok v) : ∃ t', t.insert r = some t' ∧ f t' = v := by
  unfold inserted at h
  cases ht : t.insert r with
  | none => rw [ht] at h; cases h
  | some t' => rw [ht] at h; exact ⟨t', rfl, Except.ok.inj h⟩

theorem generateBrandID_ne : generateBrandID env ≠ "" := by
  intro h
  have hlength := congrArg String.length h
  simp [generateBrandID] at hlength

theorem OrgHandler.checkCreate_registered {body : Option CreateOrgRequest} {req : CreateOrgRequest}
    (h : OrgHandler.checkCreate env body = .ok req) :
    (OrgHandler.organization env req).Registered := by
  unfold OrgHandler.checkCreate at h
  cases body with
  | none => cases h
  | some b =>
      dsimp only at h
      split at h
      · cases h
      · next hvalid =>
        have hvalid := not_not.mp hvalid
        by_cases hbrand : b.orgType = "brand"
        · rw [if_pos hbrand] at h
          split at h
          · cases h
          · split at h
            · cases h
            · split at h
              · cases h
                exact ⟨hvalid, fun _ => by simp [organization, blank, generateBrandID_ne]⟩
              · next hid =>
                cases h
                exact ⟨hvalid, fun _ => by simpa [organization] using hid⟩
        · rw [if_neg hbrand] at h
          cases h
          exact ⟨hvalid, fun h => absurd h hbrand⟩

theorem createOrg_change {o : Organization} {parent : Option String} (ho : o.Registered) :
    Change bcrypt s (createOrg env s o parent).2 := by
  refine command_change fun a s' h => ?_
  obtain ⟨p, _, h⟩ := bind_ok h
  split at h
  · cases h
  · split at h
    · cases h
    · obtain ⟨orgs, horgs, heq⟩ := inserted_ok h
      cases heq
      exact .org _ orgs horgs ⟨ho.valid, ho.branded⟩

theorem OrgHandler.create_change {body : Option CreateOrgRequest} :
    Change bcrypt s (OrgHandler.create env s body).2 := by
  unfold OrgHandler.create
  cases hreq : OrgHandler.checkCreate env body with
  | error reply => exact .none
  | ok req =>
      dsimp only
      rw [replied_state]
      exact createOrg_change (checkCreate_registered hreq)

theorem OrgHandler.update_change {id : String} {body : Option UpdateOrgRequest} :
    Change bcrypt s (OrgHandler.update env s id body).2 := by
  cases body with
  | none => exact .none
  | some req =>
      dsimp only [OrgHandler.update]
      rw [replied_state]
      refine command_change fun a s' h => ?_
      obtain ⟨orgID, _, h⟩ := bind_ok h
      obtain ⟨o, _, h⟩ := bind_ok h
      cases h
      exact .setOrg orgID req.orgName req.status

theorem PositionHandler.create_change {orgID : String} {body : Option CreatePositionRequest} :
    Change bcrypt s (PositionHandler.create env s orgID body).2 := by
  unfold PositionHandler.create
  cases hreq : PositionHandler.checkCreate env s orgID body with
  | error reply => exact .none
  | ok req =>
      dsimp only
      rw [replied_state]
      cases body with
      | none => cases hreq
      | some b =>
          obtain ⟨o, ho, hrole⟩ := bind_ok hreq
          obtain ⟨id, hid, hfound⟩ := bind_ok (query_ok (orReply_ok ho))
          split at hrole
          · next hcompatible =>
            cases hrole
            refine command_change fun a s' h => ?_
            obtain ⟨id', hid', h⟩ := bind_ok h
            obtain rfl : id = id' := Except.ok.inj (hid.symm.trans hid')
            split at h
            · cases h
            · split at h
              · cases h
              · obtain ⟨positions, hpositions, heq⟩ := inserted_ok h
                cases heq
                exact .position _ o positions hpositions (found_ok hfound) hcompatible
          · cases hrole

theorem MemberHandler.checkBind_ok {orgID : String} {body : Option BindRequest} {req : BindRequest}
    (h : MemberHandler.checkBind env s orgID body = .ok req) :
    ∃ id p, uuidIn req.positionID = some id ∧ s.position id = some p ∧ p.orgID.display = orgID := by
  unfold MemberHandler.checkBind at h
  cases body with
  | none => cases h
  | some b =>
      obtain ⟨u, _, h⟩ := bind_ok h
      obtain ⟨p, hp, h⟩ := bind_ok h
      obtain ⟨id, hid, hfound⟩ := bind_ok (query_ok (orReply_ok hp))
      split at h
      · cases h
      · next horg =>
        cases hexists : existsByUserAndOrg env s b.userID orgID with
        | error e => simp [hexists] at h
        | ok found =>
            cases found with
            | true => simp [hexists] at h
            | false =>
                rw [hexists] at h
                cases h
                exact ⟨id, p, uuidParam_ok hid, found_ok hfound, not_not.mp horg⟩

theorem MemberHandler.bind_change {orgID : String} {body : Option BindRequest} :
    Change bcrypt s (MemberHandler.bind env s orgID body).2 := by
  unfold MemberHandler.bind
  cases hreq : MemberHandler.checkBind env s orgID body with
  | error reply => exact .none
  | ok req =>
      dsimp only
      rw [replied_state]
      obtain ⟨id, p, hid, hp, rfl⟩ := checkBind_ok hreq
      refine command_change fun a s' h => ?_
      obtain ⟨user, _, h⟩ := bind_ok h
      obtain ⟨org, horg, h⟩ := bind_ok h
      obtain ⟨position, hposition, h⟩ := bind_ok h
      have horg := uuidParam_ok horg
      rw [uuidIn_display] at horg
      cases horg
      have hposition := uuidParam_ok hposition
      rw [hid] at hposition
      cases hposition
      split at h
      · cases h
      · obtain ⟨members, hmembers, heq⟩ := inserted_ok h
        cases heq
        exact .member _ p members hmembers hp rfl

theorem MemberHandler.unbind_change {orgID userID : String} :
    Change bcrypt s (MemberHandler.unbind env s orgID userID).2 := by
  unfold MemberHandler.unbind
  rw [replied_state]
  refine command_change fun a s' h => ?_
  obtain ⟨user, _, h⟩ := bind_ok h
  obtain ⟨org, _, h⟩ := bind_ok h
  obtain ⟨m, _, h⟩ := bind_ok h
  cases h
  exact .removed _

theorem UserHandler.update_change {id : String} {body : Option UpdateUserRequest} :
    Change bcrypt s (UserHandler.update env s id body).2 := by
  cases body with
  | none => exact .none
  | some req =>
      dsimp only [UserHandler.update]
      rw [replied_state]
      refine command_change fun a s' h => ?_
      obtain ⟨userID, _, h⟩ := bind_ok h
      obtain ⟨u, _, h⟩ := bind_ok h
      cases h
      exact .setUser userID _ _ fun _ hu => hu

theorem UserHandler.delete_change {id : String} :
    Change bcrypt s (UserHandler.delete env s id).2 := by
  unfold UserHandler.delete
  rw [replied_state]
  refine command_change fun a s' h => ?_
  obtain ⟨userID, _, h⟩ := bind_ok h
  obtain ⟨u, _, h⟩ := bind_ok h
  cases h
  exact .setUser userID _ _ fun _ hu => hu

section Hashes
variable (hbcrypt : ∀ password cost salt hash,
  bcrypt.generate password cost salt = .ok hash → bcrypt.compare hash password = true)
include hbcrypt

theorem UserHandler.checkCreate_hashed {body : Option CreateUserRequest} {u : User}
    (h : UserHandler.checkCreate bcrypt env body = .ok u) : bcrypt.Hashed u := by
  unfold UserHandler.checkCreate at h
  cases body with
  | none => cases h
  | some req =>
      dsimp only at h
      split at h
      · cases h
      · split at h
        · cases h
        · cases hhash : bcrypt.generate req.password 12 env.salt with
          | error e => simp [hhash] at h
          | ok hash =>
              rw [hhash] at h
              cases h
              exact ⟨req.password, hbcrypt _ _ _ _ hhash⟩

theorem UserHandler.create_change {body : Option CreateUserRequest} :
    Change bcrypt s (UserHandler.create bcrypt env s body).2 := by
  unfold UserHandler.create
  cases hu : UserHandler.checkCreate bcrypt env body with
  | error reply => exact .none
  | ok u =>
      dsimp only
      rw [replied_state]
      refine command_change fun a s' h => ?_
      obtain ⟨users, husers, heq⟩ := inserted_ok h
      cases heq
      exact .user u users husers (checkCreate_hashed hbcrypt hu)

theorem AuthHandler.rehash_change {u : User} {password : String} :
    Change bcrypt s (AuthHandler.rehash bcrypt env s u password) := by
  unfold AuthHandler.rehash
  split
  · cases hhash : bcrypt.generate password 12 env.salt with
    | error e => exact .none
    | ok newHash =>
        refine command_change fun a s' h => ?_
        cases h
        exact .setUser _ _ _ fun _ _ => ⟨password, hbcrypt _ _ _ _ hhash⟩
  · exact .none

theorem AuthHandler.login_change {body : Option LoginRequest} :
    Change bcrypt s (AuthHandler.login bcrypt expiryHours env s body).2 := by
  cases body with
  | none => exact .none
  | some req =>
      dsimp only [AuthHandler.login]
      cases AuthHandler.authenticate bcrypt env s req with
      | error reply => exact .none
      | ok u =>
          dsimp only
          cases AuthHandler.answer expiryHours env (AuthHandler.rehash bcrypt env s u req.password) u
            req.orgID <;> exact rehash_change hbcrypt

theorem handle_change (request : Request) :
    Change bcrypt s (handle bcrypt expiryHours env s request).2 := by
  cases request with
  | createOrg body => exact OrgHandler.create_change
  | updateOrg id body => exact OrgHandler.update_change
  | createPosition orgID body => exact PositionHandler.create_change
  | bind orgID body => exact MemberHandler.bind_change
  | unbind orgID userID => exact MemberHandler.unbind_change
  | createUser body => exact UserHandler.create_change hbcrypt
  | updateUser id body => exact UserHandler.update_change
  | deleteUser id => exact UserHandler.delete_change
  | login body => exact AuthHandler.login_change hbcrypt

end Hashes

structure Inv (bcrypt : Bcrypt) (s : Store) : Prop where
  registered : ∀ o ∈ s.orgs.rows, o.Registered
  compatible : ∀ p ∈ s.positions.rows, ∃ o ∈ s.orgs.rows,
    o.orgID = p.orgID ∧ isRoleCompatible o.orgType p.protocolRole = true
  placed : ∀ m ∈ s.members.rows, ∃ p ∈ s.positions.rows,
    p.positionID = m.positionID ∧ p.orgID = m.orgID
  hashed : ∀ u ∈ s.users.rows, bcrypt.Hashed u

theorem Store.org_eq {orgID : Uuid} {o : Organization} (h : s.org orgID = some o) :
    o ∈ s.orgs.rows ∧ o.orgID = orgID :=
  ⟨Table.mem_of_find h, by simpa using Table.prop_of_find h⟩

theorem Store.org_of_mem {o : Organization} (h : o ∈ s.orgs.rows) : s.org o.orgID = some o :=
  Table.find_eq_some h (by simp) fun _ _ ha => of_decide_eq_true ha

theorem Store.position_eq {positionID : Uuid} {p : Position}
    (h : s.position positionID = some p) : p ∈ s.positions.rows ∧ p.positionID = positionID :=
  ⟨Table.mem_of_find h, by simpa using Table.prop_of_find h⟩

theorem Store.position_of_mem {p : Position} (h : p ∈ s.positions.rows) :
    s.position p.positionID = some p :=
  Table.find_eq_some h (by simp) fun _ _ ha => of_decide_eq_true ha

/-- An update of an organization leaves its id, its type and its brand. -/
theorem mem_setOrg {orgID : Uuid} {orgName status : String} {o : Organization}
    (h : o ∈ s.orgs.rows) : ∃ o' ∈ (s.orgs.update (·.orgID = orgID) (setOrg orgName status)
      fun _ => rfl).rows, o'.orgID = o.orgID ∧ o'.orgType = o.orgType := by
  refine ⟨_, Table.mem_update.mpr ⟨o, h, rfl⟩, ?_⟩
  split
  · exact ⟨rfl, rfl⟩
  · exact ⟨rfl, rfl⟩

theorem Change.inv (h : Change bcrypt s s') (hs : Inv bcrypt s) : Inv bcrypt s' := by
  cases h with
  | none => exact hs
  | org o orgs horgs ho =>
      refine ⟨fun a ha => ?_, fun p hp => ?_, hs.placed, hs.hashed⟩
      · rcases (Table.mem_insert horgs).mp ha with ha | rfl
        · exact hs.registered a ha
        · exact ho
      · obtain ⟨a, ha, hp⟩ := hs.compatible p hp
        exact ⟨a, (Table.mem_insert horgs).mpr (.inl ha), hp⟩
  | setOrg orgID orgName status =>
      refine ⟨fun a ha => ?_, fun p hp => ?_, hs.placed, hs.hashed⟩
      · obtain ⟨o, ho, rfl⟩ := (@Table.mem_update _ _ s.orgs a _ (Iam.setOrg orgName status)
          fun _ => rfl).mp ha
        have hregistered := hs.registered o ho
        split
        · exact ⟨hregistered.valid, hregistered.branded⟩
        · exact hregistered
      · obtain ⟨o, ho, horg, hrole⟩ := hs.compatible p hp
        obtain ⟨o', ho', hid, htype⟩ := mem_setOrg ho
        exact ⟨o', ho', hid.trans horg, htype ▸ hrole⟩
  | position p o positions hpositions horg hrole =>
      refine ⟨hs.registered, fun a ha => ?_, fun m hm => ?_, hs.hashed⟩
      · rcases (Table.mem_insert hpositions).mp ha with ha | rfl
        · exact hs.compatible a ha
        · exact ⟨o, (Store.org_eq horg).1, (Store.org_eq horg).2, hrole⟩
      · obtain ⟨a, ha, hm⟩ := hs.placed m hm
        exact ⟨a, (Table.mem_insert hpositions).mpr (.inl ha), hm⟩
  | member m p members hmembers hp horg =>
      refine ⟨hs.registered, hs.compatible, fun a ha => ?_, hs.hashed⟩
      rcases (Table.mem_insert hmembers).mp ha with ha | rfl
      · exact hs.placed a ha
      · exact ⟨p, (Store.position_eq hp).1, (Store.position_eq hp).2, horg⟩
  | removed p =>
      exact ⟨hs.registered, hs.compatible, fun m hm => hs.placed m (Table.mem_delete.mp hm).1,
        hs.hashed⟩
  | user u users husers hu =>
      refine ⟨hs.registered, hs.compatible, hs.placed, fun a ha => ?_⟩
      rcases (Table.mem_insert husers).mp ha with ha | rfl
      · exact hs.hashed a ha
      · exact hu
  | setUser userID f hf hhashed =>
      refine ⟨hs.registered, hs.compatible, hs.placed, fun a ha => ?_⟩
      obtain ⟨u, hu, rfl⟩ := (@Table.mem_update _ _ s.users a _ f hf).mp ha
      split
      · exact hhashed u (hs.hashed u hu)
      · exact hs.hashed u hu

theorem after_inv {calls : List (Request × Env)}
    (hbcrypt : ∀ password cost salt hash,
      bcrypt.generate password cost salt = .ok hash → bcrypt.compare hash password = true)
    (hs : Inv bcrypt s) : Inv bcrypt (after bcrypt expiryHours calls s) := by
  induction calls generalizing s with
  | nil => exact hs
  | cons call calls ih => exact ih ((handle_change hbcrypt call.1).inv hs)

theorem Inv.empty : Inv bcrypt {} :=
  ⟨fun _ h => absurd h List.not_mem_nil, fun _ h => absurd h List.not_mem_nil,
    fun _ h => absurd h List.not_mem_nil, fun _ h => absurd h List.not_mem_nil⟩

/-- A position as a login reads it, of the organization it is in. -/
theorem Inv.view {m : UserOrgPosition} {v : UserOrgView} (hs : Inv bcrypt s)
    (hm : m ∈ s.members.rows) (h : s.view m = some v) :
    ∃ o ∈ s.orgs.rows, o.orgID = m.orgID ∧ v.orgID = o.orgID ∧ v.brandID = o.brandID ∧
      isRoleCompatible o.orgType v.role = true := by
  obtain ⟨o, ho, h⟩ := Option.bind_eq_some_iff.mp h
  obtain ⟨p, hp, h⟩ := Option.bind_eq_some_iff.mp h
  cases h
  obtain ⟨horg, hid⟩ := Store.org_eq ho
  obtain ⟨q, hq, hposition, hplaced⟩ := hs.placed m hm
  have hq := Store.position_of_mem hq
  rw [hposition, hp] at hq
  cases hq
  obtain ⟨o', ho', hid', hrole⟩ := hs.compatible p (Store.position_eq hp).1
  have ho' := Store.org_of_mem ho'
  rw [hid', hplaced, ho] at ho'
  cases ho'
  exact ⟨o, horg, hid, rfl, rfl, hrole⟩

theorem Inv.exists_view {m : UserOrgPosition} (hs : Inv bcrypt s) (hm : m ∈ s.members.rows) :
    ∃ v, s.view m = some v := by
  obtain ⟨p, hp, hposition, hplaced⟩ := hs.placed m hm
  obtain ⟨o, ho, hid, _⟩ := hs.compatible p hp
  have ho := Store.org_of_mem ho
  have hp := Store.position_of_mem hp
  rw [hid, hplaced] at ho
  rw [hposition] at hp
  exact ⟨_, by simp only [Store.view, ho, hp]; rfl⟩

theorem compatible_cases {orgType role : String} (h : isRoleCompatible orgType role = true) :
    (orgType = "platform" ∧ (role = "Platform" ∨ role = "Moderator")) ∨
      (orgType = "brand" ∧ role = "Brand") ∨ (orgType = "factory" ∧ role = "Factory") := by
  unfold isRoleCompatible at h
  split at h
  · exact .inl ⟨rfl, by simpa using h⟩
  · exact .inr (.inl ⟨rfl, by simpa using h⟩)
  · exact .inr (.inr ⟨rfl, by simpa using h⟩)
  · cases h

/-- A token that fits the organization is good unless it lacks the brand it needs. -/
theorem validate_token {t : Token} {orgType : String}
    (h : isRoleCompatible orgType t.role = true) :
    t.claims.validate = .ok () ↔ orgType = "platform" ∨ t.brandID ≠ "" := by
  have hnone : t.claims.brandId = none ↔ t.brandID = "" := by simp [Token.claims]
  rcases compatible_cases h with ⟨rfl, hrole | hrole⟩ | ⟨rfl, hrole⟩ | ⟨rfl, hrole⟩
  all_goals
    by_cases hbrand : t.brandID = "" <;>
      simp [Claims.validate, Claims.actorRole, Token.claims, hrole, hbrand, bind, Except.bind]

theorem AuthHandler.selectOrg_mem {orgs : List UserOrgView} {orgID : Option String}
    {v : UserOrgView} (h : AuthHandler.selectOrg orgs orgID = .ok v) : v ∈ orgs := by
  unfold AuthHandler.selectOrg at h
  split at h
  · cases h
  · cases h
    exact List.mem_singleton.mpr rfl
  · split at h
    · cases h
    · cases hfind : orgs.find? (·.orgID.display = orgID.getD "") with
      | none => simp [hfind] at h
      | some w =>
          rw [hfind] at h
          cases h
          exact List.mem_of_find?_eq_some hfind

/-- A user who names one of his organizations gets a position there. -/
theorem AuthHandler.selectOrg_of_mem {orgs : List UserOrgView} {v : UserOrgView} (h : v ∈ orgs) :
    ∃ w ∈ orgs, w.orgID = v.orgID ∧
      AuthHandler.selectOrg orgs (some v.orgID.display) = .ok w := by
  unfold AuthHandler.selectOrg
  split
  · cases h
  · next w =>
    obtain rfl := List.mem_singleton.mp h
    exact ⟨v, h, rfl, rfl⟩
  · have hblank : blank (some v.orgID.display) = false := by
      simp [blank, Uuid.display, Uuid.displayChars, String.ext_iff]
    cases hfind : orgs.find? (·.orgID.display = (some v.orgID.display).getD "") with
    | none => simpa using List.find?_eq_none.mp hfind v h
    | some w =>
        have hid : w.orgID.display = v.orgID.display := by simpa using List.find?_some hfind
        exact ⟨w, List.mem_of_find?_eq_some hfind, display_injective hid, by simp [hblank]⟩

theorem Store.mem_views {userID : Uuid} {v : UserOrgView} :
    v ∈ (s.members.rows.filter (·.userID = userID)).filterMap s.view ↔
      ∃ m ∈ s.members.rows, m.userID = userID ∧ s.view m = some v := by
  simp [List.mem_filterMap, and_assoc]

theorem AuthHandler.authenticate_ok {req : LoginRequest} {u : User}
    (h : AuthHandler.authenticate bcrypt env s req = .ok u) :
    u ∈ s.users.rows ∧ u.status ≠ "disabled" := by
  obtain ⟨w, hw, h⟩ := bind_ok h
  have hw := found_ok (query_ok (orReply_ok hw))
  split at h
  · cases h
  · next hstatus =>
    split at h
    · cases h
      exact ⟨Table.mem_of_find hw, hstatus⟩
    · cases h

/-- A token names a position of the user and the organization it is in. -/
theorem AuthHandler.answer_ok {u : User} {orgID : Option String} {t : Token}
    (h : AuthHandler.answer expiryHours env s u orgID = .ok t) :
    ∃ m ∈ s.members.rows, ∃ v, m.userID = u.userID ∧ s.view m = some v ∧ t.role = v.role ∧
      t.orgID = v.orgID.display ∧ t.brandID = v.brandID.getD "" := by
  unfold AuthHandler.answer at h
  cases horgs : getUserOrgs env s u.userID with
  | error e => simp [horgs] at h
  | ok orgs =>
      rw [horgs] at h
      obtain ⟨v, hv, hanswer⟩ := bind_ok h
      cases Except.ok.inj (query_ok horgs)
      obtain ⟨m, hm, huser, hview⟩ := Store.mem_views.mp (selectOrg_mem hv)
      cases hissue : issue expiryHours env u v with
      | error e => simp [hissue] at hanswer
      | ok token =>
          rw [hissue] at hanswer
          cases hanswer
          unfold issue at hissue
          cases hsign : env.signFails with
          | some e => simp [hsign] at hissue
          | none =>
              rw [hsign] at hissue
              cases hissue
              exact ⟨m, hm, v, huser, hview, rfl, rfl, rfl⟩

theorem orReply_error {α : Type} {noRows failed reply : Reply} {a : Except DbError α}
    (h : orReply noRows failed a = .error reply) : reply = noRows ∨ reply = failed := by
  cases a with
  | ok w => cases h
  | error e =>
      cases e with
      | noRows => exact .inl (Except.error.inj h).symm
      | uniqueViolation => exact .inr (Except.error.inj h).symm
      | other message => exact .inr (Except.error.inj h).symm

theorem AuthHandler.authenticate_error {req : LoginRequest} {t : Token} {expiresAt : Int}
    {u : User} : AuthHandler.authenticate bcrypt env s req ≠ .error (.token t expiresAt u) := by
  intro h
  unfold AuthHandler.authenticate at h
  cases hw : orReply badCredentials (internalError "failed to get user")
      (getByEmail env s req.email) with
  | error reply =>
      rw [hw] at h
      cases h
      rcases orReply_error hw with h | h <;> cases h
  | ok w =>
      rw [hw] at h
      dsimp only [bind, Except.bind] at h
      split at h
      · cases h
      · split at h <;> cases h

theorem AuthHandler.answer_error {w u : User} {orgID : Option String} {t : Token}
    {expiresAt : Int} :
    AuthHandler.answer expiryHours env s w orgID ≠ .error (.token t expiresAt u) := by
  intro h
  unfold AuthHandler.answer at h
  cases horgs : getUserOrgs env s w.userID with
  | error e => rw [horgs] at h; cases h
  | ok orgs =>
      rw [horgs] at h
      dsimp only at h
      cases hv : selectOrg orgs orgID with
      | error reply =>
          rw [hv] at h
          cases h
          unfold selectOrg at hv
          split at hv
          · cases hv
          · cases hv
          · split at hv
            · cases hv
            · split at hv <;> cases hv
      | ok v =>
          rw [hv] at h
          dsimp only [bind, Except.bind] at h
          split at h <;> cases h

/-- Replacing a hash leaves what a login goes on to read. -/
theorem AuthHandler.rehash_reads {u : User} {password : String} :
    (AuthHandler.rehash bcrypt env s u password).members = s.members ∧
      (AuthHandler.rehash bcrypt env s u password).view = s.view := by
  unfold AuthHandler.rehash
  split
  · cases bcrypt.generate password 12 env.salt with
    | error e => exact ⟨rfl, rfl⟩
    | ok newHash =>
        dsimp only [updatePasswordHash, command]
        cases env.fails .updatePasswordHash with
        | none => exact ⟨rfl, rfl⟩
        | some e => cases env.applied <;> exact ⟨rfl, rfl⟩
  · exact ⟨rfl, rfl⟩

theorem AuthHandler.login_token {req : LoginRequest} {t : Token} {expiresAt : Int} {u : User}
    (h : (AuthHandler.login bcrypt expiryHours env s (some req)).1 = .token t expiresAt u) :
    u ∈ s.users.rows ∧ u.status ≠ "disabled" ∧
      ∃ m ∈ s.members.rows, ∃ v, m.userID = u.userID ∧ s.view m = some v ∧ t.role = v.role ∧
        t.orgID = v.orgID.display ∧ t.brandID = v.brandID.getD "" := by
  dsimp only [AuthHandler.login] at h
  cases hu : AuthHandler.authenticate bcrypt env s req with
  | error reply =>
      rw [hu] at h
      dsimp only at h
      exact absurd (h ▸ hu) authenticate_error
  | ok w =>
      rw [hu] at h
      dsimp only at h
      cases ht : AuthHandler.answer expiryHours env (AuthHandler.rehash bcrypt env s w req.password) w
          req.orgID with
      | error reply =>
          rw [ht] at h
          dsimp only at h
          exact absurd (h ▸ ht) answer_error
      | ok token =>
          rw [ht] at h
          cases h
          have hanswer := answer_ok ht
          rw [rehash_reads.1, rehash_reads.2] at hanswer
          exact ⟨(authenticate_ok hu).1, (authenticate_ok hu).2, hanswer⟩

/-- At this state every token of a login is one rc-api takes, for a role that fits the
organization it names. -/
def LoginsAccepted (bcrypt : Bcrypt) (expiryHours : Int) (s : Store) : Prop :=
  ∀ env req token expiresAt user,
    (AuthHandler.login bcrypt expiryHours env s (some req)).1 = .token token expiresAt user →
      token.claims.validate = .ok () ∧
        ∃ o ∈ s.orgs.rows, o.orgID.display = token.orgID ∧
          isRoleCompatible o.orgType token.role = true

/-- Every factory that an enabled user has a position in has a brand. -/
def FactoriesBranded (s : Store) : Prop :=
  ∀ u ∈ s.users.rows, u.status ≠ "disabled" → ∀ m ∈ s.members.rows, m.userID = u.userID →
    ∀ o ∈ s.orgs.rows, o.orgID = m.orgID → o.orgType = "factory" → blank o.brandID = false

/-- A token is of an organization its user has a position in, and names its brand. -/
theorem Inv.token {req : LoginRequest} {t : Token} {expiresAt : Int} {u : User}
    (hs : Inv bcrypt s)
    (h : (AuthHandler.login bcrypt expiryHours env s (some req)).1 = .token t expiresAt u) :
    u ∈ s.users.rows ∧ u.status ≠ "disabled" ∧ ∃ m ∈ s.members.rows, m.userID = u.userID ∧
      ∃ o ∈ s.orgs.rows, o.orgID = m.orgID ∧ o.orgID.display = t.orgID ∧
        t.brandID = o.brandID.getD "" ∧ isRoleCompatible o.orgType t.role = true := by
  obtain ⟨hu, hstatus, m, hm, v, huser, hview, hrole, horg, hbrand⟩ := AuthHandler.login_token h
  obtain ⟨o, ho, hid, hvid, hvbrand, hcompatible⟩ := hs.view hm hview
  exact ⟨hu, hstatus, m, hm, huser, o, ho, hid, by rw [horg, hvid], by rw [hbrand, hvbrand],
    hrole ▸ hcompatible⟩

theorem FactoriesBranded.accepted (h : FactoriesBranded s) (hs : Inv bcrypt s) :
    LoginsAccepted bcrypt expiryHours s := by
  intro env req t expiresAt u hlogin
  obtain ⟨hu, hstatus, m, hm, huser, o, ho, hid, hname, hbrand, hrole⟩ := hs.token hlogin
  refine ⟨(validate_token hrole).mpr ?_, o, ho, hname, hrole⟩
  rcases compatible_cases hrole with ⟨htype, _⟩ | ⟨htype, _⟩ | ⟨htype, _⟩
  · exact .inl htype
  · have hblank := (hs.registered o ho).branded htype
    exact .inr (by simpa [hbrand, blank] using hblank)
  · have hblank := h u hu hstatus m hm huser o ho hid htype
    exact .inr (by simpa [hbrand, blank] using hblank)

/-- A user who is not disabled can log in to any organization he has a position in. -/
theorem Inv.login {u : User} {m : UserOrgPosition} (hs : Inv bcrypt s) (hu : u ∈ s.users.rows)
    (hstatus : u.status ≠ "disabled") (hm : m ∈ s.members.rows) (huser : m.userID = u.userID) :
    ∃ req t expiresAt, (AuthHandler.login bcrypt expiryHours {} s (some req)).1 =
      .token t expiresAt u ∧ t.orgID = m.orgID.display := by
  obtain ⟨password, hpassword⟩ := hs.hashed u hu
  obtain ⟨v, hv⟩ := hs.exists_view hm
  obtain ⟨o, _, hid, hvid, _⟩ := hs.view hm hv
  obtain ⟨w, _, hwid, hselect⟩ :=
    AuthHandler.selectOrg_of_mem (Store.mem_views.mpr ⟨m, hm, huser, hv⟩)
  have hfind : s.users.find (·.email = u.email) = some u :=
    Table.find_eq_some hu (by simp) fun _ _ ha => .inr (of_decide_eq_true ha)
  have hauthenticate :
      AuthHandler.authenticate bcrypt {} s ⟨u.email, password, some v.orgID.display⟩ = .ok u := by
    simp [AuthHandler.authenticate, getByEmail, query, hfind, found, orReply, bind, Except.bind,
      hstatus, hpassword]
  have hanswer : ∃ t, AuthHandler.answer expiryHours {}
      (AuthHandler.rehash bcrypt {} s u password) u (some v.orgID.display) = .ok t ∧
        t.orgID = w.orgID.display := by
    simp only [AuthHandler.answer, getUserOrgs, query, AuthHandler.rehash_reads, hselect]
    exact ⟨_, rfl, rfl⟩
  obtain ⟨t, ht, horg⟩ := hanswer
  refine ⟨⟨u.email, password, some v.orgID.display⟩, t, t.exp, ?_, ?_⟩
  · simp only [AuthHandler.login, hauthenticate, ht]
  · rw [horg, hwid, hvid, hid]

theorem LoginsAccepted.branded (h : LoginsAccepted bcrypt expiryHours s) (hs : Inv bcrypt s) :
    FactoriesBranded s := by
  intro u hu hstatus m hm huser o ho hid htype
  obtain ⟨req, t, expiresAt, hlogin, horg⟩ := hs.login hu hstatus hm huser
  obtain ⟨_, _, _, _, _, o', ho', _, hname, hbrand, hrole⟩ := hs.token hlogin
  have heq : o' = o := by
    have hfound := Store.org_of_mem ho'
    rw [display_injective (hname.trans horg), ← hid, Store.org_of_mem ho] at hfound
    exact (Option.some.inj hfound).symm
  rw [heq] at hbrand hrole
  rcases (validate_token hrole).mp (h _ _ _ _ _ hlogin).1 with hplatform | hne
  · rw [htype] at hplatform
    exact absurd hplatform (by decide)
  · simpa [blank, hbrand] using hne

/-- After any requests the tokens of all logins are good if and only if every factory with
an enabled user in it was registered with a brand. -/
theorem logins_accepted_iff (bcrypt : Bcrypt) (expiryHours : Int) (calls : List (Request × Env))
    (hbcrypt : ∀ password cost salt hash,
      bcrypt.generate password cost salt = .ok hash → bcrypt.compare hash password = true) :
    LoginsAccepted bcrypt expiryHours (after bcrypt expiryHours calls {}) ↔
      FactoriesBranded (after bcrypt expiryHours calls {}) := by
  have hs : Inv bcrypt (after bcrypt expiryHours calls {}) := after_inv hbcrypt .empty
  exact ⟨fun h => h.branded hs, fun h => h.accepted hs⟩

instance : Decidable (FactoriesBranded s) :=
  inferInstanceAs (Decidable (∀ u ∈ s.users.rows, u.status ≠ "disabled" → ∀ m ∈ s.members.rows, _ →
    ∀ o ∈ s.orgs.rows, _ → _ → _))

/-- A hash that ends in its password, after the salt. -/
def plainBcrypt : Bcrypt where
  generate password _ salt :=
    if (utf8 password).length ≤ 72 then .ok ("$2a$12$" ++ salt ++ password)
    else .error "bcrypt: password length exceeds 72 bytes"
  compare hash password := password.toList.isSuffixOf hash.toList
  cost _ := 12

theorem plainBcrypt_compare (password : String) (cost : Nat) (salt hash : String)
    (h : plainBcrypt.generate password cost salt = .ok hash) :
    plainBcrypt.compare hash password = true := by
  dsimp only [plainBcrypt] at h ⊢
  split at h
  · cases h
    rw [List.isSuffixOf_iff_suffix, String.toList_append]
    exact List.suffix_append _ _
  · cases h

/-- A factory, a position in it, a user and his binding to the position. -/
def factoryCalls (brandID : Option String) : List (Request × Env) :=
  [(.createOrg (some { orgName := "Shenzhen", orgType := "factory", brandID := brandID }),
      { uuid := .repeated 1 }),
    (.createPosition (Uuid.repeated 1).display (some ⟨"Operator", "Factory"⟩),
      { uuid := .repeated 2 }),
    (.createUser (some ⟨"li@factory.example", "correct horse", "Li"⟩), { uuid := .repeated 3 }),
    (.bind (Uuid.repeated 1).display
      (some ⟨(Uuid.repeated 3).display, (Uuid.repeated 2).display⟩), {})]

def factoryLogin : LoginRequest := { email := "li@factory.example", password := "correct horse" }

def factoryUser : User :=
  ⟨.repeated 3, "li@factory.example", "$2a$12$correct horse", "Li", "active"⟩

def factoryToken (brandID : String) : Token :=
  ⟨(Uuid.repeated 3).display, "Factory", (Uuid.repeated 1).display, brandID, [], 86400, 0⟩

theorem logins_accepted_brand :
    (AuthHandler.login plainBcrypt 24 {}
        (after plainBcrypt 24 (factoryCalls (some "brand-luxe")) {}) (some factoryLogin)).1 =
      .token (factoryToken "brand-luxe") 86400 factoryUser ∧
    LoginsAccepted plainBcrypt 24 (after plainBcrypt 24 (factoryCalls (some "brand-luxe")) {}) :=
  ⟨by decide +kernel,
    (logins_accepted_iff plainBcrypt 24 _ plainBcrypt_compare).mpr (by decide +kernel)⟩

/-- The tokens of a factory without a brand are refused. -/
theorem factory_token_refused :
    ¬LoginsAccepted plainBcrypt 24 (after plainBcrypt 24 (factoryCalls none) {}) := by
  intro h
  have htoken : (AuthHandler.login plainBcrypt 24 {}
      (after plainBcrypt 24 (factoryCalls none) {}) (some factoryLogin)).1 =
        .token (factoryToken "") 86400 factoryUser := by decide +kernel
  have hvalid := (h _ _ _ _ _ htoken).1
  exact absurd hvalid (by decide)

end Iam

end RcProtocol
