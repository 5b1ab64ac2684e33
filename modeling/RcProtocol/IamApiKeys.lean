import RcProtocol.Iam.ApiKeys
import RcProtocol.IamTokens
import RcProtocol.Library.Utf8

/-!
The keys go-iam issues, under a hash that takes no more than 72 bytes. A key has 39 bytes
besides the organization's id, as the request writes it: with the four hyphens of the usual
form it is too long to be hashed, and no key is issued.
-/

namespace RcProtocol.Iam
open Library Workorders

/-- A hash for which only the password fits, and that takes no more than 72 bytes. -/
structure Bcrypt.Ideal (bcrypt : Bcrypt) : Prop where
  generates : ∀ password salt,
    (∃ hash, bcrypt.generate password defaultCost salt = .ok hash) ↔ (utf8 password).length ≤ 72
  compares : ∀ password cost salt hash, bcrypt.generate password cost salt = .ok hash →
    ∀ other, bcrypt.compare hash other = true ↔ other = password

/-- No statement fails, and there are random bytes. -/
structure KeyEnv.Working (env : KeyEnv) : Prop where
  fails : ∀ q, env.fails q = none
  keyFails : ∀ q, env.keyFails q = none
  random : ∃ bytes, env.random = .ok bytes

/-- A request and its reply. -/
structure Exchange where
  before : KeyStore
  env : KeyEnv
  request : KeyRequest
  reply : KeyReply

/-- Requests of any kind, one after another. -/
inductive Exchanges (bcrypt : Bcrypt) (expiryHours : Int) (start : KeyStore) :
    List Exchange → KeyStore → Prop
  | start : Exchanges bcrypt expiryHours start [] start
  | step {h : List Exchange} {s : KeyStore} (run : Exchanges bcrypt expiryHours start h s)
      (env : KeyEnv) (hworking : env.Working) (request : KeyRequest) :
      Exchanges bcrypt expiryHours start
        (h ++ [⟨s, env, request, (handleKeys bcrypt expiryHours env s request).1⟩])
        (handleKeys bcrypt expiryHours env s request).2

namespace Exchange
variable (e : Exchange)

/-- A key is asked for, for an organization that is a brand. -/
def Asks (orgID : String) (description : Option String) : Prop :=
  e.request = .create orgID (some description) ∧
    ∃ id org, uuidIn orgID = some id ∧ e.before.org id = some org ∧ org.orgType = "brand"

/-- The key is returned, for the organization of the request. -/
def Issues (id org : Uuid) (key : String) : Prop :=
  ∃ orgID body createdAt, e.request = .create orgID body ∧ uuidIn orgID = some org ∧
    e.reply = .created id key createdAt

def Revokes (id : Uuid) : Prop := ∃ keyID, e.request = .revoke keyID ∧ uuidIn keyID = some id

def Resolves (org : Uuid) : Prop := ∃ brandID orgName, e.reply = .validated org brandID orgName

/-- The organization's id is short enough, the description is a text for the database, and
the id that is drawn is not in use. -/
def Issuable : Prop :=
  ∀ orgID description, e.Asks orgID description → (utf8 orgID).length ≤ 33 ∧
    (∀ text ∈ description, '\x00' ∉ text.toList) ∧
      ∀ k ∈ e.before.apiKeys.rows, k.keyID ≠ e.env.uuid

end Exchange

/-- The key was issued for the organization under this id, and not revoked since. -/
def Live (h : List Exchange) (id org : Uuid) (key : String) : Prop :=
  ∃ h₁ e h₂, h = h₁ ++ e :: h₂ ∧ e.Issues id org key ∧ ∀ r ∈ h₂, ¬r.Revokes id

structure KeysWork (h : List Exchange) : Prop where
  created : ∀ e ∈ h, ∀ orgID description, e.Asks orgID description → ∃ id org key, e.Issues id org key
  /-- A text is accepted as a key of an organization exactly if it is a live key of it. -/
  validated : ∀ h₁ e h₂, h = h₁ ++ e :: h₂ → ∀ key, e.request = .validate (some key) →
    ∀ org, e.Resolves org ↔ ∃ id, Live h₁ id org key

def keyText (orgID : String) (bytes : Bytes 16) : String :=
  "brand_" ++ orgID ++ "_" ++ hexEncode bytes.toList

section Texts
variable {orgID : String} {bytes : Bytes 16} {id : Uuid} {cs group rest : List Char} {c : Char}

/-- By induction on the groups: each character is read, or is a hyphen, or is left. -/
theorem mem_readGroups {n : Nat} (h : readGroups n cs = some (group, rest)) (hc : c ∈ cs) :
    c ∈ group ∨ c = '-' ∨ c ∈ rest := by
  induction n generalizing cs group rest with
  | zero =>
      simp only [readGroups, Option.some.injEq, Prod.mk.injEq] at h
      obtain ⟨rfl, rfl⟩ := h
      exact .inr (.inr hc)
  | succ n ih =>
      obtain _ | ⟨a, _ | ⟨b, _ | ⟨d, _ | ⟨e, cs⟩⟩⟩⟩ := cs
      · cases h
      · cases h
      · cases h
      · cases h
      · simp only [readGroups, Option.map_eq_some_iff, Prod.exists, Prod.mk.injEq] at h
        obtain ⟨group', rest', hread, rfl, rfl⟩ := h
        simp only [List.mem_cons] at hc ⊢
        obtain hc | hc | hc | hc | hc := hc
        · exact .inl (.inl hc)
        · exact .inl (.inr (.inl hc))
        · exact .inl (.inr (.inr (.inl hc)))
        · exact .inl (.inr (.inr (.inr (.inl hc))))
        · by_cases hhyphen : n ≠ 0 ∧ cs.head? = some '-'
          · rw [if_pos hhyphen] at hread
            obtain ⟨tail, rfl⟩ := List.head?_eq_some_iff.mp hhyphen.2
            obtain rfl | hc := List.mem_cons.mp hc
            · exact .inr (.inl rfl)
            · obtain hin | hin | hin := ih hread hc
              · exact .inl (.inr (.inr (.inr (.inr hin))))
              · exact .inr (.inl hin)
              · exact .inr (.inr hin)
          · rw [if_neg hhyphen] at hread
            obtain hin | hin | hin := ih hread hc
            · exact .inl (.inr (.inr (.inr (.inr hin))))
            · exact .inr (.inl hin)
            · exact .inr (.inr hin)

theorem isSome_of_mapM {α β : Type} {f : α → Option β} {l : List α} {l' : List β} {a : α}
    (h : l.mapM f = some l') (ha : a ∈ l) : (f a).isSome = true := by
  induction l generalizing l' with
  | nil => cases ha
  | cons b l ih =>
      rw [List.mapM_cons] at h
      obtain ⟨b', hb, h⟩ := Option.bind_eq_some_iff.mp h
      obtain ⟨l'', hl, -⟩ := Option.bind_eq_some_iff.mp h
      obtain rfl | ha := List.mem_cons.mp ha
      · rw [hb]
        rfl
      · exact ih hl ha

theorem hexDigit_of_parseSimple (h : Uuid.parseSimple cs = some id) (hc : c ∈ cs) :
    (hexDigit c).isSome = true := by
  rw [Uuid.parseSimple] at h
  cases hdigits : cs.mapM hexDigit with
  | none =>
      rw [hdigits] at h
      cases h
  | some digits => exact isSome_of_mapM hdigits hc

/-- The characters of a UUID are its digits, hyphens and braces. -/
theorem mem_of_uuidIn (h : uuidIn orgID = some id) (hc : c ∈ orgID.toList) :
    (hexDigit c).isSome = true ∨ c ∈ ['-', '\x7b', '\x7d'] := by
  rw [uuidIn] at h
  generalize orgID.toList = cs at h hc
  by_cases hbrace : cs.head? = some '\x7b'
  · simp only [if_pos hbrace] at h
    obtain ⟨tail, rfl⟩ := List.head?_eq_some_iff.mp hbrace
    obtain rfl | hc := List.mem_cons.mp hc
    · exact .inr (by simp)
    split at h
    · cases h
    · next group rest hread =>
      by_cases hrest : rest = ['\x7d']
      · rw [if_pos hrest] at h
        obtain hin | rfl | hin := mem_readGroups hread hc
        · exact .inl (hexDigit_of_parseSimple h hin)
        · exact .inr (by simp)
        · rw [hrest] at hin
          exact .inr (by simp [List.mem_singleton.mp hin])
      · rw [if_neg hrest] at h
        cases h
  · simp only [if_neg hbrace] at h
    split at h
    · cases h
    · next group rest hread =>
      by_cases hrest : rest = []
      · rw [if_pos hrest] at h
        obtain hin | rfl | hin := mem_readGroups hread hc
        · exact .inl (hexDigit_of_parseSimple h hin)
        · exact .inr (by simp)
        · rw [hrest] at hin
          cases hin
      · rw [if_neg hrest] at h
        cases h

theorem underscore_not_mem (h : uuidIn orgID = some id) : '_' ∉ orgID.toList := by
  intro hc
  have hin := mem_of_uuidIn h hc
  revert hin
  decide

theorem hexChar_of_mem_hexEncode {bytes : List UInt8} (hc : c ∈ (hexEncode bytes).toList) :
    ∃ d, c = hexChar d := by
  rw [hexEncode, String.toList_ofList, List.mem_flatMap] at hc
  obtain ⟨b, -, hc⟩ := hc
  simp only [List.mem_cons, List.not_mem_nil, or_false] at hc
  obtain hc | hc := hc
  · exact ⟨_, hc⟩
  · exact ⟨_, hc⟩

theorem extractOrgIDFromKey_keyText (h : '_' ∉ orgID.toList) :
    extractOrgIDFromKey (keyText orgID bytes) = .ok orgID := by
  have hhex : '_' ∉ (hexEncode bytes.toList).toList := by
    intro hc
    obtain ⟨d, hd⟩ := hexChar_of_mem_hexEncode hc
    revert d
    decide
  have htext : (keyText orgID bytes).toList =
      "brand".toList ++ '_' :: (orgID.toList ++ '_' :: (hexEncode bytes.toList).toList) := by
    simp [keyText]
  rw [extractOrgIDFromKey, htext, List.splitOn_append_cons_self_of_not_mem (by decide),
    List.splitOn_append_cons_self_of_not_mem h, List.splitOn_eq_singleton hhex]
  simp

theorem length_keyText : (utf8 (keyText orgID bytes)).length = (utf8 orgID).length + 39 := by
  have hhex : (utf8 (hexEncode bytes.toList)).length = 32 := by
    rw [length_utf8, byteLen_eq_length]
    · simp [hexEncode, List.length_flatMap, bytes.length_eq]
    · intro c hc
      obtain ⟨d, rfl⟩ := hexChar_of_mem_hexEncode hc
      clear hc
      revert d
      decide
  have hbrand : (utf8 "brand_").length = 6 := by decide
  have hunder : (utf8 "_").length = 1 := by decide
  simp only [keyText, utf8_append, List.length_append, hhex, hbrand, hunder]
  omega

end Texts

section Requests
variable {bcrypt : Bcrypt} {expiryHours : Int} {env : KeyEnv} {s s' : KeyStore} {orgID : String}
  {id org : Uuid} {body : Option (Option String)} {description : Option String} {key : String}

theorem getOrg_working (hworking : env.Working) (hid : uuidIn orgID = some id) :
    getOrg env.toEnv s.toStore orgID = found (s.org id) := by
  simp [getOrg, query, hworking.fails, uuidParam, hid, Bind.bind, Except.bind]

theorem textParam_ok_iff {text stored : Option String} :
    textParam text = .ok stored ↔ text = stored ∧ ∀ t ∈ text, '\x00' ∉ t.toList := by
  rw [textParam]
  cases text with
  | none => simp
  | some t =>
      by_cases hzero : '\x00' ∈ t.toList
      · simp [hzero]
      · simp [hzero]

/-- How a request for a key ends. -/
inductive Creates (bcrypt : Bcrypt) (env : KeyEnv) (s : KeyStore) (orgID : String)
    (body : Option (Option String)) : KeyReply × KeyStore → Prop
  | refused {reply : KeyReply} (hreply : ∀ id key createdAt, reply ≠ .created id key createdAt) :
      Creates bcrypt env s orgID body (reply, s)
  | created {description : Option String} {org : Uuid} {bytes : Bytes 16} {keyHash : String}
      {apiKeys : Table BrandApiKey} (hbody : body = some description)
      (horgID : uuidIn orgID = some org) (horg : (s.org org).isSome = true)
      (hdescription : ∀ t ∈ description, '\x00' ∉ t.toList)
      (hhash : bcrypt.generate (keyText orgID bytes) defaultCost env.salt = .ok keyHash)
      (hinsert : s.apiKeys.insert ⟨env.uuid, org, keyHash, description, "active", env.now⟩ =
        some apiKeys) :
      Creates bcrypt env s orgID body
        (.created env.uuid (keyText orgID bytes) env.now, { s with apiKeys := apiKeys })

theorem generateApiKey_ok {bytes : Bytes 16} (hrandom : env.random = .ok bytes) :
    generateApiKey env orgID = .ok (keyText orgID bytes) := by
  rw [generateApiKey, hrandom]
  rfl

theorem newKey_ok {keyHash : String} (hworking : env.Working)
    (h : ApiKeyHandler.newKey bcrypt env orgID = .ok (key, keyHash)) :
    ∃ bytes, key = keyText orgID bytes ∧
      bcrypt.generate (keyText orgID bytes) defaultCost env.salt = .ok keyHash := by
  obtain ⟨bytes, hrandom⟩ := hworking.random
  rw [ApiKeyHandler.newKey, generateApiKey_ok hrandom] at h
  dsimp only at h
  split at h
  · cases h
  · next hhash =>
    cases h
    exact ⟨bytes, rfl, hhash⟩

theorem createApiKey_ok {keyID : Uuid} {keyHash status : String} {createdAt : Int}
    (hworking : env.Working)
    (h : createApiKey env s keyID orgID keyHash description status createdAt = (.ok (), s')) :
    ∃ org apiKeys, uuidIn orgID = some org ∧ (s.org org).isSome = true ∧
      (∀ t ∈ description, '\x00' ∉ t.toList) ∧
        s.apiKeys.insert ⟨keyID, org, keyHash, description, status, createdAt⟩ = some apiKeys ∧
          s' = { s with apiKeys := apiKeys } := by
  dsimp only [createApiKey, keyCommand] at h
  rw [hworking.keyFails] at h
  split at h
  · next hsome _ => cases hsome
  · next hsome _ => cases hsome
  · cases h
  · next s'' _ hdone =>
    cases h
    obtain ⟨org, horgID, hdone⟩ := bind_ok hdone
    obtain ⟨stored, hstored, hdone⟩ := bind_ok hdone
    obtain ⟨rfl, hdescription⟩ := textParam_ok_iff.mp hstored
    split at hdone
    · cases hdone
    · next horg =>
      obtain ⟨apiKeys, hinsert, rfl⟩ := inserted_ok hdone
      refine ⟨org, apiKeys, uuidParam_ok horgID, ?_, hdescription, hinsert, rfl⟩
      exact Option.isSome_iff_ne_none.mpr fun hnone => horg (by rw [hnone]; rfl)

theorem createApiKey_error {keyID : Uuid} {keyHash status : String} {createdAt : Int} {e : DbError}
    (hworking : env.Working)
    (h : createApiKey env s keyID orgID keyHash description status createdAt = (.error e, s')) :
    s' = s := by
  dsimp only [createApiKey, keyCommand] at h
  rw [hworking.keyFails] at h
  split at h
  · next hsome _ => cases hsome
  · next hsome _ => cases hsome
  · cases h
    rfl
  · cases h

theorem creates (hworking : env.Working) (s : KeyStore) (orgID : String)
    (body : Option (Option String)) :
    Creates bcrypt env s orgID body (ApiKeyHandler.create bcrypt env s orgID body) := by
  dsimp only [ApiKeyHandler.create]
  split
  · next reply hreply =>
    refine .refused fun id key createdAt => ?_
    rintro rfl
    rw [ApiKeyHandler.brandOrg] at hreply
    split at hreply
    · cases hreply
    · split at hreply <;> cases hreply
  · split
    · exact .refused fun id key createdAt h => by cases h
    · next description =>
      split
      · next reply hreply =>
        refine .refused fun id key createdAt => ?_
        rintro rfl
        rw [ApiKeyHandler.newKey] at hreply
        split at hreply
        · cases hreply
        · split at hreply <;> cases hreply
      · next key keyHash hnew =>
        obtain ⟨bytes, rfl, hhash⟩ := newKey_ok hworking hnew
        split
        · next e s' hcreate =>
          obtain rfl := createApiKey_error hworking hcreate
          exact .refused fun id key createdAt h => by cases h
        · next s' hcreate =>
          obtain ⟨org, apiKeys, horgID, horg, hdescription, hinsert, rfl⟩ :=
            createApiKey_ok hworking hcreate
          exact .created rfl horgID horg hdescription hhash hinsert

theorem hashed_iff (hideal : bcrypt.Ideal) {bytes : Bytes 16} {salt : String} :
    (∃ hash, bcrypt.generate (keyText orgID bytes) defaultCost salt = .ok hash) ↔
      (utf8 orgID).length ≤ 33 := by
  rw [hideal.generates, length_keyText]
  omega

theorem insert_fresh {k : BrandApiKey} :
    (∃ apiKeys, s.apiKeys.insert k = some apiKeys) ↔ ∀ a ∈ s.apiKeys.rows, a.keyID ≠ k.keyID := by
  constructor
  · intro hinsert a ha
    obtain ⟨apiKeys, hinsert⟩ := hinsert
    exact Table.not_clash_of_insert hinsert ha
  · exact Table.exists_insert

/-- A brand gets a key exactly under the three conditions. -/
theorem create_created_iff (hideal : bcrypt.Ideal) (hworking : env.Working)
    (hid : uuidIn orgID = some id) {o : Organization} (ho : s.org id = some o)
    (hbrand : o.orgType = "brand") :
    (∃ keyID key createdAt, (ApiKeyHandler.create bcrypt env s orgID (some description)).1 =
        .created keyID key createdAt) ↔
      (utf8 orgID).length ≤ 33 ∧ (∀ t ∈ description, '\x00' ∉ t.toList) ∧
        ∀ k ∈ s.apiKeys.rows, k.keyID ≠ env.uuid := by
  constructor
  · intro hcreated
    obtain ⟨keyID, key, createdAt, hcreated⟩ := hcreated
    have hcreates : Creates bcrypt env s orgID (some description) _ :=
      creates hworking s orgID (some description)
    generalize ApiKeyHandler.create bcrypt env s orgID (some description) = r at hcreated hcreates
    cases hcreates with
    | refused hreply => exact absurd hcreated (hreply _ _ _)
    | created hbody _ _ hdescription hhash hinsert =>
        cases hbody
        exact ⟨(hashed_iff hideal).mp ⟨_, hhash⟩, hdescription, insert_fresh.mp ⟨_, hinsert⟩⟩
  · intro hcond
    obtain ⟨hlength, hdescription, hfresh⟩ := hcond
    obtain ⟨bytes, hrandom⟩ := hworking.random
    have hhash : ∃ hash, bcrypt.generate (keyText orgID bytes) defaultCost env.salt = .ok hash :=
      (hashed_iff hideal).mpr hlength
    obtain ⟨hash, hhash⟩ := hhash
    have hinsert : ∃ apiKeys, s.apiKeys.insert
        ⟨env.uuid, id, hash, description, "active", env.now⟩ = some apiKeys :=
      insert_fresh.mpr hfresh
    obtain ⟨apiKeys, hinsert⟩ := hinsert
    have horg : ApiKeyHandler.brandOrg env s orgID = .ok o := by
      simp [ApiKeyHandler.brandOrg, getOrg_working hworking hid, ho, found, hbrand]
    have hnew : ApiKeyHandler.newKey bcrypt env orgID = .ok (keyText orgID bytes, hash) := by
      simp [ApiKeyHandler.newKey, generateApiKey_ok hrandom, hhash]
    have htext : textParam description = .ok description := textParam_ok_iff.mpr ⟨rfl, hdescription⟩
    have hcreate : createApiKey env s env.uuid orgID hash description "active" env.now =
        (.ok (), { s with apiKeys := apiKeys }) := by
      simp [createApiKey, keyCommand, hworking.keyFails, uuidParam, hid, htext, ho, inserted,
        hinsert, Bind.bind, Except.bind]
    simp [ApiKeyHandler.create, horg, hnew, hcreate]

/-- Revoking touches the one key, if there is one, and its status only. -/
theorem revoke_state (hworking : env.Working) (s : KeyStore) (keyID : String) :
    (ApiKeyHandler.revoke env s keyID).2 =
      match uuidIn keyID with
      | none => s
      | some id =>
          { s with
            apiKeys := s.apiKeys.update (·.keyID = id) (fun k => { k with status := "revoked" })
              fun _ => rfl } := by
  cases hid : uuidIn keyID with
  | none =>
      simp [ApiKeyHandler.revoke, revokeApiKey, keyCommand, hworking.keyFails, uuidParam, hid,
        Bind.bind, Except.bind]
  | some id =>
      simp [ApiKeyHandler.revoke, revokeApiKey, keyCommand, hworking.keyFails, uuidParam, hid,
        Bind.bind, Except.bind]

theorem Change.org_isSome {s s' : Store} (h : Change bcrypt s s')
    (horg : (s.org org).isSome = true) :
    (s'.org org).isSome = true := by
  cases h with
  | org o orgs hinsert _ =>
      rw [Store.org, Table.find_insert hinsert, Option.isSome_or]
      rw [Store.org] at horg
      rw [horg, Bool.true_or]
  | setOrg orgID orgName status =>
      have hfind := @Table.find_update _ _ s.orgs (·.orgID = orgID) (·.orgID = org)
        (Iam.setOrg orgName status) (fun _ => rfl) fun _ => rfl
      exact (congrArg Option.isSome hfind).trans (Option.isSome_map.trans horg)
  | none | position _ _ _ _ _ _ | member _ _ _ _ _ _ | removed _ | user _ _ _ _ | setUser _ _ _ _ =>
      exact horg

end Requests

section Runs
variable {bcrypt : Bcrypt} {expiryHours : Int} {start s s' : KeyStore} {h : List Exchange}
  {e : Exchange} {env : KeyEnv} {id org : Uuid} {orgID key : String}

theorem live_append :
    Live (h ++ [e]) id org key ↔ e.Issues id org key ∨ (Live h id org key ∧ ¬e.Revokes id) := by
  constructor
  · intro hlive
    obtain ⟨h₁, c, h₂, hh, hissues, hkept⟩ := hlive
    obtain rfl | ⟨h₂, r, rfl⟩ := List.eq_nil_or_concat h₂
    · obtain ⟨-, hlast⟩ := List.append_inj' hh rfl
      obtain rfl := List.singleton_inj.mp hlast
      exact .inl hissues
    · rw [List.concat_eq_append, ← List.cons_append, ← List.append_assoc] at hh
      obtain ⟨rfl, hlast⟩ := List.append_inj' hh rfl
      obtain rfl := List.singleton_inj.mp hlast
      rw [List.concat_eq_append] at hkept
      obtain ⟨hkept, hlast⟩ := List.forall_mem_append.mp hkept
      exact .inr ⟨⟨h₁, c, h₂, rfl, hissues, hkept⟩, hlast _ (.head _)⟩
  · intro hlive
    obtain hissues | ⟨⟨h₁, c, h₂, rfl, hissues, hkept⟩, hnot⟩ := hlive
    · exact ⟨h, e, [], rfl, hissues, fun r hr => absurd hr List.not_mem_nil⟩
    · refine ⟨h₁, c, h₂ ++ [e], by simp, hissues, fun r hr => ?_⟩
      obtain hr | hr := List.mem_append.mp hr
      · exact hkept r hr
      · rwa [List.mem_singleton.mp hr]

/-- The row has the hash of a key of its organization, and is active as long as the key is. -/
structure KeptRow (bcrypt : Bcrypt) (h : List Exchange) (s : KeyStore) (k : BrandApiKey)
    (orgID : String) (bytes : Bytes 16) : Prop where
  orgID_eq : uuidIn orgID = some k.orgID
  org : (s.org k.orgID).isSome = true
  hash : ∃ salt, bcrypt.generate (keyText orgID bytes) defaultCost salt = .ok k.keyHash
  live : ∀ org key, Live h k.keyID org key ↔
    k.status = "active" ∧ org = k.orgID ∧ key = keyText orgID bytes

structure Kept (bcrypt : Bcrypt) (h : List Exchange) (s : KeyStore) : Prop where
  rows : ∀ k ∈ s.apiKeys.rows, ∃ orgID bytes, KeptRow bcrypt h s k orgID bytes
  stored : ∀ id org key, Live h id org key → ∃ k ∈ s.apiKeys.rows, k.keyID = id

/-- An exchange that neither issues nor revokes, and leaves the keys. -/
theorem Kept.aside (hkept : Kept bcrypt h s) (hissues : ∀ id org key, ¬e.Issues id org key)
    (hrevokes : ∀ id, ¬e.Revokes id) (hkeys : s'.apiKeys = s.apiKeys)
    (horgs : ∀ id, (s.org id).isSome = true → (s'.org id).isSome = true) :
    Kept bcrypt (h ++ [e]) s' := by
  have hlive : ∀ {id org key}, Live (h ++ [e]) id org key ↔ Live h id org key := by
    intro id org key
    rw [live_append]
    simp only [hissues, hrevokes, false_or, not_false_eq_true, and_true]
  refine ⟨fun k hk => ?_, fun id org key hl => ?_⟩
  · rw [hkeys] at hk
    obtain ⟨orgID, bytes, hrow⟩ := hkept.rows k hk
    refine ⟨orgID, bytes, hrow.orgID_eq, horgs _ hrow.org, hrow.hash, fun org key => ?_⟩
    rw [hlive]
    exact hrow.live org key
  · rw [hkeys]
    exact hkept.stored id org key (hlive.mp hl)

theorem Kept.create (hkept : Kept bcrypt h s) (hworking : env.Working) (orgID : String)
    (body : Option (Option String)) :
    Kept bcrypt
      (h ++ [⟨s, env, .create orgID body, (ApiKeyHandler.create bcrypt env s orgID body).1⟩])
      (ApiKeyHandler.create bcrypt env s orgID body).2 := by
  have hcreates : Creates bcrypt env s orgID body _ := creates hworking s orgID body
  generalize ApiKeyHandler.create bcrypt env s orgID body = r at hcreates
  have hrevokes : ∀ reply id, ¬Exchange.Revokes ⟨s, env, .create orgID body, reply⟩ id := by
    intro reply id hrevokes
    obtain ⟨keyID, hrequest, -⟩ := hrevokes
    cases hrequest
  cases hcreates with
  | refused hreply =>
      refine hkept.aside (fun id org key hissues => ?_) (hrevokes _) rfl fun _ h => h
      obtain ⟨_, _, _, _, _, hcreated⟩ := hissues
      exact hreply _ _ _ hcreated
  | @created description org bytes keyHash apiKeys hbody horgID horg hdescription hhash hinsert =>
      have hissues : ∀ {id org' key}, Exchange.Issues ⟨s, env, .create orgID body,
          .created env.uuid (keyText orgID bytes) env.now⟩ id org' key ↔
            id = env.uuid ∧ org' = org ∧ key = keyText orgID bytes := by
        intro id org' key
        constructor
        · intro hissues
          obtain ⟨_, _, _, hrequest, horgID', hcreated⟩ := hissues
          cases hrequest
          cases hcreated
          exact ⟨rfl, Option.some.inj (horgID'.symm.trans horgID), rfl⟩
        · intro heqs
          obtain ⟨rfl, rfl, rfl⟩ := heqs
          exact ⟨orgID, body, env.now, rfl, horgID, rfl⟩
      have hlive : ∀ {id org' key}, Live (h ++ [⟨s, env, .create orgID body,
          .created env.uuid (keyText orgID bytes) env.now⟩]) id org' key ↔
            (id = env.uuid ∧ org' = org ∧ key = keyText orgID bytes) ∨ Live h id org' key := by
        intro id org' key
        rw [live_append, hissues]
        simp only [hrevokes, not_false_eq_true, and_true]
      have hfresh : ∀ a ∈ s.apiKeys.rows, a.keyID ≠ env.uuid := insert_fresh.mp ⟨_, hinsert⟩
      refine ⟨fun k hk => ?_, fun id org' key hl => ?_⟩
      · obtain hk | rfl := (Table.mem_insert hinsert).mp hk
        · obtain ⟨orgID', bytes', hrow⟩ := hkept.rows k hk
          refine ⟨orgID', bytes', hrow.orgID_eq, hrow.org, hrow.hash, fun org' key => ?_⟩
          rw [hlive, ← hrow.live]
          simp only [hfresh k hk, false_and, false_or]
        · refine ⟨orgID, bytes, horgID, horg, ⟨_, hhash⟩, fun org' key => ?_⟩
          have hnone : ¬Live h env.uuid org' key := by
            intro hl
            obtain ⟨a, ha, hid⟩ := hkept.stored _ _ _ hl
            exact hfresh a ha hid
          rw [hlive]
          simp only [hnone, or_false, true_and]
      · obtain ⟨rfl, -⟩ | hl := hlive.mp hl
        · exact ⟨_, (Table.mem_insert hinsert).mpr (.inr rfl), rfl⟩
        · obtain ⟨k, hk, hid⟩ := hkept.stored _ _ _ hl
          exact ⟨k, (Table.mem_insert hinsert).mpr (.inl hk), hid⟩

theorem Kept.revoke (hkept : Kept bcrypt h s) (hworking : env.Working) (keyID : String) :
    Kept bcrypt (h ++ [⟨s, env, .revoke keyID, (ApiKeyHandler.revoke env s keyID).1⟩])
      (ApiKeyHandler.revoke env s keyID).2 := by
  rw [revoke_state hworking]
  have hissues : ∀ id org key, ¬Exchange.Issues
      ⟨s, env, .revoke keyID, (ApiKeyHandler.revoke env s keyID).1⟩ id org key := by
    intro id org key hissues
    obtain ⟨_, _, _, hrequest, -⟩ := hissues
    cases hrequest
  have hrevokes : ∀ {id}, Exchange.Revokes
      ⟨s, env, .revoke keyID, (ApiKeyHandler.revoke env s keyID).1⟩ id ↔ uuidIn keyID = some id := by
    intro id
    constructor
    · intro hrevokes
      obtain ⟨_, hrequest, hid⟩ := hrevokes
      cases hrequest
      exact hid
    · intro hid
      exact ⟨keyID, rfl, hid⟩
  cases hid : uuidIn keyID with
  | none =>
      refine hkept.aside hissues (fun id hr => ?_) rfl fun _ h => h
      rw [hrevokes, hid] at hr
      cases hr
  | some id =>
      have hlive : ∀ {id' org key}, Live (h ++ [⟨s, env, .revoke keyID,
          (ApiKeyHandler.revoke env s keyID).1⟩]) id' org key ↔ Live h id' org key ∧ id' ≠ id := by
        intro id' org key
        rw [live_append, hrevokes, hid, Option.some.injEq]
        simp only [hissues, false_or, ne_eq, eq_comm]
      have hrows := fun a => @Table.mem_update _ _ s.apiKeys a (·.keyID = id)
        (fun k => { k with status := "revoked" }) fun _ => rfl
      refine ⟨fun k hk => ?_, fun id' org key hl => ?_⟩
      · obtain ⟨a, ha, rfl⟩ := (hrows k).mp hk
        obtain ⟨orgID, bytes, hrow⟩ := hkept.rows a ha
        by_cases heq : a.keyID = id
        · rw [if_pos (decide_eq_true heq)]
          refine ⟨orgID, bytes, hrow.orgID_eq, hrow.org, hrow.hash, fun org key => ?_⟩
          rw [hlive]
          simp [heq]
        · rw [if_neg (by simpa using heq)]
          refine ⟨orgID, bytes, hrow.orgID_eq, hrow.org, hrow.hash, fun org key => ?_⟩
          rw [hlive, ← hrow.live]
          simp only [ne_eq, heq, not_false_eq_true, and_true]
      · obtain ⟨k, hk, hkey⟩ := hkept.stored _ _ _ (hlive.mp hl).1
        refine ⟨_, (hrows _).mpr ⟨k, hk, rfl⟩, ?_⟩
        split
        · exact hkey
        · exact hkey

theorem getActiveKeysByOrg_ok (hworking : env.Working) (hid : uuidIn orgID = some id) :
    ∃ keys, getActiveKeysByOrg env s orgID = .ok keys ∧
      ∀ k, k ∈ keys ↔ k ∈ s.apiKeys.rows ∧ k.orgID = id ∧ k.status = "active" := by
  simp only [getActiveKeysByOrg, keyQuery, hworking.keyFails, uuidParam, hid, Bind.bind, Except.bind]
  refine ⟨_, rfl, fun k => ?_⟩
  rw [(List.perm_insertionSort _ _).mem_iff, List.mem_filter, Bool.and_eq_true, decide_eq_true_eq,
    decide_eq_true_eq]

/-- The row that accepts the text: it is active, and the text fits its hash. -/
def Accepting (bcrypt : Bcrypt) (s : KeyStore) (org : Uuid) (key : String) : Prop :=
  (s.org org).isSome = true ∧ ∃ k ∈ s.apiKeys.rows,
    k.orgID = org ∧ k.status = "active" ∧ bcrypt.compare k.keyHash key = true

theorem validated_id_iff (hworking : env.Working) (hne : key ≠ "")
    (hkey : extractOrgIDFromKey key = .ok orgID) (hid : uuidIn orgID = some id) :
    (∃ brandID orgName, AuthHandler.validateApiKey bcrypt env s (some key) =
        .validated org brandID orgName) ↔ org = id ∧ Accepting bcrypt s id key := by
  obtain ⟨keys, hactive, hmem⟩ := getActiveKeysByOrg_ok (s := s) hworking hid
  have hany : (keys.any fun k => bcrypt.compare k.keyHash key) = true ↔ ∃ k ∈ s.apiKeys.rows,
      k.orgID = id ∧ k.status = "active" ∧ bcrypt.compare k.keyHash key = true := by
    simp only [List.any_eq_true, hmem, and_assoc]
  simp only [AuthHandler.validateApiKey, if_neg hne, hkey, hactive, getOrg_working hworking hid]
  by_cases hmatch : (keys.any fun k => bcrypt.compare k.keyHash key) = true
  · rw [if_pos hmatch]
    cases ho : s.org id with
    | none => simp [found, Accepting, ho, keyInternalError]
    | some o =>
        have hoid := (Store.org_eq ho).2
        constructor
        · intro h
          obtain ⟨_, _, h⟩ := h
          cases h
          exact ⟨hoid, by rw [ho]; rfl, hany.mp hmatch⟩
        · intro h
          obtain ⟨rfl, -⟩ := h
          exact ⟨o.brandID, o.orgName, congrArg (KeyReply.validated · o.brandID o.orgName) hoid⟩
  · rw [if_neg hmatch]
    constructor
    · intro h
      obtain ⟨_, _, h⟩ := h
      cases h
    · intro h
      exact absurd (hany.mpr h.2.2) hmatch

/-- A text is accepted for the organization it names, by a row of that organization. -/
theorem validated_iff (hworking : env.Working) :
    (∃ brandID orgName, AuthHandler.validateApiKey bcrypt env s (some key) =
        .validated org brandID orgName) ↔
      ∃ orgID, extractOrgIDFromKey key = .ok orgID ∧ uuidIn orgID = some org ∧
        Accepting bcrypt s org key := by
  by_cases hempty : key = ""
  · simp [AuthHandler.validateApiKey, hempty, extractOrgIDFromKey]
  · cases hkey : extractOrgIDFromKey key with
    | error message => simp [AuthHandler.validateApiKey, hempty, hkey, invalidApiKey]
    | ok orgID =>
        simp only [Except.ok.injEq, exists_eq_left']
        cases hid : uuidIn orgID with
        | none =>
            simp [AuthHandler.validateApiKey, hempty, hkey, getActiveKeysByOrg, keyQuery,
              hworking.keyFails, uuidParam, hid, Bind.bind, Except.bind, keyInternalError]
        | some id =>
            rw [validated_id_iff hworking hempty hkey hid, Option.some.injEq]
            constructor
            · intro h
              exact ⟨h.1.symm, h.1 ▸ h.2⟩
            · intro h
              exact ⟨h.1.symm, h.1 ▸ h.2⟩

theorem Kept.validated (hideal : bcrypt.Ideal) (hkept : Kept bcrypt h s) (hworking : env.Working) :
    (∃ brandID orgName, AuthHandler.validateApiKey bcrypt env s (some key) =
        .validated org brandID orgName) ↔ ∃ id, Live h id org key := by
  rw [validated_iff hworking]
  constructor
  · intro hvalid
    obtain ⟨_, -, -, -, k, hk, rfl, hstatus, hcompare⟩ := hvalid
    obtain ⟨orgID', bytes, hrow⟩ := hkept.rows k hk
    obtain ⟨salt, hhash⟩ := hrow.hash
    have hkey := (hideal.compares _ _ _ _ hhash key).mp hcompare
    exact ⟨k.keyID, (hrow.live _ _).mpr ⟨hstatus, rfl, hkey⟩⟩
  · intro hlive
    obtain ⟨id, hlive⟩ := hlive
    obtain ⟨k, hk, rfl⟩ := hkept.stored _ _ _ hlive
    obtain ⟨orgID, bytes, hrow⟩ := hkept.rows k hk
    obtain ⟨hstatus, rfl, rfl⟩ := (hrow.live _ _).mp hlive
    obtain ⟨salt, hhash⟩ := hrow.hash
    have hcompare := (hideal.compares _ _ _ _ hhash (keyText orgID bytes)).mpr rfl
    exact ⟨orgID, extractOrgIDFromKey_keyText (underscore_not_mem hrow.orgID_eq), hrow.orgID_eq,
      hrow.org, k, hk, rfl, hstatus, hcompare⟩

namespace Exchanges

theorem kept (hideal : bcrypt.Ideal) (run : Exchanges bcrypt expiryHours start h s)
    (hstart : start.apiKeys = .empty) : Kept bcrypt h s := by
  induction run with
  | start =>
      refine ⟨fun k hk => ?_, fun id org key hlive => ?_⟩
      · rw [hstart] at hk
        cases hk
      · obtain ⟨h₁, e, h₂, hh, -⟩ := hlive
        exact absurd hh.symm (by simp)
  | @step h s run env hworking request ih =>
      cases request with
      | create orgID body => exact ih.create hworking orgID body
      | revoke keyID => exact ih.revoke hworking keyID
      | validate body =>
          refine ih.aside (fun id org key hissues => ?_) (fun id hrevokes => ?_) rfl fun _ h => h
          · obtain ⟨_, _, _, hrequest, -⟩ := hissues
            cases hrequest
          · obtain ⟨_, hrequest, -⟩ := hrevokes
            cases hrequest
      | other request =>
          have hchange : Change bcrypt s.toStore
              (handle bcrypt expiryHours env.toEnv s.toStore request).2 :=
            handle_change (fun password cost salt hash hhash =>
              (hideal.compares password cost salt hash hhash password).mpr rfl) request
          refine ih.aside (fun id org key hissues => ?_) (fun id hrevokes => ?_) rfl
            fun _ => hchange.org_isSome
          · obtain ⟨_, _, _, hrequest, -⟩ := hissues
            cases hrequest
          · obtain ⟨_, hrequest, -⟩ := hrevokes
            cases hrequest

/-- An exchange is a request to the store the exchanges before it leave. -/
theorem split {h₁ h₂ : List Exchange} (run : Exchanges bcrypt expiryHours start h s)
    (hh : h = h₁ ++ e :: h₂) :
    Exchanges bcrypt expiryHours start h₁ e.before ∧ e.env.Working ∧
      e.reply = (handleKeys bcrypt expiryHours e.env e.before e.request).1 := by
  induction run generalizing h₂ with
  | start => simp at hh
  | @step h s run env hworking request ih =>
      obtain rfl | ⟨h₂, r, rfl⟩ := List.eq_nil_or_concat h₂
      · obtain ⟨rfl, hlast⟩ := List.append_inj' hh rfl
        obtain rfl := List.singleton_inj.mp hlast
        exact ⟨run, hworking, rfl⟩
      · rw [List.concat_eq_append, ← List.cons_append, ← List.append_assoc] at hh
        exact ih (List.append_inj' hh rfl).1

end Exchanges

/-- From a store without keys, whatever is asked of it, a brand gets a key and the key works
until it is revoked, exactly if every request for one meets the conditions. -/
theorem keys_work_iff (hideal : bcrypt.Ideal) (run : Exchanges bcrypt expiryHours start h s)
    (hstart : start.apiKeys = .empty) : KeysWork h ↔ ∀ e ∈ h, e.Issuable := by
  have hcreated : ∀ e ∈ h, ∀ orgID description, e.Asks orgID description →
      ((∃ id org key, e.Issues id org key) ↔ (utf8 orgID).length ≤ 33 ∧
        (∀ text ∈ description, '\x00' ∉ text.toList) ∧
          ∀ k ∈ e.before.apiKeys.rows, k.keyID ≠ e.env.uuid) := by
    intro e he orgID description hasks
    obtain ⟨h₁, h₂, hh⟩ := List.append_of_mem he
    obtain ⟨-, hworking, hreply⟩ := run.split hh
    obtain ⟨hrequest, id, o, hid, ho, hbrand⟩ := hasks
    rw [hrequest] at hreply
    rw [← create_created_iff hideal hworking hid ho hbrand]
    constructor
    · intro hissues
      obtain ⟨keyID, org, key, _, _, createdAt, _, _, hcreated⟩ := hissues
      exact ⟨keyID, key, createdAt, hreply.symm.trans hcreated⟩
    · intro hcreated
      obtain ⟨keyID, key, createdAt, hcreated⟩ := hcreated
      exact ⟨keyID, id, key, orgID, _, createdAt, hrequest, hid, hreply.trans hcreated⟩
  constructor
  · intro hwork e he orgID description hasks
    exact (hcreated e he orgID description hasks).mp (hwork.created e he orgID description hasks)
  · intro hissuable
    refine ⟨fun e he orgID description hasks => ?_, fun h₁ e h₂ hh key hrequest org => ?_⟩
    · exact (hcreated e he orgID description hasks).mpr (hissuable e he orgID description hasks)
    · obtain ⟨run₁, hworking, hreply⟩ := run.split hh
      rw [hrequest] at hreply
      rw [← (run₁.kept hideal hstart).validated hideal hworking, Exchange.Resolves, hreply]
      rfl

end Runs

section Sample

/-- The hash is the password, marked as a hash. -/
def markedBcrypt : Bcrypt where
  generate password _ _ :=
    if (utf8 password).length ≤ 72 then .ok ("$2a$10$" ++ password)
    else .error "bcrypt: password length exceeds 72 bytes"
  compare hash password := hash = "$2a$10$" ++ password
  cost _ := 10

theorem markedBcrypt_ideal : markedBcrypt.Ideal where
  generates password salt := by
    dsimp only [markedBcrypt]
    split
    · next hle => exact ⟨fun _ => hle, fun _ => ⟨_, rfl⟩⟩
    · next hnot =>
      constructor
      · intro h
        obtain ⟨_, h⟩ := h
        cases h
      · intro hle
        exact absurd hle hnot
  compares password cost salt hash hhash other := by
    dsimp only [markedBcrypt] at hhash ⊢
    split at hhash
    · cases hhash
      rw [decide_eq_true_eq, String.append_right_inj, eq_comm]
    · cases hhash

/-- A brand and no keys. -/
def luxeStore : KeyStore where
  orgs := .single
    { orgID := .repeated 1
      orgName := "Luxe"
      orgType := "brand"
      parentOrgID := none
      brandID := some "brand-luxe"
      contactEmail := some "ops@luxe.com"
      contactPhone := some "1"
      status := "active" }

def keyEnv : KeyEnv where
  uuid := .repeated 7
  random := .ok ⟨List.replicate 16 0xab, by decide⟩

theorem keyEnv_working : keyEnv.Working := ⟨fun _ => rfl, fun _ => rfl, ⟨_, rfl⟩⟩

/-- The id without its hyphens. -/
def plainID : String := String.ofList ((Uuid.repeated 1).digits.map hexChar)

def plainKey : String := "brand_" ++ plainID ++ "_" ++ hexEncode (List.replicate 16 0xab)

/-- A key is created, used, and revoked, and used again. -/
def plainRequests : List KeyRequest :=
  [.create plainID (some none), .validate (some plainKey), .revoke (Uuid.repeated 7).display,
    .validate (some plainKey)]

def exchangesFor (bcrypt : Bcrypt) (s : KeyStore) : List KeyRequest → List Exchange × KeyStore
  | [] => ([], s)
  | request :: rest =>
      let (reply, s') := handleKeys bcrypt 24 keyEnv s request
      let (h, last) := exchangesFor bcrypt s' rest
      (⟨s, keyEnv, request, reply⟩ :: h, last)

theorem exchangesFor_run {bcrypt : Bcrypt} {start s : KeyStore} {h : List Exchange}
    (run : Exchanges bcrypt 24 start h s) (requests : List KeyRequest) :
    Exchanges bcrypt 24 start (h ++ (exchangesFor bcrypt s requests).1)
      (exchangesFor bcrypt s requests).2 := by
  induction requests generalizing h s with
  | nil =>
      rw [exchangesFor, List.append_nil]
      exact run
  | cons request rest ih =>
      have hnext := ih (run.step keyEnv keyEnv_working request)
      rw [List.append_assoc] at hnext
      exact hnext

theorem keys_work_iff_plain : KeysWork (exchangesFor markedBcrypt luxeStore plainRequests).1 := by
  have run : Exchanges markedBcrypt 24 luxeStore _ _ := exchangesFor_run .start plainRequests
  refine (keys_work_iff markedBcrypt_ideal run rfl).mpr fun e he orgID description hasks => ?_
  obtain ⟨hrequest, -⟩ := hasks
  simp only [plainRequests, exchangesFor, List.nil_append, List.mem_cons, List.not_mem_nil,
    or_false] at he
  obtain rfl | rfl | rfl | rfl := he
  · cases hrequest
    exact ⟨by decide, fun _ h => absurd h (by simp), fun _ h => absurd h List.not_mem_nil⟩
  · cases hrequest
  · cases hrequest
  · cases hrequest

/-- The brand's id as it is usually written makes a key too long to be hashed. -/
theorem no_key_for_usual_id :
    ¬∀ (bcrypt : Bcrypt) (expiryHours : Int) (start s : KeyStore) (h : List Exchange),
      bcrypt.Ideal → Exchanges bcrypt expiryHours start h s → start.apiKeys = .empty →
        KeysWork h := by
  intro hall
  have run : Exchanges markedBcrypt 24 luxeStore _ _ :=
    exchangesFor_run .start [.create (Uuid.repeated 1).display (some none)]
  have hwork := hall _ _ _ _ _ markedBcrypt_ideal run rfl
  obtain ⟨_, _, _, _, _, _, _, _, hcreated⟩ :=
    hwork.created _ (.head _) (Uuid.repeated 1).display none
    ⟨rfl, .repeated 1, _, uuidIn_display _, rfl, rfl⟩
  have hreply : (handleKeys markedBcrypt 24 keyEnv luxeStore
      (.create (Uuid.repeated 1).display (some none))).1 =
        keyInternalError "Failed to hash API key" := by
    decide +kernel
  cases hreply.symm.trans hcreated

end Sample

end RcProtocol.Iam
