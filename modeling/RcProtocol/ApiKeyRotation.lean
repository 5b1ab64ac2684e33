import RcProtocol.Brands.Spec
import RcProtocol.Replay

/-!
The API keys of the brands under any number of registrations, rotations and requests by
key. A rotation revokes the key it has fetched and nothing else, and keeps no hold on it:
as long as that key is still active when the rotation commits, each brand has one key.
-/

namespace RcProtocol.Brands
open Library

/-- The move commits the key. -/
def Establishes {ι : Type} (v : Move interface KeyDb ι) (key : ApiKeyRow) : Prop :=
  .insertApiKey key ∈ v.event.op.written ∧
    Transaction.applyAll v.event.op.written v.before = some v.after

/-- The move finds a brand under the hash of a key. -/
def Authenticates {ι : Type} (v : Move interface KeyDb ι) (keyHash : String) : Prop :=
  ∃ brand, v.event = ⟨.fetchBrandByApiKeyHash keyHash, .ok (some brand)⟩

def KeyDb.OneKeyEach (db : KeyDb) : Prop :=
  ∀ b ∈ db.brands.rows, ∃ k, db.activeKeys b.brandId = [k]

section Histories
variable {ι : Type} (h : List (Move interface KeyDb ι))

/-- Each rotation that commits finds the key it revokes still active. -/
def RevokesActive : Prop :=
  ∀ v ∈ h, ∀ key, Establishes v key → ∀ keyId now, .revokeApiKey keyId now ∈ v.event.op.written →
    ∃ k ∈ v.before.activeKeys key.brandId, k.keyId = keyId

variable (p : Primitives) (start : KeyDb) (c : Pool interface KeyDb ι Reply)

structure KeysSound : Prop where
  one : c.state.OneKeyEach
  latest : ∀ h₁ v h₂ key, h = h₁ ++ v :: h₂ → Establishes v key →
    (∀ u ∈ h₂, ∀ key', Establishes u key' → key'.brandId ≠ key.brandId) →
      c.state.activeKeys key.brandId = [key]
  shown : ∀ v ∈ h, ∀ key, Stores v.event key → Establishes v key ∧
    ∀ reply, c.threads v.thread = .done reply →
      ∃ apiKey, reply.apiKey = some apiKey ∧ key.keyHash = hashApiKey p apiKey
  stored : ∀ i reply apiKey, c.threads i = .done reply → reply.apiKey = some apiKey →
    ∃ v ∈ h, v.thread = i ∧ ∃ key, Establishes v key ∧ key.keyHash = hashApiKey p apiKey
  superseded : ∀ h₁ v h₂ key, h = h₁ ++ v :: h₂ → Establishes v key →
    ∀ k, (k ∈ start.apiKeys.rows ∨ ∃ u ∈ h₁, Establishes u k) → k.brandId = key.brandId →
      ∀ u ∈ h₂, ¬Authenticates u k.keyHash

end Histories

namespace KeyDb
variable {db db' : KeyDb} {k key : ApiKeyRow} {brandId : String}

theorem mem_activeKeys :
    k ∈ db.activeKeys brandId ↔ k ∈ db.apiKeys.rows ∧ k.brandId = brandId ∧ k.status = .active := by
  simp only [activeKeys, List.mem_filter, Bool.and_eq_true, decide_eq_true_eq]

theorem brands_insertBrand {b : BrandRow} (h : db.insertBrand b = some db') :
    db.brands.insert b = some db'.brands ∧ db'.apiKeys = db.apiKeys := by
  dsimp only [insertBrand] at h
  split at h
  · cases h
  · next brands hinsert =>
    obtain rfl := Option.some.inj h
    exact ⟨hinsert, rfl⟩

theorem apiKeys_insertApiKey (h : db.insertApiKey key = some db') :
    db.apiKeys.insert key = some db'.apiKeys ∧ db'.brands = db.brands := by
  dsimp only [insertApiKey] at h
  split at h
  · split at h
    · cases h
    · next apiKeys hinsert =>
      obtain rfl := Option.some.inj h
      exact ⟨hinsert, rfl⟩
  · cases h

theorem activeKeys_insertBrand {b : BrandRow} (h : db.insertBrand b = some db') :
    db'.activeKeys brandId = db.activeKeys brandId := by
  rw [activeKeys, (brands_insertBrand h).2, activeKeys]

theorem activeKeys_insertApiKey (h : db.insertApiKey key = some db')
    (hactive : key.status = .active) :
    db'.activeKeys brandId =
      db.activeKeys brandId ++ if key.brandId = brandId then [key] else [] := by
  rw [activeKeys, Table.rows_insert (apiKeys_insertApiKey h).1, List.filter_append, activeKeys]
  by_cases hid : key.brandId = brandId <;> simp [hid, hactive]

theorem activeKeys_revokeApiKey (keyId : String) (now : Time) :
    (db.revokeApiKey keyId now).activeKeys brandId =
      (db.activeKeys brandId).filter (·.keyId ≠ keyId) := by
  simp only [activeKeys, revokeApiKey, Table.update]
  induction db.apiKeys.rows with
  | nil => rfl
  | cons r rows ih =>
      by_cases hid : r.keyId = keyId
      · rw [List.map_cons, if_pos (decide_eq_true hid),
          List.filter_cons_of_neg (by simp [ApiKeyRow.revoke]), ih, List.filter_cons]
        split
        · rw [List.filter_cons_of_neg (by simpa using hid)]
        · rfl
      · rw [List.map_cons, if_neg (by simpa using hid), List.filter_cons, ih, List.filter_cons]
        split
        · rw [List.filter_cons_of_pos (by simpa using hid)]
        · rfl

/-- Nobody has a key under a brand that does not exist. -/
theorem activeKeys_unregistered (h : ∀ b ∈ db.brands.rows, b.brandId ≠ brandId) :
    db.activeKeys brandId = [] := by
  apply List.eq_nil_iff_forall_not_mem.mpr
  intro k hk
  obtain ⟨hstored, hid, -⟩ := mem_activeKeys.mp hk
  obtain ⟨b, hb, hbrand⟩ := db.owned k hstored
  exact h b hb (hbrand.trans hid)

theorem eq_of_keyId {a b : ApiKeyRow} (ha : a ∈ db.apiKeys.rows) (hb : b ∈ db.apiKeys.rows)
    (h : a.keyId = b.keyId) : a = b := Table.eq_of_clash ha hb (.inl h)

theorem eq_of_keyHash {a b : ApiKeyRow} (ha : a ∈ db.apiKeys.rows) (hb : b ∈ db.apiKeys.rows)
    (h : a.keyHash = b.keyHash) : a = b := Table.eq_of_clash ha hb (.inr h)

/-- A key revoked under one brand leaves the keys of the others. -/
theorem activeKeys_revoke_other {keyId brandId' : String} (now : Time)
    (hk : k ∈ db.activeKeys brandId) (hid : k.keyId = keyId) (hne : brandId ≠ brandId') :
    (db.revokeApiKey keyId now).activeKeys brandId' = db.activeKeys brandId' := by
  rw [activeKeys_revokeApiKey]
  apply List.filter_eq_self.mpr
  intro a ha
  obtain ⟨hstored, hbrand, -⟩ := mem_activeKeys.mp hk
  obtain ⟨hstored', hbrand', -⟩ := mem_activeKeys.mp ha
  have hother : a.keyId ≠ keyId := by
    intro hsame
    rw [eq_of_keyId hstored' hstored (hsame.trans hid.symm)] at hbrand'
    exact hne (hbrand.symm.trans hbrand')
  exact decide_eq_true hother

/-- The one key of a brand, revoked. -/
theorem activeKeys_revoke_only {keyId : String} (now : Time) (hone : db.OneKeyEach)
    (hk : k ∈ db.activeKeys brandId) (hid : k.keyId = keyId) :
    (db.revokeApiKey keyId now).activeKeys brandId = [] := by
  obtain ⟨hstored, hbrand, -⟩ := mem_activeKeys.mp hk
  obtain ⟨b, hb, hb'⟩ := db.owned k hstored
  obtain ⟨k', hk'⟩ := hone b hb
  rw [hb', hbrand] at hk'
  rw [hk'] at hk
  obtain rfl := List.mem_singleton.mp hk
  rw [activeKeys_revokeApiKey, hk']
  exact List.filter_cons_of_neg (by simpa using hid)

end KeyDb

/-- What becomes of a stored key: it stays the same key, and revoked once it is. -/
structure ApiKeyRow.Becomes (k k' : ApiKeyRow) : Prop where
  keyId : k'.keyId = k.keyId
  keyHash : k'.keyHash = k.keyHash
  brandId : k'.brandId = k.brandId
  revoked : k.status = .revoked → k'.status = .revoked

/-- Every key is still there. -/
def KeyDb.Keeps (db db' : KeyDb) : Prop :=
  ∀ k ∈ db.apiKeys.rows, ∃ k' ∈ db'.apiKeys.rows, k.Becomes k'

section
variable {db db' db'' : KeyDb} {ws : List Write} {key k : ApiKeyRow}

theorem ApiKeyRow.Becomes.refl (k : ApiKeyRow) : k.Becomes k := ⟨rfl, rfl, rfl, id⟩

theorem ApiKeyRow.Becomes.trans {k k' k'' : ApiKeyRow} (h : k.Becomes k') (h' : k'.Becomes k'') :
    k.Becomes k'' where
  keyId := h'.keyId.trans h.keyId
  keyHash := h'.keyHash.trans h.keyHash
  brandId := h'.brandId.trans h.brandId
  revoked hk := h'.revoked (h.revoked hk)

theorem KeyDb.Keeps.refl (db : KeyDb) : db.Keeps db := fun k hk => ⟨k, hk, .refl k⟩

theorem KeyDb.Keeps.trans (h : db.Keeps db') (h' : db'.Keeps db'') : db.Keeps db'' := by
  intro k hk
  obtain ⟨k', hk', hbecomes⟩ := h k hk
  obtain ⟨k'', hk'', hbecomes'⟩ := h' k' hk'
  exact ⟨k'', hk'', hbecomes.trans hbecomes'⟩

theorem ApiKeyRow.becomes_revoke {now : Time} {b : Bool} :
    k.Becomes (if b then k.revoke now else k) := by
  cases b
  · exact .refl k
  · exact ⟨rfl, rfl, rfl, fun _ => rfl⟩

theorem KeyDb.mem_revokeApiKey {keyId : String} {now : Time} {k' : ApiKeyRow} :
    k' ∈ (db.revokeApiKey keyId now).apiKeys.rows ↔
      ∃ k ∈ db.apiKeys.rows, (if decide (k.keyId = keyId) then k.revoke now else k) = k' :=
  List.mem_map

theorem KeyDb.keeps_revoke (db : KeyDb) (keyId : String) (now : Time) :
    db.Keeps (db.revokeApiKey keyId now) := by
  intro k hk
  exact ⟨_, mem_revokeApiKey.mpr ⟨k, hk, rfl⟩, ApiKeyRow.becomes_revoke⟩

theorem Write.keeps {w : Write} (h : w.apply db = some db') : db.Keeps db' := by
  cases w with
  | insertBrand b =>
      intro k hk
      rw [(KeyDb.brands_insertBrand h).2]
      exact ⟨k, hk, .refl k⟩
  | insertApiKey row =>
      intro k hk
      exact ⟨k, (Table.mem_insert (KeyDb.apiKeys_insertApiKey h).1).mpr (.inl hk), .refl k⟩
  | revokeApiKey keyId now =>
      obtain rfl := Option.some.inj h
      exact db.keeps_revoke keyId now

theorem applyAll_cons {w : Write} (h : Transaction.applyAll (w :: ws) db = some db') :
    ∃ db₁, w.apply db = some db₁ ∧ Transaction.applyAll ws db₁ = some db' :=
  Option.bind_eq_some_iff.mp h

theorem applyAll_keeps (h : Transaction.applyAll ws db = some db') : db.Keeps db' := by
  induction ws generalizing db with
  | nil =>
      obtain rfl := Option.some.inj h
      exact .refl db
  | cons w ws ih =>
      obtain ⟨db₁, hw, hws⟩ := applyAll_cons h
      exact (Write.keeps hw).trans (ih hws)

/-- What a transaction that issues a key makes of a database: the key goes into a
database that keeps what there was. -/
theorem Issues.inserts (hissues : Issues ws key) (h : Transaction.applyAll ws db = some db') :
    ∃ db₁, db.Keeps db₁ ∧ db₁.insertApiKey key = some db' := by
  cases hissues with
  | registration brand hbrand hactive =>
      obtain ⟨db₁, hfirst, hrest⟩ := applyAll_cons h
      obtain ⟨db₂, hsecond, hnil⟩ := applyAll_cons hrest
      obtain rfl := Option.some.inj hnil
      exact ⟨db₁, Write.keeps hfirst, hsecond⟩
  | rotation keyId now hactive =>
      obtain ⟨db₁, hfirst, hrest⟩ := applyAll_cons h
      obtain ⟨db₂, hsecond, hnil⟩ := applyAll_cons hrest
      obtain rfl := Option.some.inj hnil
      exact ⟨db₁, Write.keeps hfirst, hsecond⟩

/-- No key that was there has the hash of the key issued. -/
theorem Issues.keyHash_ne (hissues : Issues ws key) (h : Transaction.applyAll ws db = some db')
    (hk : k ∈ db.apiKeys.rows) : k.keyHash ≠ key.keyHash := by
  obtain ⟨db₁, hkeeps, hinsert⟩ := hissues.inserts h
  obtain ⟨k', hk', hbecomes⟩ := hkeeps k hk
  have hclash := Table.not_clash_of_insert (KeyDb.apiKeys_insertApiKey hinsert).1 hk'
  intro hsame
  exact hclash (.inr (hbecomes.keyHash.trans hsame))

/-- A key that replaces the active one is the only one of its brand; the other brands
keep theirs. -/
theorem Issues.activeKeys (hissues : Issues ws key) (h : Transaction.applyAll ws db = some db')
    (hone : db.OneKeyEach)
    (hrevokes : ∀ keyId now, .revokeApiKey keyId now ∈ ws →
      ∃ k ∈ db.activeKeys key.brandId, k.keyId = keyId) (brandId : String) :
    db'.activeKeys brandId = if key.brandId = brandId then [key] else db.activeKeys brandId := by
  cases hissues with
  | registration brand hbrand hactive =>
      obtain ⟨db₁, hfirst, hrest⟩ := applyAll_cons h
      obtain ⟨db₂, hsecond, hnil⟩ := applyAll_cons hrest
      obtain rfl := Option.some.inj hnil
      rw [KeyDb.activeKeys_insertApiKey hsecond hactive, KeyDb.activeKeys_insertBrand hfirst]
      split
      · next hid =>
        have hnew : ∀ b ∈ db.brands.rows, b.brandId ≠ brandId := by
          intro b hb hsame
          apply Table.not_clash_of_insert (KeyDb.brands_insertBrand hfirst).1 hb
          exact .inl (hsame.trans (hid.symm.trans hbrand))
        rw [KeyDb.activeKeys_unregistered hnew, List.nil_append]
      · exact List.append_nil _
  | rotation keyId now hactive =>
      obtain ⟨db₁, hfirst, hrest⟩ := applyAll_cons h
      obtain ⟨db₂, hsecond, hnil⟩ := applyAll_cons hrest
      obtain rfl := Option.some.inj hnil
      obtain rfl := Option.some.inj hfirst
      obtain ⟨k, hk, hid⟩ := hrevokes keyId now (.head _)
      rw [KeyDb.activeKeys_insertApiKey hsecond hactive]
      split
      · next hbrand =>
        rw [← hbrand, KeyDb.activeKeys_revoke_only now hone hk hid, List.nil_append]
      · next hother =>
        rw [KeyDb.activeKeys_revoke_other now hk hid hother, List.append_nil]

/-- An active key that is not the one revoked stays active. -/
theorem Issues.keeps_active (hissues : Issues ws key) (h : Transaction.applyAll ws db = some db')
    {brandId : String} (hother : ∀ keyId now, .revokeApiKey keyId now ∈ ws → keyId ≠ k.keyId)
    (hk : k ∈ db.activeKeys brandId) : k ∈ db'.activeKeys brandId := by
  cases hissues with
  | registration brand hbrand hactive =>
      obtain ⟨db₁, hfirst, hrest⟩ := applyAll_cons h
      obtain ⟨db₂, hsecond, hnil⟩ := applyAll_cons hrest
      obtain rfl := Option.some.inj hnil
      rw [KeyDb.activeKeys_insertApiKey hsecond hactive, KeyDb.activeKeys_insertBrand hfirst]
      exact List.mem_append_left _ hk
  | rotation keyId now hactive =>
      obtain ⟨db₁, hfirst, hrest⟩ := applyAll_cons h
      obtain ⟨db₂, hsecond, hnil⟩ := applyAll_cons hrest
      obtain rfl := Option.some.inj hnil
      obtain rfl := Option.some.inj hfirst
      have hne := hother keyId now (.head _)
      rw [KeyDb.activeKeys_insertApiKey hsecond hactive, KeyDb.activeKeys_revokeApiKey]
      exact List.mem_append_left _ (List.mem_filter.mpr ⟨hk, decide_eq_true hne.symm⟩)

/-- The brands are those there were, and the brand of the key. -/
theorem Issues.brands (hissues : Issues ws key) (h : Transaction.applyAll ws db = some db')
    {b : BrandRow} (hb : b ∈ db'.brands.rows) : b ∈ db.brands.rows ∨ b.brandId = key.brandId := by
  cases hissues with
  | registration brand hbrand hactive =>
      obtain ⟨db₁, hfirst, hrest⟩ := applyAll_cons h
      obtain ⟨db₂, hsecond, hnil⟩ := applyAll_cons hrest
      obtain rfl := Option.some.inj hnil
      rw [(KeyDb.apiKeys_insertApiKey hsecond).2] at hb
      obtain hb | rfl := (Table.mem_insert (KeyDb.brands_insertBrand hfirst).1).mp hb
      · exact .inl hb
      · exact .inr hbrand.symm
  | rotation keyId now hactive =>
      obtain ⟨db₁, hfirst, hrest⟩ := applyAll_cons h
      obtain ⟨db₂, hsecond, hnil⟩ := applyAll_cons hrest
      obtain rfl := Option.some.inj hnil
      obtain rfl := Option.some.inj hfirst
      rw [(KeyDb.apiKeys_insertApiKey hsecond).2] at hb
      exact .inl hb

theorem exec_snd (env : Env) (op : Op) (db : KeyDb) :
    (exec env op db).2 = db ∨ Transaction.applyAll op.written db = some (exec env op db).2 := by
  cases op with
  | commit tx =>
      show (execCommit env tx db).2 = db ∨ tx.apply db = some (execCommit env tx db).2
      dsimp only [execCommit]
      split
      · exact .inl rfl
      · next db' happly =>
        split
        · split
          · exact .inr happly
          · exact .inl rfl
        · exact .inr happly
  | fetchBrandByEmail _ | randomBytes | newUlid | begin | execute _ _ | fetchActiveApiKey _ _
  | fetchBrandByApiKeyHash _ => exact .inl rfl

/-- A commit that succeeds has made its writes. -/
theorem execCommit_ok {env : Env} {tx : Transaction} (h : (execCommit env tx db).1 = .ok ()) :
    tx.apply db = some (execCommit env tx db).2 := by
  dsimp only [execCommit] at h ⊢
  split at h
  · cases h
  · next db' happly =>
    split at h
    · cases h
    · exact happly

theorem fetched_active {env : Env} {now : Time} {brandId : String}
    (h : (exec env (.fetchActiveApiKey ⟨now, []⟩ brandId) db).1 = .ok k) :
    k ∈ db.activeKeys brandId := by
  have hview : Transaction.apply ⟨now, []⟩ db = some db := rfl
  dsimp only [exec, orFails] at h
  rw [hview, Option.bind_some] at h
  cases hfound : db.activeApiKey env.rank brandId with
  | none =>
      rw [hfound] at h
      split at h <;> cases h
  | some k =>
      rw [hfound] at h
      split at h
      · cases h
      · cases h
        exact (List.mem_insertionSort _).mp (List.mem_of_mem_head? hfound)

/-- A key that is revoked gives no access. -/
theorem KeyDb.brandByApiKeyHash_revoked (hk : k ∈ db.apiKeys.rows)
    (hrevoked : k.status = .revoked) :
    db.brandByApiKeyHash k.keyHash = none := by
  have hnone : db.apiKeys.find (fun a => a.keyHash = k.keyHash && a.status = .active) = none := by
    apply Table.find_eq_none.mpr
    intro a ha
    by_cases hsame : a.keyHash = k.keyHash
    · rw [eq_of_keyHash ha hk hsame, hrevoked]
      simp
    · simp [hsame]
  rw [brandByApiKeyHash, hnone, Option.bind_none]

end

section Runs
variable {ι : Type} [DecidableEq ι] {p : Primitives} {requests : ι → BrandRequest} {start : KeyDb}
  {h h₁ h₂ : List (Move interface KeyDb ι)} {c : Pool interface KeyDb ι Reply}
  {v : Move interface KeyDb ι} {key k : ApiKeyRow}

theorem written_issues (run : Interleaves machine (BrandRequest.pool p requests start) h c)
    (hv : v ∈ h) : v.event.op.written = [] ∨ ∃ key, Issues v.event.op.written key := by
  obtain ⟨h₁, h₂, hh⟩ := List.append_of_mem hv
  obtain hnone | ⟨key, hissues, -⟩ := pool_calls run hh
  · exact .inl hnone
  · exact .inr ⟨key, hissues⟩

theorem Establishes.issues (run : Interleaves machine (BrandRequest.pool p requests start) h c)
    (hv : v ∈ h) (hkey : Establishes v key) : Issues v.event.op.written key := by
  obtain hnone | ⟨key', hissues⟩ := written_issues run hv
  · have hmem := hkey.1
    rw [hnone] at hmem
    cases hmem
  · rw [hissues.eq hkey.1]
    exact hissues

/-- A move leaves the database alone, or commits a key. -/
theorem move_establishes (run : Interleaves machine (BrandRequest.pool p requests start) h c)
    (hv : v ∈ h) : v.after = v.before ∨ ∃ key, Establishes v key := by
  obtain ⟨env, hexec⟩ := run.move hv
  have hafter : (exec env v.event.op v.before).2 = v.after := congrArg Prod.snd hexec
  obtain hsame | happly := exec_snd env v.event.op v.before
  · exact .inl (hafter.symm.trans hsame)
  · rw [hafter] at happly
    obtain hnone | ⟨key, hissues⟩ := written_issues run hv
    · rw [hnone] at happly
      exact .inl (Option.some.inj happly).symm
    · exact .inr ⟨key, hissues.mem, happly⟩

theorem move_keeps (run : Interleaves machine (BrandRequest.pool p requests start) h c)
    (hv : v ∈ h) : v.before.Keeps v.after := by
  obtain hsame | ⟨key, hkey⟩ := move_establishes run hv
  · rw [hsame]
    exact .refl _
  · exact applyAll_keeps hkey.2

/-- A rotation revokes the key it has fetched, which was active then. -/
theorem revokes_fetched (run : Interleaves machine (BrandRequest.pool p requests start) h c)
    (hh : h = h₁ ++ v :: h₂) (hkey : Establishes v key) {keyId : String} {now : Time}
    (hw : .revokeApiKey keyId now ∈ v.event.op.written) :
    ∃ u ∈ h₁, u.thread = v.thread ∧ u.event.op = .fetchActiveApiKey ⟨now, []⟩ key.brandId ∧
      u.after = u.before ∧ ∃ old ∈ u.before.activeKeys key.brandId, old.keyId = keyId := by
  obtain hnone | ⟨key', hissues, hreplaces⟩ := pool_calls run hh
  · rw [hnone] at hw
    cases hw
  obtain rfl := hissues.eq hkey.1
  obtain ⟨old, hid, hlog⟩ := hreplaces keyId now hw
  obtain ⟨u, hu, hthread, hevent⟩ := mem_eventsOf.mp hlog
  have hu' : u ∈ h := hh ▸ List.mem_append_left _ hu
  obtain ⟨env, hexec⟩ := run.move hu'
  rw [hevent] at hexec
  refine ⟨u, hu, hthread, by rw [hevent], ?_, old, fetched_active (congrArg Prod.fst hexec), hid⟩
  exact (congrArg Prod.snd hexec).symm

/-- The key a rotation revokes is one of its brand. -/
theorem revokes_stored (run : Interleaves machine (BrandRequest.pool p requests start) h c)
    (hh : h = h₁ ++ v :: h₂) (hkey : Establishes v key) {keyId : String} {now : Time}
    (hw : .revokeApiKey keyId now ∈ v.event.op.written) :
    ∃ k ∈ v.before.apiKeys.rows, k.keyId = keyId ∧ k.brandId = key.brandId := by
  obtain ⟨u, hu, -, -, hafter, old, hold, hid⟩ := revokes_fetched run hh hkey hw
  obtain ⟨hstored, hbrand, -⟩ := KeyDb.mem_activeKeys.mp hold
  obtain ⟨l₁, l₂, rfl⟩ := List.append_of_mem hu
  rw [List.append_assoc, List.cons_append] at hh
  have hkept : u.after.Keeps v.before := by
    apply run.relates_between KeyDb.Keeps.refl KeyDb.Keeps.trans hh
    intro w hw
    exact move_keeps run (by simp [hh, hw])
  rw [← hafter] at hstored
  obtain ⟨k, hk, hbecomes⟩ := hkept old hstored
  exact ⟨k, hk, hbecomes.keyId.trans hid, hbecomes.brandId.trans hbrand⟩

/-- A commit for one brand leaves the active keys of another. -/
theorem move_active_other (run : Interleaves machine (BrandRequest.pool p requests start) h c)
    (hv : v ∈ h) {brandId : String}
    (hother : ∀ key, Establishes v key → key.brandId ≠ brandId)
    (hk : k ∈ v.before.activeKeys brandId) : k ∈ v.after.activeKeys brandId := by
  obtain hsame | ⟨key, hkey⟩ := move_establishes run hv
  · rwa [hsame]
  · refine (hkey.issues run hv).keeps_active hkey.2 ?_ hk
    intro keyId now hw hid
    obtain ⟨h₁, h₂, hh⟩ := List.append_of_mem hv
    obtain ⟨old, hold, hold', hbrand⟩ := revokes_stored run hh hkey hw
    obtain ⟨hstored, hbrand', -⟩ := KeyDb.mem_activeKeys.mp hk
    rw [KeyDb.eq_of_keyId hold hstored (hold'.trans hid)] at hbrand
    exact hother key hkey (hbrand.symm.trans hbrand')

/-- Where no key of the brand is established between what a rotation fetches and what it
commits, it revokes an active key. -/
theorem revokesActive_of_isolated
    (run : Interleaves machine (BrandRequest.pool p requests start) h c)
    (hisolated : ∀ h₁ u h₂ v h₃, h = h₁ ++ u :: (h₂ ++ v :: h₃) → u.thread = v.thread →
      ∀ tx key, Establishes v key → u.event.op = .fetchActiveApiKey tx key.brandId →
        ∀ w ∈ h₂, ∀ key', Establishes w key' → key'.brandId ≠ key.brandId) :
    RevokesActive h := by
  intro v hv key hkey keyId now hw
  obtain ⟨h₁, h₂, hh⟩ := List.append_of_mem hv
  obtain ⟨u, hu, hthread, hop, hafter, old, hold, hid⟩ := revokes_fetched run hh hkey hw
  obtain ⟨l₁, l₂, rfl⟩ := List.append_of_mem hu
  rw [List.append_assoc, List.cons_append] at hh
  refine ⟨old, ?_, hid⟩
  apply run.keeps_between (I := fun db => old ∈ db.activeKeys key.brandId) hh
  · rwa [hafter]
  · intro w hw' hbefore
    refine move_active_other run ?_ ?_ hbefore
    · simp [hh, hw']
    · exact hisolated l₁ u l₂ v h₂ hh hthread _ key hkey hop w hw'

theorem move_one (run : Interleaves machine (BrandRequest.pool p requests start) h c)
    (hfresh : RevokesActive h) (hv : v ∈ h) (hone : v.before.OneKeyEach) : v.after.OneKeyEach := by
  obtain hsame | ⟨key, hkey⟩ := move_establishes run hv
  · rwa [hsame]
  · have hissues := hkey.issues run hv
    intro b hb
    rw [hissues.activeKeys hkey.2 hone (hfresh v hv key hkey) b.brandId]
    split
    · exact ⟨key, rfl⟩
    · next hother =>
      obtain hb | hb := hissues.brands hkey.2 hb
      · exact hone b hb
      · exact absurd hb.symm hother

theorem run_one (run : Interleaves machine (BrandRequest.pool p requests start) h c)
    (hstart : start.OneKeyEach) (hfresh : RevokesActive h) : c.state.OneKeyEach :=
  run.stays (fun _ hu => move_one run hfresh hu) hstart

/-- The database a move starts from has one key for each brand. -/
theorem before_one (run : Interleaves machine (BrandRequest.pool p requests start) h c)
    (hstart : start.OneKeyEach) (hfresh : RevokesActive h) (hh : h = h₁ ++ v :: h₂) :
    v.before.OneKeyEach := by
  obtain ⟨c₁, -, run₁, hstate, -⟩ := run.split hh
  rw [← hstate]
  apply run_one run₁ hstart
  intro u hu
  exact hfresh u (by rw [hh]; exact List.mem_append_left _ hu)

theorem established_active (run : Interleaves machine (BrandRequest.pool p requests start) h c)
    (hstart : start.OneKeyEach) (hfresh : RevokesActive h) (hh : h = h₁ ++ v :: h₂)
    (hkey : Establishes v key) : v.after.activeKeys key.brandId = [key] := by
  have hv : v ∈ h := by simp [hh]
  have hone := before_one run hstart hfresh hh
  rw [(hkey.issues run hv).activeKeys hkey.2 hone (hfresh v hv key hkey), if_pos rfl]

/-- The key established last is the one its brand has. -/
theorem latest_active (run : Interleaves machine (BrandRequest.pool p requests start) h c)
    (hstart : start.OneKeyEach) (hfresh : RevokesActive h) (hh : h = h₁ ++ v :: h₂)
    (hkey : Establishes v key)
    (hlast : ∀ u ∈ h₂, ∀ key', Establishes u key' → key'.brandId ≠ key.brandId) :
    c.state.activeKeys key.brandId = [key] := by
  obtain ⟨c₁, -, run₁⟩ := run.cut hh
  obtain ⟨-, -, c₂, hstate, run₂⟩ := run₁.head
  apply run₂.stays (P := fun s => s.activeKeys key.brandId = [key])
  · intro u hu hbefore
    have hu' : u ∈ h := by simp [hh, hu]
    obtain hsame | ⟨key', hkey'⟩ := move_establishes run hu'
    · rwa [hsame]
    · obtain ⟨m₁, m₂, hm⟩ := List.append_of_mem hu'
      have hone := before_one run hstart hfresh hm
      rw [(hkey'.issues run hu').activeKeys hkey'.2 hone (hfresh u hu' key' hkey'),
        if_neg (hlast u hu key' hkey')]
      exact hbefore
  · rw [hstate]
    exact established_active run hstart hfresh hh hkey

/-- A key issued before is still stored where a later move starts. -/
theorem issued_stored (run : Interleaves machine (BrandRequest.pool p requests start) h c)
    (hh : h = h₁ ++ v :: h₂) (hk : k ∈ start.apiKeys.rows ∨ ∃ u ∈ h₁, Establishes u k) :
    ∃ k' ∈ v.before.apiKeys.rows, k.Becomes k' := by
  obtain ⟨c₁, -, run₁, hstate, -⟩ := run.split hh
  rw [← hstate]
  have step : ∀ u ∈ h₁, (∃ k' ∈ u.before.apiKeys.rows, k.Becomes k') →
      ∃ k' ∈ u.after.apiKeys.rows, k.Becomes k' := by
    intro u hu hbefore
    obtain ⟨k', hk', hbecomes⟩ := hbefore
    obtain ⟨k'', hk'', hbecomes'⟩ := move_keeps run₁ hu k' hk'
    exact ⟨k'', hk'', hbecomes.trans hbecomes'⟩
  obtain hk | ⟨u, hu, hestablished⟩ := hk
  · exact run₁.stays (P := fun s => ∃ k' ∈ s.apiKeys.rows, k.Becomes k') step ⟨k, hk, .refl k⟩
  · obtain ⟨db, -, hinsert⟩ := (hestablished.issues run₁ hu).inserts hestablished.2
    have hstored := (Table.mem_insert (KeyDb.apiKeys_insertApiKey hinsert).1).mpr (.inr rfl)
    exact run₁.lasts (P := fun s => ∃ k' ∈ s.apiKeys.rows, k.Becomes k') step hu
      ⟨k, hstored, .refl k⟩

/-- A key stored before another of its brand is established is revoked then. -/
theorem superseded_revoked (run : Interleaves machine (BrandRequest.pool p requests start) h c)
    (hstart : start.OneKeyEach) (hfresh : RevokesActive h) (hh : h = h₁ ++ v :: h₂)
    (hkey : Establishes v key) (hk : k ∈ v.before.apiKeys.rows) (hbrand : k.brandId = key.brandId) :
    ∃ k' ∈ v.after.apiKeys.rows, k'.keyHash = k.keyHash ∧ k'.status = .revoked := by
  have hv : v ∈ h := by simp [hh]
  obtain ⟨k', hk', hbecomes⟩ := move_keeps run hv k hk
  refine ⟨k', hk', hbecomes.keyHash, ?_⟩
  cases hstatus : k'.status with
  | revoked => rfl
  | active =>
      have hactive : k' ∈ v.after.activeKeys key.brandId :=
        KeyDb.mem_activeKeys.mpr ⟨hk', hbecomes.brandId.trans hbrand, hstatus⟩
      rw [established_active run hstart hfresh hh hkey] at hactive
      have hnew := (hkey.issues run hv).keyHash_ne hkey.2 hk
      rw [← hbecomes.keyHash, List.mem_singleton.mp hactive] at hnew
      exact absurd rfl hnew

theorem authenticates_found (run : Interleaves machine (BrandRequest.pool p requests start) h c)
    (hv : v ∈ h) {keyHash : String} (hfound : Authenticates v keyHash) :
    v.before.brandByApiKeyHash keyHash ≠ none := by
  obtain ⟨brand, hevent⟩ := hfound
  obtain ⟨env, hexec⟩ := run.move hv
  rw [hevent] at hexec
  have hanswer : orFails env (.ok (v.before.brandByApiKeyHash keyHash)) = .ok (some brand) :=
    congrArg Prod.fst hexec
  intro hnone
  rw [hnone] at hanswer
  dsimp only [orFails] at hanswer
  split at hanswer <;> cases hanswer

theorem superseded_refused (run : Interleaves machine (BrandRequest.pool p requests start) h c)
    (hstart : start.OneKeyEach) (hfresh : RevokesActive h) (hh : h = h₁ ++ v :: h₂)
    (hkey : Establishes v key) (hk : k ∈ start.apiKeys.rows ∨ ∃ u ∈ h₁, Establishes u k)
    (hbrand : k.brandId = key.brandId) {u : Move interface KeyDb ι} (hu : u ∈ h₂) :
    ¬Authenticates u k.keyHash := by
  intro hfound
  obtain ⟨k₁, hk₁, hbecomes⟩ := issued_stored run hh hk
  have hgone := superseded_revoked run hstart hfresh hh hkey hk₁ (hbecomes.brandId.trans hbrand)
  rw [hbecomes.keyHash] at hgone
  obtain ⟨m₁, m₂, rfl⟩ := List.append_of_mem hu
  have step : ∀ w ∈ m₁,
      (∃ k' ∈ w.before.apiKeys.rows, k'.keyHash = k.keyHash ∧ k'.status = .revoked) →
        ∃ k' ∈ w.after.apiKeys.rows, k'.keyHash = k.keyHash ∧ k'.status = .revoked := by
    intro w hw hbefore
    obtain ⟨k', hk', hhash, hrevoked⟩ := hbefore
    obtain ⟨k'', hk'', hbecomes'⟩ := move_keeps run (by simp [hh, hw]) k' hk'
    exact ⟨k'', hk'', hbecomes'.keyHash.trans hhash, hbecomes'.revoked hrevoked⟩
  have hthen := run.keeps_between
    (I := fun s => ∃ k' ∈ s.apiKeys.rows, k'.keyHash = k.keyHash ∧ k'.status = .revoked) hh hgone step
  obtain ⟨k', hk', hhash, hrevoked⟩ := hthen
  apply authenticates_found run (by simp [hh]) hfound
  rw [← hhash]
  exact KeyDb.brandByApiKeyHash_revoked hk' hrevoked

theorem Stores.establishes (run : Interleaves machine (BrandRequest.pool p requests start) h c)
    (hv : v ∈ h) (hstores : Stores v.event key) : Establishes v key := by
  refine ⟨hstores.written, ?_⟩
  obtain ⟨tx, hevent, -⟩ := hstores
  obtain ⟨env, hexec⟩ := run.move hv
  rw [hevent] at hexec ⊢
  have hanswer : (execCommit env tx v.before).1 = .ok () := congrArg Prod.fst hexec
  have hafter : (execCommit env tx v.before).2 = v.after := congrArg Prod.snd hexec
  rw [← hafter]
  exact execCommit_ok hanswer

/-- In every run in which each rotation that commits finds the key it revokes still
active, each brand has one key, the one that was shown last. -/
theorem keys_sound (run : Interleaves machine (BrandRequest.pool p requests start) h c)
    (hstart : start.OneKeyEach) (hfresh : RevokesActive h) : KeysSound h p start c where
  one := run_one run hstart hfresh
  latest _ _ _ _ hh hkey hlast := latest_active run hstart hfresh hh hkey hlast
  shown v hv key hstores := by
    refine ⟨hstores.establishes run hv, fun reply hreply => ?_⟩
    exact (pool_answers run hreply).shown v.event (mem_eventsOf.mpr ⟨v, hv, rfl, rfl⟩) key hstores
  stored i reply apiKey hreply hshown := by
    obtain ⟨e, he, key, hstores, hhash⟩ := (pool_answers run hreply).stored apiKey hshown
    obtain ⟨v, hv, hthread, rfl⟩ := mem_eventsOf.mp he
    exact ⟨v, hv, hthread, key, hstores.establishes run hv, hhash⟩
  superseded _ _ _ _ hh hkey _ hk hbrand _ hu :=
    superseded_refused run hstart hfresh hh hkey hk hbrand hu

end Runs

section Sample

/-- The primitives on the API keys of two rotations; the random bytes tell them apart. -/
def keyPrimitives : Primitives :=
  { (default : Primitives) with
    sha256 := fun apiKey =>
      if apiKey = utf8 "rcpk_live_01010101010101010101010101010101" then
        hexBytes 32 "3621ffb23745f344e0d28e72ebc1d09dd868913a8ca743b95592d7f23cb2149c"
      else hexBytes 32 "9d7eb394fa5a3e6bc2bb29b8b84e314b9faf28649db75a47d3d4cbd8f23f3bcd" }

def registeredKey : ApiKeyRow where
  keyId := "key_0"
  brandId := "brand_luxe"
  keyHash := "e40a6c3c512534db270cea072136b0c290bb4c79ad2cdee22cb973ba3f4c7742"
  keyPrefix := "rcpk_live_000000****"
  createdAt := 0

def registeredBrand : BrandRow where
  brandId := "brand_luxe"
  brandName := "Luxe"
  contactEmail := "keys@luxe.example"
  industry := "Watches"
  createdAt := 0

def registeredDb : KeyDb where
  brands := .single registeredBrand
  apiKeys := .single registeredKey
  owned k hk := by
    obtain rfl := List.mem_singleton.mp hk
    exact ⟨registeredBrand, .head _, rfl⟩

theorem registeredDb_one : registeredDb.OneKeyEach := by
  intro b hb
  obtain rfl := List.mem_singleton.mp hb
  exact ⟨registeredKey, rfl⟩

/-- Two rotations of the brand's key, asked for by the platform. -/
def rotations (_ : Bool) : BrandRequest :=
  .rotate { actorId := "admin", actorRole := .platform } "brand_luxe" {}

def rotationPool : Pool interface KeyDb Bool Reply :=
  BrandRequest.pool keyPrimitives rotations registeredDb

/-- The time, the random bytes and the ULID a rotation gets. -/
def turn (i : Bool) : Bool × Env :=
  (i, if i then { now := 2, random := .ofFn fun _ => 2, ulid := "2" }
    else { now := 1, random := .ofFn fun _ => 1, ulid := "1" })

/-- One rotation after the other. -/
def successiveRun : List (Move interface KeyDb Bool) × Pool interface KeyDb Bool Reply :=
  rotationPool.schedule machine (List.replicate 7 (turn false) ++ List.replicate 7 (turn true))

theorem successiveRun_interleaves : Interleaves machine rotationPool successiveRun.1 successiveRun.2 :=
  schedule_interleaves _ _

/-- The second rotation fetches the active key before the first one commits. -/
def overlappingRun : List (Move interface KeyDb Bool) × Pool interface KeyDb Bool Reply :=
  rotationPool.schedule machine
    (List.replicate 4 (turn false) ++ List.replicate 4 (turn true) ++
      List.replicate 3 (turn false) ++ List.replicate 3 (turn true))

theorem overlappingRun_interleaves :
    Interleaves machine rotationPool overlappingRun.1 overlappingRun.2 :=
  schedule_interleaves _ _

/-- What `RevokesActive` asks of a write, as it can be computed. -/
def Write.revokesActive (brandId : String) (db : KeyDb) : Write → Bool
  | .revokeApiKey keyId _ => (db.activeKeys brandId).any (·.keyId = keyId)
  | _ => true

/-- A key that the write inserts is for the brand. -/
def Write.isFor (brandId : String) : Write → Bool
  | .insertApiKey key => key.brandId = brandId
  | _ => true

theorem revokesActive_of_computed {ι : Type} {h : List (Move interface KeyDb ι)} (brandId : String)
    (hall : ∀ v ∈ h, ∀ w ∈ v.event.op.written,
      w.isFor brandId = true ∧ w.revokesActive brandId v.before = true) : RevokesActive h := by
  intro v hv key hkey keyId now hrevokes
  have hbrand : key.brandId = brandId := of_decide_eq_true (hall v hv _ hkey.1).1
  have hactive := (hall v hv _ hrevokes).2
  obtain ⟨k, hk, hid⟩ := List.any_eq_true.mp hactive
  rw [hbrand]
  exact ⟨k, hk, of_decide_eq_true hid⟩

theorem keys_sound_successive : KeysSound successiveRun.1 keyPrimitives registeredDb successiveRun.2 :=
  keys_sound successiveRun_interleaves registeredDb_one
    (revokesActive_of_computed "brand_luxe" (by decide +kernel))

def Reply.isRotated : Reply → Bool
  | .rotated .. => true
  | _ => false

def Program.isRotated : Program interface Reply → Bool
  | .done reply => reply.isRotated
  | .call .. => false

/-- Both rotations are answered with a key, and both keys are active. -/
theorem two_keys_after_rotations :
    ¬∀ (ι : Type) (_ : DecidableEq ι) (p : Primitives) (requests : ι → BrandRequest) (start : KeyDb)
      (h : List (Move interface KeyDb ι)) (c : Pool interface KeyDb ι Reply),
        Interleaves machine (BrandRequest.pool p requests start) h c → start.OneKeyEach →
          (∀ i, ∃ reply, c.threads i = .done reply) → KeysSound h p start c := by
  intro hall
  have hrotated : ∀ i, Program.isRotated (overlappingRun.2.threads i) = true := by decide +kernel
  have hsound := hall Bool _ keyPrimitives rotations registeredDb overlappingRun.1 overlappingRun.2
    overlappingRun_interleaves registeredDb_one fun i => by
      have hi := hrotated i
      cases hthread : overlappingRun.2.threads i with
      | done reply => exact ⟨reply, rfl⟩
      | call op next =>
          rw [hthread] at hi
          cases hi
  have hbrand : overlappingRun.2.state.brands.rows.any (·.brandId = "brand_luxe") = true := by
    decide +kernel
  have htwo : (overlappingRun.2.state.activeKeys "brand_luxe").length = 2 := by decide +kernel
  obtain ⟨b, hb, hid⟩ := List.any_eq_true.mp hbrand
  obtain ⟨k, hk⟩ := hsound.one b hb
  rw [of_decide_eq_true hid] at hk
  rw [hk] at htwo
  cases htwo

end Sample

end RcProtocol.Brands
