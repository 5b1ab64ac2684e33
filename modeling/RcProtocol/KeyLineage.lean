import RcProtocol.ApiKeyRotation
import RcProtocol.Brands.Registry

/-!
Where the API keys come from, whoever registers, rotates and presents keys at once: each goes back
to the platform, to its brand, or to a key of its brand that was there before.
-/

namespace RcProtocol.Brands
open Library

section Lineages
variable {ι : Type} (cred : ι → Credential) (start : KeyDb)

/-- How a key, by its hash and its brand, has come to be: it was there, it was issued to claims
that speak for the brand, or to a request under another key of the brand, which had a lineage. -/
inductive Lineage : List (Move interface KeyDb ι) → String → String → Prop
  | kept {h : List (Move interface KeyDb ι)} {k : ApiKeyRow} (hk : k ∈ start.apiKeys.rows) :
      Lineage h k.keyHash k.brandId
  | spoken {h : List (Move interface KeyDb ι)} {v : Move interface KeyDb ι} {k : ApiKeyRow}
      {claims : Claims} (hv : v ∈ h) (hissued : Establishes v k)
      (hcred : cred v.thread = .claims (.ok claims)) (hspeaks : Speaks claims k.brandId) :
      Lineage h k.keyHash k.brandId
  | under {h h₁ h₂ : List (Move interface KeyDb ι)} {u v : Move interface KeyDb ι} {k : ApiKeyRow}
      {hash : String} (hh : h = h₁ ++ v :: h₂) (hissued : Establishes v k)
      (hcred : cred v.thread = .key hash) (hu : u ∈ h₁) (hthread : u.thread = v.thread)
      (hfound : Found hash k.brandId u.event) (parent : Lineage h₁ hash k.brandId) :
      Lineage h k.keyHash k.brandId

variable {cred start} {h : List (Move interface KeyDb ι)} {hash brandId : String}

theorem Lineage.append (hl : Lineage cred start h hash brandId) (v : Move interface KeyDb ι) :
    Lineage cred start (h ++ [v]) hash brandId := by
  cases hl with
  | kept hk => exact .kept hk
  | spoken hv hissued hcred hspeaks =>
      exact .spoken (List.mem_append_left _ hv) hissued hcred hspeaks
  | under hh hissued hcred hu hthread hfound parent =>
      rw [hh, List.append_assoc, List.cons_append]
      exact .under rfl hissued hcred hu hthread hfound parent

/-- Where nobody speaks for a brand, no key becomes one of it. -/
theorem Lineage.unspoken (hstart : ∀ k ∈ start.apiKeys.rows, k.brandId ≠ brandId)
    (hsilent : ∀ i claims, cred i = .claims (.ok claims) → ¬Speaks claims brandId)
    {brandId' : String} (hl : Lineage cred start h hash brandId') : brandId' ≠ brandId := by
  induction hl with
  | kept hk => exact hstart _ hk
  | spoken hv hissued hcred hspeaks =>
      intro hsame
      rw [hsame] at hspeaks
      exact hsilent _ _ hcred hspeaks
  | under hh hissued hcred hu hthread hfound parent ih => exact ih

end Lineages

namespace KeyDb

def Has (db : KeyDb) (hash brandId : String) : Prop :=
  ∃ k ∈ db.apiKeys.rows, k.keyHash = hash ∧ k.brandId = brandId

variable {db db' : KeyDb} {hash keyId brandId : String} {ws : List Write}

/-- A key comes in by its insertion only. -/
theorem has_apply {w : Write} (h : w.apply db = some db') (hk : db'.Has hash brandId) :
    db.Has hash brandId ∨
      ∃ row, w = .insertApiKey row ∧ row.keyHash = hash ∧ row.brandId = brandId := by
  obtain ⟨k, hk, hhash, hbrand⟩ := hk
  cases w with
  | insertBrand b =>
      rw [(brands_insertBrand h).2] at hk
      exact .inl ⟨k, hk, hhash, hbrand⟩
  | insertApiKey row =>
      cases (Table.mem_insert (apiKeys_insertApiKey h).1).mp hk with
      | inl hold => exact .inl ⟨k, hold, hhash, hbrand⟩
      | inr hnew =>
          rw [hnew] at hhash hbrand
          exact .inr ⟨row, rfl, hhash, hbrand⟩
  | revokeApiKey keyId now =>
      cases h
      obtain ⟨r, hr, hsame⟩ := mem_revokeApiKey.mp hk
      have hbecomes : r.Becomes k := by
        rw [← hsame]
        exact ApiKeyRow.becomes_revoke
      exact .inl ⟨r, hr, hbecomes.keyHash.symm.trans hhash, hbecomes.brandId.symm.trans hbrand⟩

theorem has_applyAll (h : Transaction.applyAll ws db = some db') (hk : db'.Has hash brandId) :
    db.Has hash brandId ∨
      ∃ row, .insertApiKey row ∈ ws ∧ row.keyHash = hash ∧ row.brandId = brandId := by
  induction ws generalizing db with
  | nil =>
      cases h
      exact .inl hk
  | cons w ws ih =>
      obtain ⟨db₁, hw, hws⟩ := applyAll_cons h
      cases ih hws with
      | inl hold =>
          cases has_apply hw hold with
          | inl hbefore => exact .inl hbefore
          | inr hnew =>
              obtain ⟨row, rfl, hsame⟩ := hnew
              exact .inr ⟨row, List.mem_cons_self .., hsame⟩
      | inr hnew =>
          obtain ⟨row, hrow, hsame⟩ := hnew
          exact .inr ⟨row, List.mem_cons_of_mem _ hrow, hsame⟩

/-- A commit that revokes a key leaves its hash with a revoked key. -/
theorem revoked_applyAll {k : ApiKeyRow} {now : Time} (h : Transaction.applyAll ws db = some db')
    (hw : .revokeApiKey keyId now ∈ ws) (hk : k ∈ db.apiKeys.rows) (hid : k.keyId = keyId) :
    ∃ k' ∈ db'.apiKeys.rows, k'.keyHash = k.keyHash ∧ k'.status = .revoked := by
  induction ws generalizing db k with
  | nil => cases hw
  | cons w ws ih =>
      obtain ⟨db₁, hfirst, hws⟩ := applyAll_cons h
      cases List.mem_cons.mp hw with
      | inl hsame =>
          rw [← hsame] at hfirst
          cases hfirst
          have hmem : k.revoke now ∈ (db.revokeApiKey keyId now).apiKeys.rows :=
            mem_revokeApiKey.mpr ⟨k, hk, by rw [decide_eq_true hid]; rfl⟩
          obtain ⟨k', hk', hbecomes⟩ := applyAll_keeps hws _ hmem
          exact ⟨k', hk', hbecomes.keyHash, hbecomes.revoked rfl⟩
      | inr hlater =>
          obtain ⟨k₁, hk₁, hbecomes⟩ := Write.keeps hfirst k hk
          obtain ⟨k', hk', hhash, hrevoked⟩ := ih hws hlater hk₁ (hbecomes.keyId.trans hid)
          exact ⟨k', hk', hhash.trans hbecomes.keyHash, hrevoked⟩

theorem brandByApiKeyHash_some {brand : BrandRow} (h : db.brandByApiKeyHash hash = some brand) :
    ∃ k ∈ db.activeKeys brand.brandId, k.keyHash = hash := by
  obtain ⟨k, hfind, hbrand⟩ := Option.bind_eq_some_iff.mp h
  have hk : k.keyHash = hash ∧ k.status = .active := by
    simpa using Table.prop_of_find hfind
  have hid : brand.brandId = k.brandId := by
    simpa using Table.prop_of_find hbrand
  exact ⟨k, mem_activeKeys.mpr ⟨Table.mem_of_find hfind, hid.symm, hk.2⟩, hk.1⟩

end KeyDb

section Runs
variable {ι : Type} [DecidableEq ι] {p : Primitives} {auth : AuthState}
  {requests : ι → RegistryRequest} {start : KeyDb} {h h₁ h₂ : List (Move interface KeyDb ι)}
  {c : Pool interface KeyDb ι Reply} {v : Move interface KeyDb ι} {hash brandId : String}

/-- What each thread presents. -/
abbrev credentials (p : Primitives) (auth : AuthState) (requests : ι → RegistryRequest) (i : ι) :
    Credential := credential p auth (requests i).headers

omit [DecidableEq ι] in
theorem registry_meets (i : ι) :
    Meets (WarrantedCall (credentials p auth requests i) (requests i).call) Told []
      ((RegistryRequest.pool p auth requests start).threads i) := meets_registry (requests i)

theorem found_active {env : Env} {op : Op} {db : KeyDb}
    (hfound : Found hash brandId ⟨op, (exec env op db).1⟩) :
    ∃ k ∈ db.activeKeys brandId, k.keyHash = hash := by
  obtain ⟨brand, hevent, rfl⟩ := hfound
  generalize hexec : (exec env op db).1 = answer at hevent
  cases hevent
  have hanswer : orFails env (.ok (db.brandByApiKeyHash hash)) = .ok (some brand) := hexec
  rw [orFails] at hanswer
  split at hanswer
  · cases hanswer
  · exact KeyDb.brandByApiKeyHash_some (Except.ok.inj hanswer)

/-- A key that is issued after these moves has a lineage. -/
theorem Warranted.lineage {call : RegistryCall} {v : Move interface KeyDb ι} {row : ApiKeyRow}
    (hw : Warranted (credentials p auth requests v.thread) call (eventsOf v.thread h)
      v.event.op.written) (hissued : Establishes v row)
    (hfound : ∀ u ∈ h, ∀ hash brandId, Found hash brandId u.event →
      Lineage (credentials p auth requests) start h hash brandId) :
    Lineage (credentials p auth requests) start (h ++ [v]) row.keyHash row.brandId := by
  have hv : v ∈ h ++ [v] := List.mem_append_right _ (List.mem_singleton_self v)
  have hrow := hissued.1
  generalize v.event.op.written = ws at hw hrow
  generalize hcred : credentials p auth requests v.thread = cred at hw
  cases hw with
  | @registration claims brand key hclaims hrole hbrand =>
      obtain rfl : row = key := by simpa using hrow
      exact .spoken hv hissued (hcred.trans hclaims) (.inl hrole)
  | @rotation payload old key now hcall hentitled hfetched =>
      obtain rfl : row = key := by simpa using hrow
      cases hentitled with
      | claims hspeaks => exact .spoken hv hissued hcred hspeaks
      | key he hkey =>
          obtain ⟨u, hu, hthread, hevent⟩ := mem_eventsOf.mp he
          rw [← hevent] at hkey
          exact .under rfl hissued hcred hu hthread hkey (hfound u hu _ _ hkey)

/-- Every key that is stored, and every one that is found, has a lineage. -/
theorem lineage_run (run : Interleaves machine (RegistryRequest.pool p auth requests start) h c) :
    (∀ hash brandId, c.state.Has hash brandId →
      Lineage (credentials p auth requests) start h hash brandId) ∧
    ∀ u ∈ h, ∀ hash brandId, Found hash brandId u.event →
      Lineage (credentials p auth requests) start h hash brandId := by
  induction run with
  | start =>
      refine ⟨fun hash brandId hk => ?_, fun u hu => by cases hu⟩
      obtain ⟨k, hk, rfl, rfl⟩ := hk
      exact .kept hk
  | @step h c run i op next hi env ih =>
      obtain ⟨hstored, hfound⟩ := ih
      constructor
      · intro hash brandId hk
        cases exec_snd env op c.state with
        | inl hsame =>
            have hbefore : c.state.Has hash brandId := by
              rw [← hsame]
              exact hk
            exact (hstored hash brandId hbefore).append _
        | inr happly =>
            cases KeyDb.has_applyAll happly hk with
            | inl hbefore => exact (hstored hash brandId hbefore).append _
            | inr hnew =>
                obtain ⟨row, hrow, rfl, rfl⟩ := hnew
                have hcalls := run.meets registry_meets i
                rw [hi] at hcalls
                cases hcalls.1 with
                | inl hnone =>
                    rw [hnone] at hrow
                    cases hrow
                | inr hw => exact hw.lineage ⟨hrow, happly⟩ hfound
      · intro u hu hash brandId hkey
        cases List.mem_append.mp hu with
        | inl hbefore => exact (hfound u hbefore hash brandId hkey).append _
        | inr hnew =>
            rw [List.mem_singleton.mp hnew] at hkey
            obtain ⟨k, hk, hhash⟩ := found_active hkey
            obtain ⟨hmem, hbrand, -⟩ := KeyDb.mem_activeKeys.mp hk
            exact (hstored hash brandId ⟨k, hmem, hhash, hbrand⟩).append _

/-- A key that is found is active, and one of the brand it is found under. -/
theorem found_move (run : Interleaves machine (RegistryRequest.pool p auth requests start) h c)
    (hv : v ∈ h) (hfound : Found hash brandId v.event) :
    ∃ k ∈ v.before.activeKeys brandId, k.keyHash = hash := by
  obtain ⟨env, hexec⟩ := run.move hv
  have hanswer : (exec env v.event.op v.before).1 = v.event.answer := congrArg Prod.fst hexec
  have hlookup : Found hash brandId ⟨v.event.op, (exec env v.event.op v.before).1⟩ := by
    rw [hanswer]
    exact hfound
  exact found_active hlookup

theorem move_writes (run : Interleaves machine (RegistryRequest.pool p auth requests start) h c)
    (hv : v ∈ h) :
    v.after = v.before ∨ Transaction.applyAll v.event.op.written v.before = some v.after := by
  obtain ⟨env, hexec⟩ := run.move hv
  have hafter : (exec env v.event.op v.before).2 = v.after := congrArg Prod.snd hexec
  rw [← hafter]
  exact exec_snd env v.event.op v.before

theorem move_keeps_keys (run : Interleaves machine (RegistryRequest.pool p auth requests start) h c)
    (hv : v ∈ h) : v.before.Keeps v.after := by
  cases move_writes run hv with
  | inl hsame =>
      rw [hsame]
      exact .refl _
  | inr happly => exact applyAll_keeps happly

/-- What every move keeps holds from a move on. -/
theorem kept_until (run : Interleaves machine (RegistryRequest.pool p auth requests start) h c)
    {I : KeyDb → Prop} (step : ∀ w ∈ h, I w.before → I w.after) (hh : h = h₁ ++ v :: h₂)
    {u : Move interface KeyDb ι} (hu : u ∈ h₁) (hafter : I u.after) : I v.before := by
  obtain ⟨m₁, m₂, rfl⟩ := List.append_of_mem hu
  have hmoves : h = m₁ ++ u :: (m₂ ++ v :: h₂) := by
    rw [hh, List.append_assoc, List.cons_append]
  refine run.keeps_between hmoves hafter fun w hw => step w ?_
  rw [hh]
  exact List.mem_append_left _ (List.mem_append_right _ (List.mem_cons_of_mem _ hw))

/-- A rotation revokes a key of the brand it is asked for. -/
theorem revokes_own (run : Interleaves machine (RegistryRequest.pool p auth requests start) h c)
    (hh : h = h₁ ++ v :: h₂) {keyId : String} {now : Time}
    (hw : .revokeApiKey keyId now ∈ v.event.op.written) {k : ApiKeyRow}
    (hk : k ∈ v.before.apiKeys.rows) (hid : k.keyId = keyId) :
    ∃ payload, (requests v.thread).call = .rotate k.brandId payload := by
  have hcall := run.calls registry_meets hh
  rw [WarrantedCall] at hcall
  generalize v.event.op.written = ws at hw hcall
  cases hcall with
  | inl hnone =>
      rw [hnone] at hw
      cases hw
  | inr hwarranted =>
  cases hwarranted with
  | registration => simp at hw
  | @rotation payload old key now' hcall hentitled hfetched =>
      obtain ⟨u, hu, -, hevent⟩ := mem_eventsOf.mp hfetched
      have hu' : u ∈ h := by
        rw [hh]
        exact List.mem_append_left _ hu
      obtain ⟨env, hexec⟩ := run.move hu'
      rw [hevent] at hexec
      have hactive := fetched_active (congrArg Prod.fst hexec)
      obtain ⟨hstored, hbrand, -⟩ := KeyDb.mem_activeKeys.mp hactive
      obtain ⟨k', hk', hbecomes⟩ := kept_until run
        (I := fun db => ∃ k' ∈ db.apiKeys.rows, old.Becomes k')
        (fun w hw hbefore => by
          obtain ⟨k₁, hk₁, hbecomes⟩ := hbefore
          obtain ⟨k₂, hk₂, hbecomes'⟩ := move_keeps_keys run hw k₁ hk₁
          exact ⟨k₂, hk₂, hbecomes.trans hbecomes'⟩)
        hh hu (move_keeps_keys run hu' old hstored)
      have hold : keyId = old.keyId ∧ now = now' := by simpa using hw
      have hsame := KeyDb.eq_of_keyId hk hk' (hid.trans (hold.1.trans hbecomes.keyId.symm))
      refine ⟨payload, ?_⟩
      rw [hcall, hsame, hbecomes.brandId, hbrand]

/-- A key that a commit has revoked is never found again. -/
theorem revoked_lost (run : Interleaves machine (RegistryRequest.pool p auth requests start) h c)
    (hh : h = h₁ ++ v :: h₂) {keyId : String} {now : Time}
    (hw : .revokeApiKey keyId now ∈ v.event.op.written)
    (happly : Transaction.applyAll v.event.op.written v.before = some v.after) {k : ApiKeyRow}
    (hk : k ∈ v.before.apiKeys.rows) (hid : k.keyId = keyId) {u : Move interface KeyDb ι}
    (hu : u ∈ h₂) : ¬Found k.keyHash brandId u.event := by
  intro hfound
  obtain ⟨m₁, m₂, rfl⟩ := List.append_of_mem hu
  have hmoves : h = (h₁ ++ v :: m₁) ++ u :: m₂ := by
    rw [hh, List.append_assoc, List.cons_append]
  have hu' : u ∈ h := by
    rw [hmoves]
    exact List.mem_append_right _ (List.mem_cons_self ..)
  obtain ⟨k', hk', hhash, hrevoked⟩ := kept_until run
    (I := fun db => ∃ k' ∈ db.apiKeys.rows, k'.keyHash = k.keyHash ∧ k'.status = .revoked)
    (fun w hw hbefore => by
      obtain ⟨k₁, hk₁, hhash, hrevoked⟩ := hbefore
      obtain ⟨k₂, hk₂, hbecomes⟩ := move_keeps_keys run hw k₁ hk₁
      exact ⟨k₂, hk₂, hbecomes.keyHash.trans hhash, hbecomes.revoked hrevoked⟩)
    hmoves (List.mem_append_right _ (List.mem_cons_self ..))
    (KeyDb.revoked_applyAll happly hw hk hid)
  obtain ⟨a, ha, hhash'⟩ := found_move run hu' hfound
  obtain ⟨hstored, -, hactive⟩ := KeyDb.mem_activeKeys.mp ha
  rw [KeyDb.eq_of_keyHash hstored hk' (hhash'.trans hhash.symm), hrevoked] at hactive
  cases hactive

/-- What a reply calls revoked has been revoked by its own commit. -/
theorem told_revoked (run : Interleaves machine (RegistryRequest.pool p auth requests start) h c)
    {i : ι} {reply : Reply} {keyId : String} (hi : c.threads i = .done reply)
    (hreply : reply.revokedKeyId = some keyId) :
    ∃ v ∈ h, v.thread = i ∧ (∃ now, .revokeApiKey keyId now ∈ v.event.op.written) ∧
      Transaction.applyAll v.event.op.written v.before = some v.after := by
  obtain ⟨tx, now, hevent, hw⟩ := run.answers registry_meets hi keyId hreply
  obtain ⟨v, hv, hthread, hv'⟩ := mem_eventsOf.mp hevent
  refine ⟨v, hv, hthread, ⟨now, ?_⟩, ?_⟩
  · rw [hv']
    exact hw
  · obtain ⟨env, hexec⟩ := run.move hv
    rw [hv'] at hexec ⊢
    have hafter : (execCommit env tx v.before).2 = v.after := congrArg Prod.snd hexec
    rw [← hafter]
    exact execCommit_ok (congrArg Prod.fst hexec)

end Runs

/-- Where keys come from and where they end, over a run. -/
structure KeysDescend {ι : Type} (p : Primitives) (auth : AuthState)
    (requests : ι → RegistryRequest) (start : KeyDb) (h : List (Move interface KeyDb ι))
    (c : Pool interface KeyDb ι Reply) : Prop where
  stored : ∀ k ∈ c.state.apiKeys.rows,
    Lineage (credentials p auth requests) start h k.keyHash k.brandId
  admitted : ∀ h₁ v h₂ hash brandId, h = h₁ ++ v :: h₂ → Found hash brandId v.event →
    Lineage (credentials p auth requests) start h₁ hash brandId ∧
      ∃ k ∈ v.before.activeKeys brandId, k.keyHash = hash
  unspoken : ∀ brandId, (∀ k ∈ start.apiKeys.rows, k.brandId ≠ brandId) →
    (∀ i claims, credentials p auth requests i = .claims (.ok claims) → ¬Speaks claims brandId) →
      (∀ k ∈ c.state.apiKeys.rows, k.brandId ≠ brandId) ∧
        ∀ v ∈ h, ∀ hash, ¬Found hash brandId v.event
  revoked : ∀ h₁ v h₂ keyId now, h = h₁ ++ v :: h₂ →
    .revokeApiKey keyId now ∈ v.event.op.written →
    Transaction.applyAll v.event.op.written v.before = some v.after →
      ∀ k ∈ v.before.apiKeys.rows, k.keyId = keyId →
        (∃ payload, (requests v.thread).call = .rotate k.brandId payload) ∧
          ∀ u ∈ h₂, ∀ brandId, ¬Found k.keyHash brandId u.event
  told : ∀ i reply keyId, c.threads i = .done reply → reply.revokedKeyId = some keyId →
    ∃ v ∈ h, v.thread = i ∧ (∃ now, .revokeApiKey keyId now ∈ v.event.op.written) ∧
      Transaction.applyAll v.event.op.written v.before = some v.after

/-- Every key goes back, through keys of its brand that were found active, to a key there was or to
claims that speak for the brand. One that a rotation has revoked is of the brand it was asked for,
and gives access no more. -/
theorem keys_descend {ι : Type} [DecidableEq ι] {p : Primitives} {auth : AuthState}
    {requests : ι → RegistryRequest} {start : KeyDb} {h : List (Move interface KeyDb ι)}
    {c : Pool interface KeyDb ι Reply}
    (run : Interleaves machine (RegistryRequest.pool p auth requests start) h c) :
    KeysDescend p auth requests start h c where
  stored k hk := (lineage_run run).1 _ _ ⟨k, hk, rfl, rfl⟩
  admitted h₁ v h₂ hash brandId hh hfound := by
    have hv : v ∈ h := by
      rw [hh]
      exact List.mem_append_right _ (List.mem_cons_self ..)
    obtain ⟨k, hk, hhash⟩ := found_move run hv hfound
    obtain ⟨c₁, -, run₁, hstate, -⟩ := run.split hh
    obtain ⟨hstored, hbrand, -⟩ := KeyDb.mem_activeKeys.mp hk
    rw [← hstate] at hstored
    exact ⟨(lineage_run run₁).1 _ _ ⟨k, hstored, hhash, hbrand⟩, k, hk, hhash⟩
  unspoken brandId hstart hsilent := by
    refine ⟨fun k hk => ?_, fun v hv hash hfound => ?_⟩
    · exact ((lineage_run run).1 _ _ ⟨k, hk, rfl, rfl⟩).unspoken hstart hsilent
    · exact ((lineage_run run).2 v hv hash brandId hfound).unspoken hstart hsilent rfl
  revoked _ _ _ _ _ hh hw happly _ hk hid :=
    ⟨revokes_own run hh hw hk hid, fun _ hu _ => revoked_lost run hh hw happly hk hid hu⟩
  told _ _ _ hi hreply := told_revoked run hi hreply

section Sample

/-- One token, that of the platform. -/
def platformAuth : AuthState where
  authDisabled := false
  decode _ := .ok ⟨"admin", "Platform", none, none⟩
  fetchBrandByApiKeyHash _ := .ok none

/-- The platform and the holder of the brand's key rotate it. -/
def lineageRequests : Bool → RegistryRequest
  | false => ⟨.ofList [("Authorization", "Bearer token")], .rotate "brand_luxe" {}⟩
  | true => ⟨.ofList [("X-Api-Key-Hash", registeredKey.keyHash)], .rotate "brand_luxe" {}⟩

/-- The key is looked up before the platform's rotation and used after it. -/
def lineageRun : List (Move interface KeyDb Bool) × Pool interface KeyDb Bool Reply :=
  (RegistryRequest.pool keyPrimitives platformAuth lineageRequests registeredDb).schedule machine
    (turn true :: (List.replicate 7 (turn false) ++ List.replicate 7 (turn true)))

theorem keys_descend_sample :
    KeysDescend keyPrimitives platformAuth lineageRequests registeredDb lineageRun.1 lineageRun.2 ∧
      (lineageRun.2.state.activeKeys "brand_luxe").map (·.keyId) = ["key_2"] :=
  ⟨keys_descend (schedule_interleaves ..), by decide +kernel⟩

end Sample

end RcProtocol.Brands
