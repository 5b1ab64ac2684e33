import RcProtocol.Api.AssetDetail
import RcProtocol.ChildTag

/-!
What the detail of an asset tells of the credential of its virtual mother card. The
hash it shows is the very token a transfer is authorized by.
-/

namespace RcProtocol
open Library

namespace Db
variable {db : Db} {assetId : String} {device : AuthorityDeviceRow}

theorem selectAuthorityDeviceByAsset_eq_some
    (h : db.selectAuthorityDeviceByAsset assetId = some device) :
    ∃ e ∈ db.entanglements.rows, e.assetId = assetId ∧ e.entanglementState = "Active" ∧
      device ∈ db.authorityDevices.rows ∧ device.authorityId = e.authorityId := by
  unfold selectAuthorityDeviceByAsset at h
  split at h
  · cases h
  · next e he =>
    have hactive := Table.prop_of_find he
    have hid := Table.prop_of_find h
    simp only [decide_eq_true_eq] at hactive hid
    exact ⟨e, Table.mem_of_find he, hactive.1, hactive.2, Table.mem_of_find h, hid⟩

/-- The virtual card a transfer is checked against is the one that is shown. -/
theorem virtualMotherCard_of_authority
    (hdevice : db.selectAuthorityDeviceByAsset assetId = some device)
    (htype : device.authorityType = "VIRTUAL_APP") : db.virtualMotherCard assetId = some device := by
  obtain ⟨e, he, hasset, hactive, hmem, hid⟩ := selectAuthorityDeviceByAsset_eq_some hdevice
  have hfound : (db.authorityDevices.find fun d =>
      d.authorityId = e.authorityId && d.authorityType = "VIRTUAL_APP") = some device := by
    apply Table.find_eq_some hmem
    · simp [hid, htype]
    · intro d _ hd
      simp only [Bool.and_eq_true, decide_eq_true_eq] at hd
      exact .inl (hd.1.trans hid.symm)
  cases hcard : db.virtualMotherCard assetId with
  | none =>
      have hnone := List.findSome?_eq_none_iff.mp hcard e (List.mem_reverse.mpr he)
      rw [if_pos ⟨hasset, hactive⟩, hfound] at hnone
      cases hnone
  | some card =>
      obtain ⟨e', he', hcard⟩ := List.exists_of_findSome?_eq_some hcard
      split at hcard
      · next hsame =>
        have heq : e' = e := by
          apply Table.eq_of_clash (List.mem_reverse.mp he') he
          exact .inr ⟨Prod.ext (hsame.1.trans hasset.symm) (hsame.2.trans hactive.symm), hsame.2⟩
        rw [heq, hfound] at hcard
        exact hcard.symm
      · cases hcard

/-- The token that authorizes a transfer is the hash on the card that is shown. -/
theorem token_is_shown {app : AppState} {userId credentialToken : String}
    (hdevice : db.selectAuthorityDeviceByAsset assetId = some device)
    (h : device.GrantsVirtual app userId credentialToken) :
    (db.virtualMotherCard assetId).map AuthorityDeviceRow.detail =
      some ⟨device.authorityUid, "VIRTUAL_APP", some credentialToken, device.keyEpoch⟩ := by
  rw [virtualMotherCard_of_authority hdevice h.authorityType, Option.map_some,
    AuthorityDeviceRow.detail, h.authorityType, h.stored]

end Db

/-- The stored credential of the asset's virtual card, replaced. -/
def Db.setCredential (db : Db) (assetId : String) (hash : Option String) : Db :=
  match db.virtualMotherCard assetId with
  | none => db
  | some card =>
      { db with
        authorityDevices := db.authorityDevices.update (·.authorityId = card.authorityId)
          (fun d => { d with virtualCredentialHash := hash }) fun _ => rfl
        entangled := fun e he =>
          let ⟨d, hd, hid⟩ := db.entangled e he
          ⟨_, Table.mem_update.mpr ⟨d, hd, rfl⟩, by split <;> exact hid⟩ }

def Snapshot.setCredential (s : Snapshot) (assetId : String) (hash : Option String) : Snapshot :=
  { s with db := s.db.setCredential assetId hash }

section
variable (fails : Query → Option String) (s : Snapshot) (actor : ActorContext) (assetId : String)

/-- The card of the asset is not bound to the actor. -/
def Unbound : Prop :=
  ∀ card, s.db.virtualMotherCard assetId = some card → card.boundUserId ≠ some actor.actorId

/-- Whatever credential is stored, the reply is the same. -/
def CredentialHidden : Prop :=
  Unbound s actor assetId → ∀ hash,
    getAsset fails (s.setCredential assetId hash) actor assetId = getAsset fails s actor assetId

/-- The reads of a request, by whether the asset has a commitment. -/
def queries (commitmentId : Option String) : List Query :=
  match commitmentId with
  | none => [.asset, .virtualMotherCard]
  | some _ => [.asset, .commitmentPayload, .brandCount, .platformCount, .virtualMotherCard]

/-- The asset has a virtual card of someone else's, and the actor is shown its detail. -/
structure Shown : Prop where
  unbound : Unbound s actor assetId
  card : (s.db.virtualMotherCard assetId).isSome = true
  asset : ∃ row, s.db.asset assetId = some row ∧ row.uid.isSome = true ∧
    checkBrandBoundary actor row.brandId = .ok () ∧
      ∀ q ∈ queries row.assetCommitmentId, fails q = none

end

section Stored
variable {db : Db} {assetId : String} {hash : Option String}

theorem setCredential_of_none (h : db.virtualMotherCard assetId = none) :
    db.setCredential assetId hash = db := by
  simp only [Db.setCredential, h]

theorem setCredential_of_some {card : AuthorityDeviceRow} (hash : Option String)
    (h : db.virtualMotherCard assetId = some card) :
    (db.setCredential assetId hash).entanglements = db.entanglements ∧
      (db.setCredential assetId hash).authorityDevices =
        db.authorityDevices.update (·.authorityId = card.authorityId)
          (fun d => { d with virtualCredentialHash := hash }) fun _ => rfl := by
  unfold Db.setCredential
  split
  · next hnone =>
    rw [hnone] at h
    cases h
  · next card' hcard =>
    obtain rfl := Option.some.inj (hcard.symm.trans h)
    exact ⟨rfl, rfl⟩

/-- The card found is the one that was found before, with the other hash. -/
theorem virtualMotherCard_setCredential :
    (db.setCredential assetId hash).virtualMotherCard assetId =
      (db.virtualMotherCard assetId).map fun d => { d with virtualCredentialHash := hash } := by
  cases hcard : db.virtualMotherCard assetId with
  | none => rw [setCredential_of_none hcard, hcard, Option.map_none]
  | some card =>
      obtain ⟨hlinks, hdevices⟩ := setCredential_of_some hash hcard
      let change (d : AuthorityDeviceRow) : AuthorityDeviceRow :=
        if d.authorityId = card.authorityId then { d with virtualCredentialHash := hash } else d
      have hmap : (db.setCredential assetId hash).virtualMotherCard assetId =
          (db.virtualMotherCard assetId).map change := by
        simp only [Db.virtualMotherCard, hlinks, hdevices, List.map_findSome?]
        congr 1
        funext e
        simp only [Function.comp_apply]
        split
        · rw [Table.find_update]
          · simp only [decide_eq_true_eq]
            rfl
          · exact fun _ => rfl
        · rfl
      rw [hmap, hcard, Option.map_some, Option.map_some]
      simp only [change, if_true]

theorem setCredential_reads (db : Db) (assetId : String) (hash : Option String) :
    (db.setCredential assetId hash).assets = db.assets ∧
      (db.setCredential assetId hash).commitments = db.commitments ∧
        (db.setCredential assetId hash).brandAttestations = db.brandAttestations ∧
          (db.setCredential assetId hash).platformAttestations = db.platformAttestations := by
  unfold Db.setCredential
  split <;> exact ⟨rfl, rfl, rfl, rfl⟩

end Stored

section Replies
variable {fails : Query → Option String} {s : Snapshot} {actor : ActorContext} {assetId : String}
  {hash : Option String}

def VirtualMotherCardDetail.withHash (hash : Option String) (card : VirtualMotherCardDetail) :
    VirtualMotherCardDetail := { card with credentialHash := hash }

def AssetDetail.withHash (hash : Option String) (d : AssetDetail) : AssetDetail :=
  { d with virtualMotherCard := d.virtualMotherCard.map (·.withHash hash) }

theorem fetchVirtualMotherCardDetail_setCredential :
    fetchVirtualMotherCardDetail fails (s.setCredential assetId hash) assetId =
      (fetchVirtualMotherCardDetail fails s assetId).map
        (Option.map (VirtualMotherCardDetail.withHash hash)) := by
  simp only [fetchVirtualMotherCardDetail, Snapshot.setCredential, virtualMotherCard_setCredential,
    Option.map_map, answer]
  cases fails .virtualMotherCard with
  | some e => rfl
  | none =>
      cases s.db.virtualMotherCard assetId with
      | none => rfl
      | some card => rfl

/-- Another credential changes the detail in its credential hash, and nothing else. -/
theorem fetchAssetDetail_setCredential :
    fetchAssetDetail fails (s.setCredential assetId hash) assetId =
      (fetchAssetDetail fails s assetId).map (Option.map (AssetDetail.withHash hash)) := by
  obtain ⟨hassets, hcommitments, hbrand, hplatform⟩ :=
    setCredential_reads s.db assetId hash
  have hasset : (s.setCredential assetId hash).db.asset assetId = s.db.asset assetId := by
    simp only [Snapshot.setCredential, Db.asset, hassets]
  have hpayload : ∀ id, fetchAssetCommitmentPayload fails (s.setCredential assetId hash) id =
      fetchAssetCommitmentPayload fails s id := by
    intro id
    cases id with
    | none => rfl
    | some id =>
        simp only [fetchAssetCommitmentPayload, Snapshot.setCredential, Db.commitmentPayload,
          hcommitments]
  have hstatuses : ∀ id, fetchAttestationStatuses fails (s.setCredential assetId hash) id =
      fetchAttestationStatuses fails s id := by
    intro id
    cases id with
    | none => rfl
    | some id => simp only [fetchAttestationStatuses, Snapshot.setCredential, hbrand, hplatform]
  simp only [fetchAssetDetail, hasset, hpayload, hstatuses,
    fetchVirtualMotherCardDetail_setCredential]
  cases found .assetNotFound (answer fails .asset (s.db.asset assetId)) with
  | error e => rfl
  | ok row =>
      cases hp : fetchAssetCommitmentPayload fails s row.assetCommitmentId with
      | error e => simp only [bind, Except.bind, hp, Except.map]
      | ok payload =>
          cases hs : fetchAttestationStatuses fails s row.assetCommitmentId with
          | error e => simp only [bind, Except.bind, hp, hs, Except.map]
          | ok statuses =>
              cases fetchVirtualMotherCardDetail fails s assetId with
              | error e => simp only [bind, Except.bind, hp, hs, Except.map]
              | ok card =>
                  simp only [bind, Except.bind, hp, hs, Except.map, Option.map_map]
                  rfl

theorem answer_ok {α : Type} {q : Query} {a b : α} :
    answer fails q a = .ok b ↔ fails q = none ∧ a = b := by
  unfold answer
  cases fails q with
  | some e => simp
  | none => simp

theorem orDatabase_answer_ok {α : Type} {q : Query} {a b : α} :
    orDatabase (answer fails q a) = .ok b ↔ fails q = none ∧ a = b := by
  rw [← answer_ok]
  cases answer fails q a with
  | error e => simp [orDatabase, Except.mapError]
  | ok a => simp [orDatabase, Except.mapError]

theorem found_answer_ok {α : Type} {q : Query} {missing : RcError} {a : Option α} {b : α} :
    found missing (answer fails q a) = .ok b ↔ fails q = none ∧ a = some b := by
  unfold answer
  cases fails q with
  | some e => simp [found]
  | none => cases a <;> simp [found]

theorem fetchAssetCommitmentPayload_ok {id : Option String} :
    (∃ payload, fetchAssetCommitmentPayload fails s id = .ok payload) ↔
      (id.isSome = true → fails .commitmentPayload = none) := by
  cases id with
  | none => simp [fetchAssetCommitmentPayload]
  | some id => simp [fetchAssetCommitmentPayload, orDatabase_answer_ok]

theorem fetchAttestationStatuses_ok {id : Option String} :
    (∃ statuses, fetchAttestationStatuses fails s id = .ok statuses) ↔
      (id.isSome = true → fails .brandCount = none ∧ fails .platformCount = none) := by
  cases id with
  | none => simp [fetchAttestationStatuses]
  | some id =>
      simp only [fetchAttestationStatuses, answer]
      cases fails .brandCount with
      | some e => simp [orDatabase, Except.mapError, bind, Except.bind]
      | none =>
          cases fails .platformCount with
          | some e => simp [orDatabase, Except.mapError, bind, Except.bind]
          | none => simp [orDatabase, Except.mapError, bind, Except.bind]

/-- A detail is fetched when the asset has a uid and none of its reads fails; it shows the card. -/
theorem fetchAssetDetail_ok {d : AssetDetail}
    (h : fetchAssetDetail fails s assetId = .ok (some d)) :
    (∃ row, s.db.asset assetId = some row ∧ row.uid.isSome = true ∧ d.brandId = row.brandId ∧
      ∀ q ∈ queries row.assetCommitmentId, fails q = none) ∧
      d.virtualMotherCard = (s.db.virtualMotherCard assetId).map AuthorityDeviceRow.detail := by
  unfold fetchAssetDetail at h
  obtain ⟨row, hrow, h⟩ := bind_ok h
  obtain ⟨payload, hpayload, h⟩ := bind_ok h
  obtain ⟨statuses, hstatuses, h⟩ := bind_ok h
  obtain ⟨card, hcard, h⟩ := bind_ok h
  obtain ⟨hfound, hrow⟩ := found_answer_ok.mp hrow
  obtain ⟨hread, hcard⟩ := orDatabase_answer_ok.mp hcard
  have hpayload := fetchAssetCommitmentPayload_ok.mp ⟨payload, hpayload⟩
  have hstatuses := fetchAttestationStatuses_ok.mp ⟨statuses, hstatuses⟩
  obtain ⟨uid, huid, rfl⟩ := Option.map_eq_some_iff.mp (Except.ok.inj h)
  refine ⟨⟨row, hrow, by rw [huid]; rfl, rfl, ?_⟩, hcard.symm⟩
  cases hid : row.assetCommitmentId with
  | none => simp [queries, hfound, hread]
  | some id =>
      rw [hid] at hpayload hstatuses
      simp [queries, hfound, hread, hpayload rfl, hstatuses rfl]

/-- The other way: such an asset has a detail. -/
theorem exists_fetchAssetDetail {row : AssetRow} (hrow : s.db.asset assetId = some row)
    (huid : row.uid.isSome = true) (hreads : ∀ q ∈ queries row.assetCommitmentId, fails q = none) :
    ∃ d, fetchAssetDetail fails s assetId = .ok (some d) := by
  have hfound : fails .asset = none := hreads _ (by cases row.assetCommitmentId <;> simp [queries])
  have hread : fails .virtualMotherCard = none :=
    hreads _ (by cases row.assetCommitmentId <;> simp [queries])
  have hcommitted : row.assetCommitmentId.isSome = true → fails .commitmentPayload = none ∧
      fails .brandCount = none ∧ fails .platformCount = none := by
    intro hid
    obtain ⟨id, hid⟩ := Option.isSome_iff_exists.mp hid
    rw [hid] at hreads
    exact ⟨hreads _ (by simp [queries]), hreads _ (by simp [queries]), hreads _ (by simp [queries])⟩
  obtain ⟨payload, hpayload⟩ := (fetchAssetCommitmentPayload_ok (s := s)).mpr fun h =>
    (hcommitted h).1
  obtain ⟨statuses, hstatuses⟩ := (fetchAttestationStatuses_ok (s := s)).mpr fun h =>
    (hcommitted h).2
  have hrow : found .assetNotFound (answer fails .asset (s.db.asset assetId)) = .ok row :=
    found_answer_ok.mpr ⟨hfound, hrow⟩
  have hcard : fetchVirtualMotherCardDetail fails s assetId =
      .ok ((s.db.virtualMotherCard assetId).map AuthorityDeviceRow.detail) :=
    orDatabase_answer_ok.mpr ⟨hread, rfl⟩
  obtain ⟨uid, huid⟩ := Option.isSome_iff_exists.mp huid
  simp only [fetchAssetDetail, hrow, bind, Except.bind, hpayload, hstatuses, hcard, huid]
  exact ⟨_, rfl⟩

theorem optional_injective : Function.Injective optional := by
  intro a b h
  cases a with
  | none =>
      cases b with
      | none => rfl
      | some b => cases h
  | some a =>
      cases b with
      | none => cases h
      | some b =>
          cases h
          rfl

/-- Two hashes show. -/
theorem withHash_toJson_ne {d : AssetDetail} {card : VirtualMotherCardDetail}
    (hcard : d.virtualMotherCard = some card) (hne : hash ≠ card.credentialHash) :
    (d.withHash hash).toJson ≠ d.toJson := by
  intro h
  obtain ⟨-, hlast⟩ := List.append_inj' (Json.obj.inj h) rfl
  simp only [AssetDetail.withHash, hcard, Option.map_some, VirtualMotherCardDetail.toJson,
    VirtualMotherCardDetail.withHash, List.cons.injEq, Prod.mk.injEq, Json.obj.injEq, and_true,
    true_and] at hlast
  exact hne (optional_injective hlast)

end Replies

section Disclosure
variable {fails : Query → Option String} {s : Snapshot} {actor : ActorContext} {assetId : String}

/-- The credential stays hidden from an actor the card is not bound to, if and only if
the actor is not shown the detail of an asset that has a virtual card. -/
theorem credentialHidden_iff :
    CredentialHidden fails s actor assetId ↔ ¬Shown fails s actor assetId := by
  constructor
  · intro hhidden hshown
    obtain ⟨card, hcard⟩ := Option.isSome_iff_exists.mp hshown.card
    obtain ⟨row, hrow, huid, hboundary, hreads⟩ := hshown.asset
    obtain ⟨d, hd⟩ := exists_fetchAssetDetail hrow huid hreads
    obtain ⟨⟨row', hrow', -, hbrand, -⟩, hdetail⟩ := fetchAssetDetail_ok hd
    obtain rfl := Option.some.inj (hrow'.symm.trans hrow)
    rw [hcard, Option.map_some] at hdetail
    obtain ⟨hash, hne⟩ : ∃ hash, hash ≠ card.detail.credentialHash := by
      cases card.detail.credentialHash with
      | none => exact ⟨some "", nofun⟩
      | some _ => exact ⟨none, nofun⟩
    have hsame := hhidden hshown.unbound hash
    simp only [getAsset, fetchAssetDetail_setCredential, hd, Except.map, Option.map_some] at hsame
    rw [show (d.withHash hash).brandId = d.brandId from rfl, hbrand, hboundary] at hsame
    simp only [Option.some.injEq, Reply.ok, Reply.mk.injEq, Body.json.injEq, true_and] at hsame
    exact withHash_toJson_ne hdetail hne hsame
  · intro hnot hunbound hash
    simp only [getAsset, fetchAssetDetail_setCredential]
    cases hd : fetchAssetDetail fails s assetId with
    | error e => rfl
    | ok detail =>
        cases detail with
        | none => rfl
        | some d =>
            obtain ⟨⟨row, hrow, huid, hbrand, hreads⟩, hdetail⟩ := fetchAssetDetail_ok hd
            simp only [Except.map, Option.map_some]
            rw [show (d.withHash hash).brandId = d.brandId from rfl]
            cases hboundary : checkBrandBoundary actor d.brandId with
            | error e => rfl
            | ok a =>
                have hnone : s.db.virtualMotherCard assetId = none := by
                  by_contra hsome
                  refine hnot ⟨hunbound, Option.isSome_iff_ne_none.mpr hsome, row, hrow, huid, ?_,
                    hreads⟩
                  rw [← hbrand]
                  exact hboundary
                rw [hnone] at hdetail
                have hwith : d.withHash hash = d := by
                  rw [AssetDetail.withHash, hdetail]
                  exact congrArg _ hdetail.symm
                rw [hwith]

end Disclosure

section Sample

def soldPairSnapshot : Snapshot where
  db := soldPairStore.db
  times _ := ⟨none, none, "2025-01-01", "2025-01-01"⟩

def stranger : ActorContext := { actorId := "stranger", actorRole := .consumer }

def Reply.jsonText (reply : Reply) : Option String :=
  match reply.body with
  | .json value => some value.render
  | _ => none

/-- The owner's card is shown to anyone who asks. -/
theorem credential_shown_to_stranger :
    ¬∀ (fails : Query → Option String) (s : Snapshot) (actor : ActorContext) (assetId : String),
      CredentialHidden fails s actor assetId := by
  intro hall
  have hunbound : Unbound soldPairSnapshot stranger "a" := by
    intro card hcard hbound
    have hcards : (soldPairSnapshot.db.virtualMotherCard "a").map (·.boundUserId) =
        some (some "owner") := by decide +kernel
    rw [hcard, Option.map_some, hbound] at hcards
    exact absurd hcards (by decide)
  have hsame := hall (fun _ => none) soldPairSnapshot stranger "a" hunbound none
  exact absurd (congrArg (Option.map Reply.jsonText) hsame) (by decide +kernel)

end Sample

end RcProtocol
