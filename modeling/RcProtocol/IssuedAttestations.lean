import RcProtocol.AttestationVerdicts
import RcProtocol.Library.JsonMembers

/-!
An attestation from its issue to its check. What is issued is trimmed: the identifiers of the
payload and of the row. What they are compared with is not, and neither is the commitment a
row is looked up by.
-/

namespace RcProtocol
open Library

/-- A signature made with a key is accepted under its verifying key. -/
def Primitives.Signs (p : Primitives) : Prop :=
  ∀ key message, p.verify (p.verifyingKey key) message (p.sign key message) = true

/-- A row as it is read back: the members of a JSONB value come in any order. -/
structure ReadBack (record stored : AttestationRecord) : Prop where
  columns : { stored with canonicalPayload := record.canonicalPayload } = record
  payload : ∃ members members', record.canonicalPayload = .obj members ∧
    stored.canonicalPayload = .obj members' ∧ members'.Perm members

/-- The payload is an object whose members determine it. -/
def AttestationKind.Reads (kind : AttestationKind) : Prop :=
  ∀ payload members stored, kind.canonicalPayloadJson payload = .obj members → stored.Perm members →
    kind.fromValue (.obj stored) = some payload

namespace AttestationKind
variable {kind : AttestationKind} {payload : AttestationPayloadV1}
    {members stored : List (String × Json)}

theorem fromValue_perm (hperm : stored.Perm members) (hnodup : (members.map Prod.fst).Nodup) :
    kind.fromValue (.obj stored) = kind.fromValue (.obj members) := by
  simp only [fromValue, Json.strMember_perm hperm hnodup]

theorem reads_of_names {names : List String} (hnodup : names.Nodup)
    (hwritten : ∀ payload, ∃ members, kind.canonicalPayloadJson payload = .obj members ∧
      members.map Prod.fst = names ∧ kind.fromValue (.obj members) = some payload) :
    kind.Reads := by
  intro payload members stored hmembers hperm
  obtain ⟨written, heq, hnames, hread⟩ := hwritten payload
  have hsame : written = members := Json.obj.inj (heq.symm.trans hmembers)
  rw [← hsame] at hperm
  rw [fromValue_perm hperm (hnames ▸ hnodup), hread]

theorem brand_reads : brandAttestation.Reads := by
  have hnodup : ["asset_commitment_id", "brand_id", "issued_at", "key_id", "statement",
      "version"].Nodup := by decide
  exact reads_of_names hnodup fun _ => ⟨_, rfl, rfl, rfl⟩

theorem platform_reads : platformAttestation.Reads := by
  have hnodup : ["asset_commitment_id", "issued_at", "key_id", "platform_id", "statement",
      "version"].Nodup := by decide
  exact reads_of_names hnodup fun _ => ⟨_, rfl, rfl, rfl⟩

end AttestationKind

section Issued
variable {kind : AttestationKind} {p : Primitives} {issuerId commitmentId now keyId : String}
  {key : Bytes 32} {stored : AttestationRecord}

theorem verify_sign (hsigns : p.Signs) (payload : AttestationPayloadV1) :
    kind.verify p payload (hexEncode (p.sign key (kind.canonicalPayloadBytes payload)).toList)
      (p.verifyingKey key) = .ok true := by
  rw [AttestationKind.verify, hexDecode_hexEncode]
  dsimp only
  rw [Bytes.ofList?_toList]
  dsimp only
  rw [hsigns]

/-- The columns of an issued row are those of its payload, so that only the commitment and
the issuer can differ from what is asked for. -/
theorem validate_issued (hreads : kind.Reads) (hsigns : p.Signs)
    (hstored : ReadBack (kind.buildRecord p issuerId commitmentId now keyId key) stored) :
    kind.validate p commitmentId stored (.ok (issuerId, key)) =
      .ok (if trim commitmentId = commitmentId ∧ trim issuerId = issuerId then "valid"
        else "invalid") := by
  obtain ⟨members, members', hmembers, hmembers', hperm⟩ := hstored.payload
  have hpayload : kind.fromValue stored.canonicalPayload =
      some (kind.buildPayload issuerId commitmentId now keyId) := by
    rw [hmembers']
    exact hreads _ members members' hmembers hperm
  have hcolumns := hstored.columns
  have hvalid : kind.verify p (kind.buildPayload issuerId commitmentId now keyId) stored.signature
      (p.verifyingKey key) = .ok true := by
    rw [congrArg AttestationRecord.signature hcolumns]
    exact verify_sign hsigns _
  rw [validate_of_verify hpayload hvalid]
  have hkey : stored.keyId = trim keyId := congrArg AttestationRecord.keyId hcolumns
  have hstatement : stored.statement = kind.statement :=
    congrArg AttestationRecord.statement hcolumns
  have hversion : stored.version = kind.version := congrArg AttestationRecord.version hcolumns
  rw [hkey, hstatement, hversion]
  simp only [AttestationKind.buildPayload, true_and, and_true]

end Issued

theorem insertAttestation_new {table table' : Table AttestationRecord} {record : AttestationRecord}
    (h : Db.insertAttestation table record = .ok table') (hmem : record ∈ table'.rows)
    (hnew : record ∉ table.rows) : table.insert record = some table' := by
  rw [Db.insertAttestation] at h
  split at h
  · rw [Except.ok.inj h] at hnew
    exact absurd hmem hnew
  · split at h
    · cases h
    · next hinsert => rw [hinsert, Except.ok.inj h]

section Inserted
variable {kind : AttestationKind} {p : Primitives} {issuerId commitmentId now keyId : String}
  {key : Bytes 32} {stored : AttestationRecord} {table table' : Table AttestationRecord}

theorem assetCommitmentId_of_readBack
    (hstored : ReadBack (kind.buildRecord p issuerId commitmentId now keyId key) stored) :
    stored.assetCommitmentId = trim commitmentId :=
  congrArg AttestationRecord.assetCommitmentId hstored.columns

theorem verdictOn_inserted (hreads : kind.Reads) (hsigns : p.Signs)
    (hstored : ReadBack (kind.buildRecord p issuerId commitmentId now keyId key) stored)
    (hinsert : table.insert stored = some table') (hcommitment : trim commitmentId = commitmentId)
    (hissuer : trim issuerId = issuerId) :
    kind.verdictOn p commitmentId (.ok (issuerId, key))
      (table'.newest (·.assetCommitmentId = commitmentId)) = .ok "valid" := by
  rw [Table.newest_insert hinsert, assetCommitmentId_of_readBack hstored, hcommitment,
    if_pos (decide_eq_true rfl), AttestationKind.verdictOn, validate_issued hreads hsigns hstored,
    if_pos ⟨hcommitment, hissuer⟩]

/-- Under an empty table nothing else is found, so that the row itself has to be valid. -/
theorem trimmed_of_verdictOn (hreads : kind.Reads) (hsigns : p.Signs)
    (hstored : ReadBack (kind.buildRecord p issuerId commitmentId now keyId key) stored)
    (h : kind.verdictOn p commitmentId (.ok (issuerId, key))
      ((Table.single stored).newest (·.assetCommitmentId = commitmentId)) = .ok "valid") :
    trim commitmentId = commitmentId ∧ trim issuerId = issuerId := by
  by_cases hcommitment : trim commitmentId = commitmentId
  · have hfound : (Table.single stored).newest (·.assetCommitmentId = commitmentId) = some stored := by
      simp [Table.newest, Table.single, assetCommitmentId_of_readBack hstored, hcommitment]
    rw [hfound, AttestationKind.verdictOn, validate_issued hreads hsigns hstored] at h
    by_contra hclean
    rw [if_neg hclean] at h
    exact absurd (Except.ok.inj h) (by decide)
  · have hnone : (Table.single stored).newest (·.assetCommitmentId = commitmentId) = none := by
      simp [Table.newest, Table.single, assetCommitmentId_of_readBack hstored, hcommitment]
    rw [hnone, AttestationKind.verdictOn] at h
    exact absurd (Except.ok.inj h) (by decide)

end Inserted

section Accepted
variable (app : AppState) (asset : AssetVerifyRow) (commitmentId now : String)

/-- Once it is stored, the attestation issued for the brand of the asset is valid for it. -/
def BrandIssueAccepted : Prop :=
  ∀ keyId key stored (s : Store) db,
    loadBrandSigningKey app.crypto app.env = .ok (keyId, key) →
    ReadBack (brandAttestation.buildRecord app.crypto asset.brandId commitmentId now keyId key)
      stored →
    s.db.insertBrandAttestation stored = .ok ((), db) →
    stored ∈ db.brandAttestations.rows → stored ∉ s.db.brandAttestations.rows →
    (machine.run (validateBrandAttestation app asset commitmentId) (fun _ => {})
      { s with db := db }).answer = .ok "valid"

/-- Once it is stored, the attestation issued for the platform is valid. -/
def PlatformIssueAccepted : Prop :=
  ∀ platformId keyId key stored (s : Store) db,
    loadPlatformSigningKey app.crypto app.env = .ok (platformId, keyId, key) →
    ReadBack (platformAttestation.buildRecord app.crypto platformId commitmentId now keyId key)
      stored →
    s.db.insertPlatformAttestation stored = .ok ((), db) →
    stored ∈ db.platformAttestations.rows → stored ∉ s.db.platformAttestations.rows →
    (machine.run (validatePlatformAttestation app commitmentId) (fun _ => {})
      { s with db := db }).answer = .ok "valid"

end Accepted

theorem readBack_refl {kind : AttestationKind} {p : Primitives}
    {issuerId commitmentId now keyId : String} {key : Bytes 32} {members : List (String × Json)}
    (h : kind.canonicalPayloadJson (kind.buildPayload issuerId commitmentId now keyId) = .obj members) :
    ReadBack (kind.buildRecord p issuerId commitmentId now keyId key)
      (kind.buildRecord p issuerId commitmentId now keyId key) :=
  ⟨rfl, members, members, h, h, .refl _⟩

section Accepted
variable {app : AppState} {asset : AssetVerifyRow} {commitmentId now : String}

theorem brandIssueAccepted_iff (hsigns : app.crypto.Signs) :
    BrandIssueAccepted app asset commitmentId now ↔
      trim commitmentId = commitmentId ∧ trim asset.brandId = asset.brandId := by
  constructor
  · intro h
    obtain ⟨keyId, key, hload⟩ := loadBrandSigningKey_exists app.crypto app.env
    let record := brandAttestation.buildRecord app.crypto asset.brandId commitmentId now keyId key
    have hback : ReadBack record record := readBack_refl rfl
    have hvalid := h keyId key record { db := { brands := [trim asset.brandId] } }
      { brands := [trim asset.brandId], brandAttestations := .single record } hload hback
      (if_neg (not_not.mpr (List.mem_singleton.mpr rfl))) (List.mem_singleton.mpr rfl)
      List.not_mem_nil
    rw [evaluates_validateBrandAttestation.answer, brandIssuer_of_load hload] at hvalid
    exact trimmed_of_verdictOn AttestationKind.brand_reads hsigns hback hvalid
  · intro ⟨hcommitment, hbrand⟩ keyId key stored s db hload hback hinsert hmem hnew
    rw [evaluates_validateBrandAttestation.answer, brandIssuer_of_load hload]
    obtain ⟨table, htable, rfl⟩ := insertBrandAttestation_ok hinsert
    exact verdictOn_inserted AttestationKind.brand_reads hsigns hback
      (insertAttestation_new htable hmem hnew) hcommitment hbrand

theorem platformIssueAccepted_iff (hsigns : app.crypto.Signs) :
    PlatformIssueAccepted app commitmentId now ↔
      trim commitmentId = commitmentId ∧ trim (platformIdOf app.env) = platformIdOf app.env := by
  constructor
  · intro h
    obtain ⟨keyId, key, hload⟩ := loadPlatformSigningKey_exists app.crypto app.env
    let record := platformAttestation.buildRecord app.crypto (platformIdOf app.env) commitmentId now
      keyId key
    have hback : ReadBack record record := readBack_refl rfl
    have hvalid := h (platformIdOf app.env) keyId key record { db := { brands := [] } }
      { brands := [], platformAttestations := .single record } hload hback rfl (List.mem_singleton.mpr rfl)
      List.not_mem_nil
    rw [evaluates_validatePlatformAttestation.answer, platformIssuer_of_load hload] at hvalid
    exact trimmed_of_verdictOn AttestationKind.platform_reads hsigns hback hvalid
  · intro ⟨hcommitment, hplatform⟩ platformId keyId key stored s db hload hback hinsert hmem hnew
    obtain ⟨keyId', key', hload'⟩ := loadPlatformSigningKey_exists app.crypto app.env
    have hid : platformId = platformIdOf app.env :=
      congrArg Prod.fst (Except.ok.inj (hload.symm.trans hload'))
    rw [evaluates_validatePlatformAttestation.answer, platformIssuer_of_load hload]
    obtain ⟨table, htable, rfl⟩ := insertPlatformAttestation_ok hinsert
    exact verdictOn_inserted AttestationKind.platform_reads hsigns hback
      (insertAttestation_new htable hmem hnew) hcommitment (hid ▸ hplatform)

end Accepted

/-- What is issued is accepted exactly when nothing of it had to be trimmed. -/
theorem issued_valid_iff (app : AppState) (asset : AssetVerifyRow) (commitmentId now : String)
    (hsigns : app.crypto.Signs) :
    (BrandIssueAccepted app asset commitmentId now ↔
      trim commitmentId = commitmentId ∧ trim asset.brandId = asset.brandId) ∧
    (PlatformIssueAccepted app commitmentId now ↔
      trim commitmentId = commitmentId ∧ trim (platformIdOf app.env) = platformIdOf app.env) :=
  ⟨brandIssueAccepted_iff hsigns, platformIssueAccepted_iff hsigns⟩

section Sample

/-- The signatures of the two sample attestations. -/
def signingPrimitives : Primitives :=
  { attestedPrimitives with
    sign := fun key _ =>
      if key = brandSecret then hexBytes 64 brandSignature else hexBytes 64 platformSignature }

theorem signingPrimitives_signs : signingPrimitives.Signs := by
  intro key message
  have hbrand : (hexBytes 64 brandSignature).get 0 = 0x12 := by decide +kernel
  have hplatform : (hexBytes 64 platformSignature).get 0 = 0x3f := by decide +kernel
  by_cases hkey : key = brandSecret
  · simp only [signingPrimitives, attestedPrimitives, if_pos hkey, hbrand, true_and, true_or,
      decide_true]
  · simp only [signingPrimitives, attestedPrimitives, if_neg hkey, hplatform, true_and, or_true,
      decide_true]

def signingApp (platformId : String) : AppState :=
  { attestedApp with
    crypto := signingPrimitives
    env := fun name => if name = "RC_PLATFORM_ID" then some platformId else attestedApp.env name }

def issuedAsset : AssetVerifyRow :=
  ⟨"a", "brand", none, "04A31B2C3D4E5F", .activated, none, 0, some "commitment_test_v2"⟩

theorem issued_valid_iff_clean :
    BrandIssueAccepted (signingApp "test-system") issuedAsset "commitment_test_v2"
        "2026-04-09T12:00:00+00:00" ∧
      PlatformIssueAccepted (signingApp "test-system") "commitment_test_v2"
        "2026-04-09T12:00:00+00:00" := by
  obtain ⟨hbrand, hplatform⟩ := issued_valid_iff (signingApp "test-system") issuedAsset
    "commitment_test_v2" "2026-04-09T12:00:00+00:00" signingPrimitives_signs
  exact ⟨hbrand.mpr ⟨by decide, by decide⟩, hplatform.mpr ⟨by decide, by decide⟩⟩

/-- A platform id with a blank after it. -/
theorem spaced_platform_rejected :
    ¬∀ (app : AppState) (asset : AssetVerifyRow) (commitmentId now : String), app.crypto.Signs →
      BrandIssueAccepted app asset commitmentId now ∧ PlatformIssueAccepted app commitmentId now := by
  intro h
  have hplatform := (h (signingApp "test-system ") issuedAsset "commitment_test_v2"
    "2026-04-09T12:00:00+00:00" signingPrimitives_signs).2
  have hclean := ((platformIssueAccepted_iff signingPrimitives_signs).mp hplatform).2
  exact absurd hclean (by decide)

end Sample

end RcProtocol
