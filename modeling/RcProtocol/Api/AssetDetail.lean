import RcProtocol.Api.ProtocolWrite

/-!
The detail of an asset (routes/assets.rs and db/assets.rs): five reads at most, of
the asset, its commitment and its attestations, and of its virtual mother card.
-/

namespace RcProtocol
open Library

/-- The times of an asset, which no other statement reads. -/
structure Timestamps where
  activatedAt : Option String
  soldAt : Option String
  createdAt : String
  updatedAt : String

/-- What the reads of one request see. -/
structure Snapshot where
  db : Db
  times : String → Timestamps

inductive Query where
  | asset | commitmentPayload | brandCount | platformCount | virtualMotherCard
  deriving DecidableEq

structure VirtualMotherCardDetail where
  authorityUid : String
  authorityType : String
  credentialHash : Option String
  epoch : Int32

def AuthorityDeviceRow.detail (d : AuthorityDeviceRow) : VirtualMotherCardDetail :=
  ⟨d.authorityUid, d.authorityType, d.virtualCredentialHash, d.keyEpoch⟩

structure AssetDetail where
  assetId : String
  uid : String
  brandId : String
  batchId : Option String
  externalProductId : Option String
  externalProductName : Option String
  externalProductUrl : Option String
  assetCommitmentId : Option String
  assetCommitmentPayload : Option Json
  brandAttestationStatus : Option String
  platformAttestationStatus : Option String
  currentState : AssetState
  previousState : Option AssetState
  ownerId : Option String
  keyEpoch : Int32
  times : Timestamps
  virtualMotherCard : Option VirtualMotherCardDetail

def optional : Option String → Json
  | none => .null
  | some s => .str s

def VirtualMotherCardDetail.toJson (card : VirtualMotherCardDetail) : Json :=
  .obj
    [("authority_uid", .str card.authorityUid), ("authority_type", .str card.authorityType),
      ("credential_hash", optional card.credentialHash), ("epoch", .num card.epoch.toInt)]

/-- A commitment that has no payload is left out; the other fields that are missing are null. -/
def AssetDetail.toJson (d : AssetDetail) : Json :=
  .obj
    ([("asset_id", .str d.assetId), ("uid", .str d.uid), ("brand_id", .str d.brandId),
      ("batch_id", optional d.batchId), ("external_product_id", optional d.externalProductId),
      ("external_product_name", optional d.externalProductName),
      ("external_product_url", optional d.externalProductUrl),
      ("asset_commitment_id", optional d.assetCommitmentId)] ++
      (match d.assetCommitmentPayload with
        | none => []
        | some payload => [("asset_commitment_payload", payload)]) ++
      [("brand_attestation_status", optional d.brandAttestationStatus),
        ("platform_attestation_status", optional d.platformAttestationStatus),
        ("current_state", .str d.currentState.asDbStr),
        ("previous_state", optional (d.previousState.map AssetState.asDbStr)),
        ("owner_id", optional d.ownerId), ("key_epoch", .num d.keyEpoch.toInt),
        ("activated_at", optional d.times.activatedAt), ("sold_at", optional d.times.soldAt),
        ("created_at", .str d.times.createdAt), ("updated_at", .str d.times.updatedAt)] ++
      [("virtual_mother_card",
        match d.virtualMotherCard with
        | none => .null
        | some card => card.toJson)])

namespace Db
variable (db : Db)

def commitmentPayload (commitmentId : String) : Option Json :=
  (db.commitments.find (·.commitmentId = commitmentId)).map (·.canonicalPayload)

def countAttestations (table : Table AttestationRecord) (commitmentId : String) : Nat :=
  table.rows.countP (·.assetCommitmentId = commitmentId)

/-- The virtual card behind the Active entanglement of the asset. -/
def virtualMotherCard (assetId : String) : Option AuthorityDeviceRow :=
  db.entanglements.rows.reverse.findSome? fun e =>
    if e.assetId = assetId ∧ e.entanglementState = "Active" then
      db.authorityDevices.find fun d =>
        d.authorityId = e.authorityId && d.authorityType = "VIRTUAL_APP"
    else none

end Db

def attestationStatusFromCount (count : Nat) : Option String :=
  if count > 0 then some "issued" else none

section Handler
variable (fails : Query → Option String) (s : Snapshot)

def answer {α : Type} (q : Query) (a : α) : Except String α :=
  match fails q with
  | some e => .error e
  | none => .ok a

def fetchAssetCommitmentPayload : Option String → Except RcError (Option Json)
  | none => .ok none
  | some id => orDatabase (answer fails .commitmentPayload (s.db.commitmentPayload id))

def fetchAttestationStatuses : Option String → Except RcError (Option String × Option String)
  | none => .ok (none, none)
  | some id => do
      let brandCount ← orDatabase (answer fails .brandCount
        (Db.countAttestations s.db.brandAttestations id))
      let platformCount ← orDatabase (answer fails .platformCount
        (Db.countAttestations s.db.platformAttestations id))
      .ok (attestationStatusFromCount brandCount, attestationStatusFromCount platformCount)

def fetchVirtualMotherCardDetail (assetId : String) :
    Except RcError (Option VirtualMotherCardDetail) :=
  orDatabase (answer fails .virtualMotherCard
    ((s.db.virtualMotherCard assetId).map AuthorityDeviceRow.detail))

/-- There is no detail of an asset without a uid: the column is read as a text. -/
def fetchAssetDetail (assetId : String) : Except RcError (Option AssetDetail) := do
  let row ← found .assetNotFound (answer fails .asset (s.db.asset assetId))
  let payload ← fetchAssetCommitmentPayload fails s row.assetCommitmentId
  let statuses ← fetchAttestationStatuses fails s row.assetCommitmentId
  let card ← fetchVirtualMotherCardDetail fails s assetId
  .ok (row.uid.map fun uid =>
    { assetId := row.assetId
      uid := uid
      brandId := row.brandId
      batchId := row.batchId
      externalProductId := row.externalProductId
      externalProductName := row.externalProductName
      externalProductUrl := row.externalProductUrl
      assetCommitmentId := row.assetCommitmentId
      assetCommitmentPayload := payload
      brandAttestationStatus := statuses.1
      platformAttestationStatus := statuses.2
      currentState := row.currentState
      previousState := row.previousState
      ownerId := row.ownerId
      keyEpoch := row.keyEpoch
      times := s.times assetId
      virtualMotherCard := card })

/-- The reply of `get_asset`; there is none when the handler panics on a missing uid. -/
def getAsset (actor : ActorContext) (assetId : String) : Option Reply :=
  match fetchAssetDetail fails s assetId with
  | .error err => some (errorResponse err)
  | .ok none => none
  | .ok (some asset) =>
      match checkBrandBoundary actor asset.brandId with
      | .error err => some (errorResponse err)
      | .ok () => some (.ok (.json asset.toJson))

end Handler

end RcProtocol
