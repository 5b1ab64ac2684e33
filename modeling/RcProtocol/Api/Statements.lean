import RcProtocol.Api.Schema

/-!
The statements rc-api runs against the database and its caches, one operation
each; `persist_action` is one transaction and one operation. A statement that
reports an error has had no effect.
-/

namespace RcProtocol
open Library

structure IdempotencyRecord where
  requestHash : String
  responseSnapshot : Json

structure PersistAction where
  nextRecord : AssetRecord
  auditEvent : AuditEvent
  requestHash : String
  responseSnapshot : Json
  assetCommitmentId : Option String

structure AssetVerifyRow where
  assetId : String
  brandId : String
  productId : Option String
  uid : String
  currentState : AssetState
  lastVerifiedCtr : Option Int32
  epoch : Int32
  assetCommitmentId : Option String
  deriving DecidableEq

structure ActivationSnapshot where
  uid : Option String
  keyEpoch : Int32
  batchId : Option String
  deriving DecidableEq

structure TransferRecord where
  transferId : Uuid
  assetId : String
  fromUserId : String
  toUserId : String
  fromOwnerId : String
  toOwnerId : String
  transferType : String
  status : String
  deriving DecidableEq

def TransferRow.record (r : TransferRow) : TransferRecord where
  transferId := r.transferId
  assetId := r.assetId
  fromUserId := r.fromUserId
  toUserId := r.toUserId
  fromOwnerId := r.fromOwnerId
  toOwnerId := r.toOwnerId
  transferType := r.transferType
  status := r.status

def resourceType : String := "asset_action"

def duplicateKey (table : String) : String :=
  "duplicate key value violates unique constraint on " ++ table

def missingReference (table : String) : String :=
  "insert or update on table " ++ table ++ " violates foreign key constraint"

def undefinedColumn (column : String) : String :=
  "column " ++ column ++ " does not exist"

namespace PersistAction
variable (w : PersistAction)

def owner (previous : Option String) : Option String :=
  match w.auditEvent.action with
  | .legalSell => w.auditEvent.context.buyerId
  | .transfer => some w.auditEvent.context.actorId
  | .consume | .legacy => none
  | _ => previous

/-- What the transaction makes of the row of its asset. -/
def apply (r : AssetRow) : AssetRow :=
  { r with
    currentState := w.nextRecord.currentState
    previousState := w.nextRecord.previousState
    ownerId := w.owner r.ownerId }

theorem key_apply (r : AssetRow) : Keyed.key (w.apply r) = Keyed.key r := rfl

def eventRow : EventRow where
  eventId := w.auditEvent.eventId
  assetId := w.auditEvent.assetId
  action := w.auditEvent.action
  fromState := w.auditEvent.fromState
  toState := w.auditEvent.toState
  traceId := w.auditEvent.context.traceId
  actorId := w.auditEvent.context.actorId
  actorRole := w.auditEvent.context.actorRole
  actorOrg := w.auditEvent.context.actorOrg
  idempotencyKey := w.auditEvent.context.idempotencyKey
  approvalId := w.auditEvent.context.approvalId
  policyVersion := w.auditEvent.context.policyVersion
  assetCommitmentId := w.assetCommitmentId

def idempotencyRow : IdempotencyRow where
  idempotencyKey := w.auditEvent.context.idempotencyKey
  resourceType := resourceType
  resourceId := w.auditEvent.assetId
  requestHash := w.requestHash
  responseSnapshot := w.responseSnapshot

end PersistAction

namespace Db
variable (db : Db)

def selectIdempotencyRecord (key : String) : Option IdempotencyRecord :=
  (db.idempotency.find (·.idempotencyKey = key)).map fun r =>
    ⟨r.requestHash, r.responseSnapshot⟩

def selectAssetRecord (assetId : String) : Option AssetRecord :=
  (db.asset assetId).map fun r => ⟨r.assetId, r.brandId, r.currentState, r.previousState⟩

def selectOwner (assetId : String) : Option (Option String) :=
  (db.asset assetId).map (·.ownerId)

def persistAction (w : PersistAction) : Except String (Unit × Db) :=
  let assetId := w.nextRecord.assetId
  let db₁ := db.updateAsset assetId (fun r =>
    { r with
      currentState := w.nextRecord.currentState
      previousState := w.nextRecord.previousState }) fun _ => rfl
  let db₂ : Except String Db :=
    match w.auditEvent.action with
    | .legalSell =>
        match w.auditEvent.context.buyerId with
        | none => .error "LegalSell buyer_id validated in apply_action"
        | some buyer =>
            .ok (db₁.updateAsset assetId (fun r => { r with ownerId := some buyer }) fun _ => rfl)
    | .transfer =>
        let actorId := w.auditEvent.context.actorId
        .ok (db₁.updateAsset assetId (fun r => { r with ownerId := some actorId }) fun _ => rfl)
    | .consume | .legacy =>
        .ok (db₁.updateAsset assetId (fun r => { r with ownerId := none }) fun _ => rfl)
    | _ => .ok db₁
  match db₂ with
  | .error e => .error e
  | .ok db₂ =>
      if !db₂.hasAsset w.auditEvent.assetId then .error (missingReference "asset_state_events")
      else
        match db₂.events.insert w.eventRow with
        | none => .error (duplicateKey "asset_state_events")
        | some events =>
            let idempotency := (db₂.idempotency.insert w.idempotencyRow).getD db₂.idempotency
            .ok ((), { db₂ with events := events, idempotency := idempotency })

def updateProductMapping (assetId externalProductId : String)
    (externalProductName externalProductUrl : Option String) : Db :=
  db.updateAsset assetId (fun r =>
    { r with
      externalProductId := some externalProductId
      externalProductName := externalProductName
      externalProductUrl := externalProductUrl }) fun _ => rfl

def selectActivationSnapshot (assetId : String) : Option ActivationSnapshot :=
  (db.asset assetId).map fun r => ⟨r.uid, r.keyEpoch, r.batchId⟩

def insertAssetCommitment (record : AssetCommitmentRecord) : Except String (Unit × Db) :=
  if record.brandId ∉ db.brands then .error (missingReference "asset_commitments")
  else .ok ((), { db with
    commitments := (db.commitments.insert record).getD db.commitments })

def bindAssetCommitment (assetId commitmentId : String) : Db :=
  db.updateAsset assetId (fun r => { r with assetCommitmentId := some commitmentId }) fun _ => rfl

/-- `INSERT … ON CONFLICT (asset_commitment_id, statement) DO NOTHING`: another
row with the same attestation id is still an error. -/
def insertAttestation (table : Table AttestationRecord) (record : AttestationRecord) :
    Except String (Table AttestationRecord) :=
  match table.find fun r =>
      r.assetCommitmentId = record.assetCommitmentId ∧ r.statement = record.statement with
  | some _ => .ok table
  | none =>
      match table.insert record with
      | none => .error (duplicateKey "attestations")
      | some table => .ok table

def insertBrandAttestation (record : AttestationRecord) : Except String (Unit × Db) :=
  if record.issuerId ∉ db.brands then .error (missingReference "brand_attestations")
  else (insertAttestation db.brandAttestations record).map fun table =>
    ((), { db with brandAttestations := table })

def insertPlatformAttestation (record : AttestationRecord) : Except String (Unit × Db) :=
  (insertAttestation db.platformAttestations record).map fun table =>
    ((), { db with platformAttestations := table })

def selectUidEpoch (assetId : String) : Option (Option String × Int32) :=
  (db.asset assetId).map fun r => (r.uid, r.epoch)

def insertAuthorityDevice (row : AuthorityDeviceRow) : Except String (Uuid × Db) :=
  if row.brandId ∉ db.brands then .error (missingReference "authority_devices")
  else
    match h : db.authorityDevices.insert row with
    | none => .error (duplicateKey "authority_devices")
    | some devices =>
        .ok (row.authorityId, { db with
          authorityDevices := devices
          entangled := fun e he =>
            let ⟨d, hd, hid⟩ := db.entangled e he
            ⟨d, (Table.mem_insert h).mpr (.inl hd), hid⟩ })

def insertEntanglement (row : EntanglementRow) : Except String (Uuid × Db) :=
  if hr : ∃ d ∈ db.authorityDevices.rows, d.authorityId = row.authorityId then
    if !db.hasAsset row.assetId then .error (missingReference "asset_entanglements")
    else
      match h : db.entanglements.insert row with
      | none => .error (duplicateKey "asset_entanglements")
      | some entanglements =>
          .ok (row.entanglementId, { db with
            entanglements := entanglements
            entangled := fun e he =>
              ((Table.mem_insert h).mp he).elim (db.entangled e) fun h => h ▸ hr })
  else .error (missingReference "asset_entanglements")

def selectEpochByUid (uid : String) : Option Int32 := (db.assetByUid uid).map (·.epoch)

def selectAuthorityDeviceByAsset (assetId : String) : Option AuthorityDeviceRow :=
  match db.entanglements.find fun e => e.assetId = assetId ∧ e.entanglementState = "Active" with
  | none => none
  | some e => db.authorityDevices.find (·.authorityId = e.authorityId)

/-- The counter moves only if the stored one is absent or smaller; the answer
says whether a row was written. -/
def updateAuthorityCtr (authorityId : Uuid) (newCtr : Int32) : Bool × Db :=
  let matched (r : AuthorityDeviceRow) : Bool :=
    r.authorityId = authorityId && (r.lastKnownCtr.all fun last => last < newCtr)
  ((db.authorityDevices.find matched).isSome,
    { db with
      authorityDevices :=
        db.authorityDevices.update matched (fun r => { r with lastKnownCtr := some newCtr })
          fun _ => rfl
      entangled := fun e he =>
        let ⟨d, hd, hid⟩ := db.entangled e he
        ⟨_, Table.mem_update.mpr ⟨d, hd, rfl⟩, by split <;> exact hid⟩ })

def updateTransferredAsset (assetId : String) (currentState previousState : AssetState)
    (newOwnerId : String) : Db :=
  db.updateAsset assetId (fun r =>
    { r with
      currentState := currentState
      previousState := some previousState
      ownerId := some newOwnerId }) fun _ => rfl

def insertTransfer (row : TransferRow) : Except String (Uuid × Db) :=
  if !db.hasAsset row.assetId then .error (missingReference "asset_transfers")
  else
    match db.transfers.insert row with
    | none => .error (duplicateKey "asset_transfers")
    | some transfers => .ok (row.transferId, { db with transfers := transfers })

def selectTransfer (transferId : Uuid) : Option TransferRecord :=
  (db.transfers.find (·.transferId = transferId)).map TransferRow.record

/-- A status is set once: only a pending record takes it. The answer is the record
as written, if there was one. -/
def updateTransferStatus (transferId : Uuid) (targetStatus : String) :
    Option TransferRecord × Db :=
  let matched (r : TransferRow) : Bool := r.transferId = transferId && r.status = "pending"
  let set (r : TransferRow) : TransferRow := { r with status := targetStatus }
  ((db.transfers.find matched).map fun r => (set r).record,
    { db with transfers := db.transfers.update matched set fun _ => rfl })

def insertEvent (row : EventRow) : Except String (Unit × Db) :=
  if !db.hasAsset row.assetId then .error (missingReference "asset_state_events")
  else
    match db.events.insert row with
    | none => .error (duplicateKey "asset_state_events")
    | some events => .ok ((), { db with events := events })

def selectAssetByUid (uid : String) : Option AssetVerifyRow :=
  (db.assetByUid uid).map fun r =>
    ⟨r.assetId, r.brandId, r.productId, uid, r.currentState, r.lastVerifiedCtr, r.epoch,
      r.assetCommitmentId⟩

def selectLastVerifiedCtr (uid : String) : Option (Option Int32) :=
  (db.assetByUid uid).map (·.lastVerifiedCtr)

def updateAssetCtr (assetId : String) (ctr : Int32) : Db :=
  db.updateAsset assetId (fun r => { r with lastVerifiedCtr := some ctr }) fun _ => rfl

/-- `asset_id` is `NOT NULL`, so the event of an unknown tag is refused. -/
def insertVerificationEvent (assetId : Option String)
    (row : String → VerificationEventRow) : Except String (Unit × Db) :=
  match assetId with
  | none => .error "null value in column asset_id violates not-null constraint"
  | some id =>
      if !db.hasAsset id then .error (missingReference "verification_events")
      else .ok ((), { db with verificationEvents := db.verificationEvents ++ [row id] })

def selectCommitmentByUidEpoch (assetUid : String) (epoch : Int32) :
    Option AssetCommitmentRecord :=
  db.commitments.newest fun r => r.assetUid = assetUid ∧ r.epoch = epoch

def selectBrandAttestation (assetCommitmentId : String) : Option AttestationRecord :=
  db.brandAttestations.newest (·.assetCommitmentId = assetCommitmentId)

def selectPlatformAttestation (assetCommitmentId : String) : Option AttestationRecord :=
  db.platformAttestations.newest (·.assetCommitmentId = assetCommitmentId)

end Db

end RcProtocol
