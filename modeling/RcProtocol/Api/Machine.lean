import RcProtocol.Api.Statements
import RcProtocol.Library.Program

/-!
The operations of rc-api and the machine that answers them: statements on the
shared database, the shared Redis, and the counter cache of each process.
-/

namespace RcProtocol
open Library

inductive Op where
  | selectIdempotencyRecord (key : String)
  | selectAssetRecord (assetId : String)
  | selectOwner (assetId : String)
  | persistAction (w : PersistAction)
  | updateProductMapping (assetId externalProductId : String)
      (externalProductName externalProductUrl : Option String)
  | selectActivationSnapshot (assetId : String)
  | insertAssetCommitment (record : AssetCommitmentRecord)
  | bindAssetCommitment (assetId commitmentId : String)
  | insertBrandAttestation (record : AttestationRecord)
  | insertPlatformAttestation (record : AttestationRecord)
  | selectUidEpoch (assetId : String)
  | insertAuthorityDevice (row : Uuid → AuthorityDeviceRow)
  | insertEntanglement (row : Uuid → EntanglementRow)
  | selectDeviceIdByChip (chipUid : String)
  | insertPhysicalDevice (deviceId chipUid brandId : String) (keyEpoch : Int32) (assetId : String)
  | selectEpochByUid (uid : String)
  | selectAuthorityDeviceByAsset (assetId : String)
  | updateAuthorityCtr (authorityId : Uuid) (newCtr : Int32)
  | updateTransferredAsset (assetId : String) (currentState previousState : AssetState)
      (newOwnerId : String)
  | insertTransfer (row : Uuid → TransferRow)
  | insertTransferEvent (row : EventRow)
  | selectTransfer (transferId : Uuid)
  | updateTransferStatus (transferId : Uuid) (targetStatus : String)
  | selectAssetByUid (uid : String)
  | selectLastVerifiedCtr (uid : String)
  | updateAssetCtr (assetId : String) (ctr : Int32)
  | insertVerificationEvent (assetId : Option String) (row : String → VerificationEventRow)
  | selectCommitmentByUidEpoch (assetUid : String) (epoch : Int32)
  | selectBrandAttestation (assetCommitmentId : String)
  | selectPlatformAttestation (assetCommitmentId : String)
  | l1Get (process : Nat) (uid : String)
  | l1Insert (process : Nat) (uid : String) (ctr : UInt32)
  | redisGet (uid : String)
  | redisSetEx (uid : String) (ctr : UInt32)

@[reducible] def Op.Answer : Op → Type
  | .selectIdempotencyRecord _ => Except String (Option IdempotencyRecord)
  | .selectAssetRecord _ => Except String (Option AssetRecord)
  | .selectOwner _ => Except String (Option (Option String))
  | .selectActivationSnapshot _ => Except String (Option ActivationSnapshot)
  | .selectUidEpoch _ => Except String (Option (Option String × Int32))
  | .insertAuthorityDevice _ | .insertEntanglement _ | .insertTransfer _ => Except String Uuid
  | .selectDeviceIdByChip _ => Except String (Option String)
  | .selectEpochByUid _ => Except String (Option Int32)
  | .selectAuthorityDeviceByAsset _ => Except String (Option AuthorityDeviceRow)
  | .updateAuthorityCtr _ _ => Except String Bool
  | .selectTransfer _ | .updateTransferStatus _ _ => Except String (Option TransferRecord)
  | .selectAssetByUid _ => Except String (Option AssetVerifyRow)
  | .selectLastVerifiedCtr _ => Except String (Option (Option Int32))
  | .selectCommitmentByUidEpoch _ _ => Except String (Option AssetCommitmentRecord)
  | .selectBrandAttestation _ | .selectPlatformAttestation _ =>
      Except String (Option AttestationRecord)
  | .l1Get _ _ => Option UInt32
  | .l1Insert _ _ _ => Unit
  | .redisGet _ => Except String (Option UInt32)
  | _ => Except String Unit

abbrev api : Interface := ⟨Op, Op.Answer⟩

abbrev Service (α : Type) := Program api α

abbrev Log := List (Event api)

/-- What the world contributes to one operation: the error the database or Redis
reports instead of answering, the UUID it draws, and whether the cache entry asked
for has expired. A statement that reports an error has had no effect, as PostgreSQL
leaves it: a reply that is lost after the commit is another fault, and left out here. -/
structure Env where
  fails : Option String := none
  uuid : Uuid := .repeated 0
  expired : Bool := false

section Answers
variable {α : Type} (env : Env) (s : Store)

def query (q : Db → α) : Except String α × Store :=
  match env.fails with
  | some e => (.error e, s)
  | none => (.ok (q s.db), s)

def command (c : Db → Except String (α × Db)) : Except String α × Store :=
  match env.fails with
  | some e => (.error e, s)
  | none =>
      match c s.db with
      | .error e => (.error e, s)
      | .ok (a, db) => (.ok a, { s with db := db })

def update (c : Db → Db) : Except String Unit × Store :=
  command env s fun db => .ok ((), c db)

end Answers

def exec (env : Env) (op : Op) (s : Store) : op.Answer × Store :=
  match op with
  | .selectIdempotencyRecord key => query env s (·.selectIdempotencyRecord key)
  | .selectAssetRecord assetId => query env s (·.selectAssetRecord assetId)
  | .selectOwner assetId => query env s (·.selectOwner assetId)
  | .persistAction w => command env s (·.persistAction w)
  | .updateProductMapping assetId productId name url =>
      update env s (·.updateProductMapping assetId productId name url)
  | .selectActivationSnapshot assetId => query env s (·.selectActivationSnapshot assetId)
  | .insertAssetCommitment record => command env s (·.insertAssetCommitment record)
  | .bindAssetCommitment assetId commitmentId =>
      update env s (·.bindAssetCommitment assetId commitmentId)
  | .insertBrandAttestation record => command env s (·.insertBrandAttestation record)
  | .insertPlatformAttestation record => command env s (·.insertPlatformAttestation record)
  | .selectUidEpoch assetId => query env s (·.selectUidEpoch assetId)
  | .insertAuthorityDevice row => command env s (·.insertAuthorityDevice (row env.uuid))
  | .insertEntanglement row => command env s (·.insertEntanglement (row env.uuid))
  | .selectDeviceIdByChip _ => command env s fun _ => .error (undefinedColumn "device_id")
  | .insertPhysicalDevice _ _ _ _ _ =>
      command env s fun _ => .error (undefinedColumn "device_id")
  | .selectEpochByUid uid => query env s (·.selectEpochByUid uid)
  | .selectAuthorityDeviceByAsset assetId => query env s (·.selectAuthorityDeviceByAsset assetId)
  | .updateAuthorityCtr authorityId newCtr =>
      command env s fun db => .ok (db.updateAuthorityCtr authorityId newCtr)
  | .updateTransferredAsset assetId current previous newOwnerId =>
      update env s (·.updateTransferredAsset assetId current previous newOwnerId)
  | .insertTransfer row => command env s (·.insertTransfer (row env.uuid))
  | .insertTransferEvent row => command env s (·.insertEvent row)
  | .selectTransfer transferId => query env s (·.selectTransfer transferId)
  | .updateTransferStatus transferId targetStatus =>
      command env s fun db => .ok (db.updateTransferStatus transferId targetStatus)
  | .selectAssetByUid uid => query env s (·.selectAssetByUid uid)
  | .selectLastVerifiedCtr uid => query env s (·.selectLastVerifiedCtr uid)
  | .updateAssetCtr assetId ctr => update env s (·.updateAssetCtr assetId ctr)
  | .insertVerificationEvent assetId row => command env s (·.insertVerificationEvent assetId row)
  | .selectCommitmentByUidEpoch assetUid epoch =>
      query env s (·.selectCommitmentByUidEpoch assetUid epoch)
  | .selectBrandAttestation commitmentId => query env s (·.selectBrandAttestation commitmentId)
  | .selectPlatformAttestation commitmentId =>
      query env s (·.selectPlatformAttestation commitmentId)
  | .l1Get process uid =>
      if env.expired then (none, s.setL1 process uid none) else (s.l1 process uid, s)
  | .l1Insert process uid ctr => ((), s.setL1 process uid (some ctr))
  | .redisGet uid =>
      match env.fails with
      | some e => (.error e, s)
      | none => if env.expired then (.ok none, s.setRedis uid none) else (.ok (s.redis uid), s)
  | .redisSetEx uid ctr =>
      match env.fails with
      | some e => (.error e, s)
      | none => (.ok (), s.setRedis uid (some ctr))

def machine : Machine api Store where
  Env := Env
  exec := exec

end RcProtocol
