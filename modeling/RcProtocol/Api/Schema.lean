import RcProtocol.Core.Protocol
import RcProtocol.Crypto.Attestation
import RcProtocol.Library.Table
import Mathlib.Logic.Function.Basic

/-!
The database of rc-api as its migrations leave it: the columns the modelled
statements use, under the primary keys and unique indexes. Columns with a check
constraint have the type of their legal values. The prefixes that new and updated ids of
assets, brands and batches have to carry are left out: the statements do no more with an
id than compare it, and the short ids of the samples stand for prefixed ones. Tables list
rows in the order of insertion.
-/

namespace RcProtocol
open Library

structure AssetRow where
  assetId : String
  brandId : String
  productId : Option String := none
  uid : Option String := none
  currentState : AssetState
  previousState : Option AssetState := none
  ownerId : Option String := none
  lastVerifiedCtr : Option Int32 := none
  epoch : Int32 := 0
  keyEpoch : Int32 := 0
  batchId : Option String := none
  externalProductId : Option String := none
  externalProductName : Option String := none
  externalProductUrl : Option String := none
  assetCommitmentId : Option String := none
  deriving DecidableEq

instance : Keyed AssetRow where
  Key := String × Option String
  key r := (r.assetId, r.uid)
  Clash a b := a.1 = b.1 ∨ (a.2 = b.2 ∧ a.2.isSome = true)
  decClash _ _ := inferInstanceAs (Decidable (_ ∨ _))
  symm := by
    rintro a b (h | ⟨h, hs⟩)
    · exact .inl h.symm
    · exact .inr ⟨h.symm, h ▸ hs⟩

structure EventRow where
  eventId : Uuid
  assetId : String
  action : AssetAction
  fromState : Option AssetState
  toState : AssetState
  traceId : Uuid
  actorId : String
  actorRole : ActorRole
  actorOrg : Option String
  idempotencyKey : String
  approvalId : Option String
  policyVersion : Option String
  assetCommitmentId : Option String
  deriving DecidableEq

instance : Keyed EventRow where
  Key := Uuid
  key r := r.eventId
  Clash a b := a = b
  decClash _ _ := inferInstanceAs (Decidable (_ = _))
  symm h := h.symm

structure IdempotencyRow where
  idempotencyKey : String
  resourceType : String
  resourceId : String
  requestHash : String
  responseSnapshot : Json

instance : Keyed IdempotencyRow where
  Key := String × String
  key r := (r.idempotencyKey, r.resourceType)
  Clash a b := a = b
  decClash _ _ := inferInstanceAs (Decidable (_ = _))
  symm h := h.symm

structure AuthorityDeviceRow where
  authorityId : Uuid
  authorityUid : String
  authorityType : String
  brandId : String
  status : String := "Active"
  keyEpoch : Int32 := 0
  virtualCredentialHash : Option String := none
  boundUserId : Option String := none
  physicalChipUid : Option String := none
  lastKnownCtr : Option Int32 := none
  createdBy : Option String := none
  deriving DecidableEq

instance : Keyed AuthorityDeviceRow where
  Key := Uuid × String
  key r := (r.authorityId, r.authorityUid)
  Clash a b := a.1 = b.1 ∨ a.2 = b.2
  decClash _ _ := inferInstanceAs (Decidable (_ ∨ _))
  symm h := h.imp Eq.symm Eq.symm

structure EntanglementRow where
  entanglementId : Uuid
  assetId : String
  childUid : String
  authorityId : Uuid
  authorityUid : String
  entanglementState : String := "Active"
  boundBy : String
  deriving DecidableEq

instance : Keyed EntanglementRow where
  Key := Uuid × String × String
  key r := (r.entanglementId, r.assetId, r.entanglementState)
  Clash a b := a.1 = b.1 ∨ (a.2 = b.2 ∧ a.2.2 = "Active")
  decClash _ _ := inferInstanceAs (Decidable (_ ∨ _))
  symm := by
    rintro a b (h | ⟨h, hs⟩)
    · exact .inl h.symm
    · exact .inr ⟨h.symm, h ▸ hs⟩

instance : Keyed AssetCommitmentRecord where
  Key := String
  key r := r.commitmentId
  Clash a b := a = b
  decClash _ _ := inferInstanceAs (Decidable (_ = _))
  symm h := h.symm

instance : Keyed AttestationRecord where
  Key := String × String × String
  key r := (r.attestationId, r.assetCommitmentId, r.statement)
  Clash a b := a.1 = b.1 ∨ a.2 = b.2
  decClash _ _ := inferInstanceAs (Decidable (_ ∨ _))
  symm h := h.imp Eq.symm Eq.symm

structure TransferRow where
  transferId : Uuid
  assetId : String
  fromUserId : String
  toUserId : String
  fromOwnerId : String
  toOwnerId : String
  transferType : String
  idempotencyKey : String
  traceId : String
  status : String
  deriving DecidableEq

instance : Keyed TransferRow where
  Key := Uuid
  key r := r.transferId
  Clash a b := a = b
  decClash _ _ := inferInstanceAs (Decidable (_ = _))
  symm h := h.symm

structure VerificationEventRow where
  uid : String
  assetId : String
  ctr : Int32
  verificationStatus : String
  riskFlags : List String
  cmacValid : Bool
  assetCommitmentId : Option String := none
  verificationVersion : Option String := none
  brandAttestationStatus : Option String := none
  platformAttestationStatus : Option String := none
  deriving DecidableEq

/-- Every entanglement references a stored authority device. -/
def Entangled (entanglements : Table EntanglementRow) (devices : Table AuthorityDeviceRow) :
    Prop :=
  ∀ e ∈ entanglements.rows, ∃ d ∈ devices.rows, d.authorityId = e.authorityId

theorem entangled_empty : Entangled .empty .empty := fun _ h => absurd h List.not_mem_nil

structure Db where
  brands : List String
  assets : Table AssetRow := .empty
  events : Table EventRow := .empty
  idempotency : Table IdempotencyRow := .empty
  authorityDevices : Table AuthorityDeviceRow := .empty
  entanglements : Table EntanglementRow := .empty
  commitments : Table AssetCommitmentRecord := .empty
  brandAttestations : Table AttestationRecord := .empty
  platformAttestations : Table AttestationRecord := .empty
  transfers : Table TransferRow := .empty
  verificationEvents : List VerificationEventRow := []
  entangled : Entangled entanglements authorityDevices := by exact entangled_empty

namespace Db

def asset (db : Db) (assetId : String) : Option AssetRow :=
  db.assets.find (·.assetId = assetId)

def assetByUid (db : Db) (uid : String) : Option AssetRow :=
  db.assets.find (·.uid = some uid)

def hasAsset (db : Db) (assetId : String) : Bool := (db.asset assetId).isSome

/-- `UPDATE assets SET … WHERE asset_id = $1`, of any columns but the keys. -/
def updateAsset (db : Db) (assetId : String) (f : AssetRow → AssetRow)
    (hf : ∀ r, Keyed.key (f r) = Keyed.key r) : Db :=
  { db with assets := db.assets.update (·.assetId = assetId) f hf }

variable {db : Db} {assetId assetId' uid : String} {r : AssetRow}

theorem asset_assetId (h : db.asset assetId = some r) : r.assetId = assetId := by
  simpa using Table.prop_of_find h

theorem asset_mem (h : db.asset assetId = some r) : r ∈ db.assets.rows :=
  Table.mem_of_find h

theorem asset_of_mem (h : r ∈ db.assets.rows) : db.asset r.assetId = some r :=
  Table.find_eq_some h (by simp) fun a _ ha =>
    .inl (show a.assetId = r.assetId by simpa using ha)

theorem assetByUid_uid (h : db.assetByUid uid = some r) : r.uid = some uid := by
  simpa using Table.prop_of_find h

theorem assetByUid_mem (h : db.assetByUid uid = some r) : r ∈ db.assets.rows :=
  Table.mem_of_find h

theorem assetByUid_of_mem (h : r ∈ db.assets.rows) (hu : r.uid = some uid) :
    db.assetByUid uid = some r := by
  refine Table.find_eq_some h (by simpa using hu) fun a _ ha => .inr ?_
  have ha : a.uid = some uid := by simpa using ha
  exact ⟨ha.trans hu.symm, by simp [Keyed.key, ha]⟩

section Update
variable {f : AssetRow → AssetRow} {hf : ∀ r, Keyed.key (f r) = Keyed.key r}

theorem asset_updateAsset :
    (db.updateAsset assetId f hf).asset assetId = (db.asset assetId).map f := by
  have hq : ∀ r, decide ((f r).assetId = assetId) = decide (r.assetId = assetId) := fun r => by
    rw [show (f r).assetId = r.assetId from congrArg Prod.fst (hf r)]
  rw [asset, updateAsset, Table.find_update hq]
  cases h : db.assets.find (·.assetId = assetId) with
  | none => simp [asset, h]
  | some r => simp [asset, h, show r.assetId = assetId by simpa using Table.prop_of_find h]

theorem asset_updateAsset_other (h : assetId' ≠ assetId) :
    (db.updateAsset assetId f hf).asset assetId' = db.asset assetId' := by
  have hq : ∀ r, decide ((f r).assetId = assetId') = decide (r.assetId = assetId') := fun r => by
    rw [show (f r).assetId = r.assetId from congrArg Prod.fst (hf r)]
  rw [asset, updateAsset, Table.find_update hq]
  cases hr : db.assets.find (·.assetId = assetId') with
  | none => simp [asset, hr]
  | some r =>
      have hid : r.assetId = assetId' := by simpa using Table.prop_of_find hr
      simp [asset, hr, hid, h]

theorem asset_updateAsset_ite :
    (db.updateAsset assetId f hf).asset assetId' =
      if assetId = assetId' then (db.asset assetId').map f else db.asset assetId' := by
  split
  · next h => rw [h, asset_updateAsset]
  · next h => rw [asset_updateAsset_other (Ne.symm h)]

theorem updateAsset_eq_self (h : ∀ r, db.asset assetId = some r → f r = r) :
    db.updateAsset assetId f hf = db := by
  have hassets : db.assets.update (·.assetId = assetId) f hf = db.assets := by
    apply Table.update_eq_self
    intro r hr hid
    have hid : r.assetId = assetId := by simpa using hid
    exact h r (hid ▸ asset_of_mem hr)
  rw [updateAsset, hassets]

end Update

end Db

/-- The database, the Redis counters, and each process's own counters. -/
structure Store where
  db : Db
  redis : String → Option UInt32 := fun _ => none
  l1 : Nat → String → Option UInt32 := fun _ _ => none

namespace Store

def setRedis (s : Store) (uid : String) (ctr : Option UInt32) : Store :=
  { s with redis := Function.update s.redis uid ctr }

def setL1 (s : Store) (process : Nat) (uid : String) (ctr : Option UInt32) : Store :=
  { s with l1 := Function.update s.l1 process (Function.update (s.l1 process) uid ctr) }

@[simp] theorem setRedis_db (s : Store) (uid : String) (ctr : Option UInt32) :
    (s.setRedis uid ctr).db = s.db := rfl

@[simp] theorem setL1_db (s : Store) (process : Nat) (uid : String) (ctr : Option UInt32) :
    (s.setL1 process uid ctr).db = s.db := rfl

end Store

end RcProtocol
