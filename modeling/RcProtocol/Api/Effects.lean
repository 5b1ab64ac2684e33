import RcProtocol.Api.Machine

/-!
What one answered operation does to the tables: which row it writes, which rows
it adds, and that it leaves the others alone. The properties of runs are proved
from these facts and never look into a statement again.
-/

namespace RcProtocol
open Library

section Answers
variable {α : Type} {env : Env} {s s' : Store} {a : α} {e : String}

theorem query_state (q : Db → α) : (query env s q).2 = s := by
  unfold query
  split <;> rfl

theorem query_ok {q : Db → α} (h : (query env s q).1 = .ok a) : q s.db = a := by
  unfold query at h
  split at h
  · cases h
  · exact Except.ok.inj h

theorem command_ok {c : Db → Except String (α × Db)} (h : command env s c = (.ok a, s')) :
    ∃ db, c s.db = .ok (a, db) ∧ s' = { s with db := db } := by
  unfold command at h
  split at h
  · cases h
  · split at h
    · cases h
    · next hc =>
      obtain ⟨ha, rfl⟩ := Prod.mk.inj h
      obtain rfl := Except.ok.inj ha
      exact ⟨_, hc, rfl⟩

theorem command_error {c : Db → Except String (α × Db)} (h : command env s c = (.error e, s')) :
    s' = s := by
  unfold command at h
  split at h
  · exact (Prod.mk.inj h).2.symm
  · split at h
    · exact (Prod.mk.inj h).2.symm
    · cases h

end Answers

namespace Db
variable {db db' : Db} {assetId uid : String}

theorem updateAsset_updateAsset {f g : AssetRow → AssetRow}
    {hf : ∀ r, Keyed.key (f r) = Keyed.key r} {hg : ∀ r, Keyed.key (g r) = Keyed.key r} :
    (db.updateAsset assetId f hf).updateAsset assetId g hg =
      db.updateAsset assetId (fun r => g (f r)) fun r => (hg (f r)).trans (hf r) := by
  simp only [updateAsset, Table.update, List.map_map]
  congr 2
  apply List.map_congr_left
  intro r _
  have hid : (f r).assetId = r.assetId := congrArg Prod.fst (hf r)
  by_cases h : r.assetId = assetId
  · simp [h, hid]
  · simp [h]

theorem updateAsset_congr {f g : AssetRow → AssetRow}
    {hf : ∀ r, Keyed.key (f r) = Keyed.key r} {hg : ∀ r, Keyed.key (g r) = Keyed.key r}
    (h : ∀ r, f r = g r) : db.updateAsset assetId f hf = db.updateAsset assetId g hg := by
  obtain rfl : f = g := funext h
  rfl

theorem hasAsset_updateAsset {assetId' : String} {f : AssetRow → AssetRow}
    {hf : ∀ r, Keyed.key (f r) = Keyed.key r} :
    (db.updateAsset assetId f hf).hasAsset assetId' = db.hasAsset assetId' := by
  simp only [hasAsset]
  by_cases hid : assetId' = assetId
  · rw [hid, asset_updateAsset, Option.isSome_map]
  · rw [asset_updateAsset_other hid]

/-- The transaction as one update of the asset, one event, and the first record
of its idempotency key. -/
theorem persistAction_ok {w : PersistAction} (h : db.persistAction w = .ok ((), db')) :
    ∃ events, db.events.insert w.eventRow = some events ∧
      db.hasAsset w.auditEvent.assetId = true ∧
      db' = { db.updateAsset w.nextRecord.assetId w.apply w.key_apply with
        events := events
        idempotency := (db.idempotency.insert w.idempotencyRow).getD db.idempotency } := by
  simp only [persistAction] at h
  split at h
  · cases h
  · next db₂ hdb₂ =>
    have hkey : db₂ = db.updateAsset w.nextRecord.assetId w.apply w.key_apply := by
      split at hdb₂
      · next ha =>
        split at hdb₂
        · cases hdb₂
        · next buyer hb =>
          rw [← Except.ok.inj hdb₂, updateAsset_updateAsset]
          exact updateAsset_congr fun r => by simp [PersistAction.apply, PersistAction.owner, ha, hb]
      all_goals
        rw [← Except.ok.inj hdb₂]
        try rw [updateAsset_updateAsset]
        exact updateAsset_congr fun r => by
          simp [PersistAction.apply, PersistAction.owner, *]
    subst hkey
    split at h
    · cases h
    · next hasset =>
      split at h
      · cases h
      · next events hevents =>
        obtain ⟨_, rfl⟩ := Prod.mk.inj (Except.ok.inj h)
        rw [hasAsset_updateAsset] at hasset
        exact ⟨events, hevents, by simpa using hasset, rfl⟩

end Db

def isWrite : Event api → Bool
  | ⟨.persistAction _, .ok _⟩ | ⟨.updateProductMapping _ _ _ _, .ok _⟩
  | ⟨.insertAssetCommitment _, .ok _⟩ | ⟨.bindAssetCommitment _ _, .ok _⟩
  | ⟨.insertBrandAttestation _, .ok _⟩ | ⟨.insertPlatformAttestation _, .ok _⟩
  | ⟨.insertAuthorityDevice _, .ok _⟩ | ⟨.insertEntanglement _, .ok _⟩
  | ⟨.updateAuthorityCtr _ _, .ok _⟩ | ⟨.updateTransferredAsset _ _ _ _, .ok _⟩
  | ⟨.insertTransfer _, .ok _⟩ | ⟨.insertTransferEvent _, .ok _⟩
  | ⟨.updateTransferStatus _ _, .ok _⟩
  | ⟨.updateAssetCtr _ _, .ok _⟩ | ⟨.insertVerificationEvent _ _, .ok _⟩ => true
  | _ => false

def Op.isCache : Op → Bool
  | .l1Get _ _ | .l1Insert _ _ _ | .redisGet _ | .redisSetEx _ _ => true
  | _ => false

/-- All that an answered operation can do to the database. -/
inductive Changes : Event api → Db → Db → Prop
  | read {e : Event api} {db : Db} (h : isWrite e = false) : Changes e db db
  | persistAction {w : PersistAction} {db : Db} {events : Table EventRow}
      (hevents : db.events.insert w.eventRow = some events)
      (hasset : db.hasAsset w.auditEvent.assetId = true) :
      Changes ⟨.persistAction w, .ok ()⟩ db
        { db.updateAsset w.nextRecord.assetId w.apply w.key_apply with
          events := events
          idempotency := (db.idempotency.insert w.idempotencyRow).getD db.idempotency }
  | updateProductMapping {db : Db} {assetId productId : String} {name url : Option String} :
      Changes ⟨.updateProductMapping assetId productId name url, .ok ()⟩ db
        (db.updateProductMapping assetId productId name url)
  | bindAssetCommitment {db : Db} {assetId commitmentId : String} :
      Changes ⟨.bindAssetCommitment assetId commitmentId, .ok ()⟩ db
        (db.bindAssetCommitment assetId commitmentId)
  | updateTransferredAsset {db : Db} {assetId owner : String} {current previous : AssetState} :
      Changes ⟨.updateTransferredAsset assetId current previous owner, .ok ()⟩ db
        (db.updateTransferredAsset assetId current previous owner)
  | updateAssetCtr {db : Db} {assetId : String} {ctr : Int32} :
      Changes ⟨.updateAssetCtr assetId ctr, .ok ()⟩ db (db.updateAssetCtr assetId ctr)
  | insertAssetCommitment {db : Db} {record : AssetCommitmentRecord} :
      Changes ⟨.insertAssetCommitment record, .ok ()⟩ db
        { db with commitments := (db.commitments.insert record).getD db.commitments }
  | insertBrandAttestation {db : Db} {record : AttestationRecord} {table : Table AttestationRecord}
      (h : Db.insertAttestation db.brandAttestations record = .ok table) :
      Changes ⟨.insertBrandAttestation record, .ok ()⟩ db { db with brandAttestations := table }
  | insertPlatformAttestation {db : Db} {record : AttestationRecord}
      {table : Table AttestationRecord}
      (h : Db.insertAttestation db.platformAttestations record = .ok table) :
      Changes ⟨.insertPlatformAttestation record, .ok ()⟩ db
        { db with platformAttestations := table }
  | insertAuthorityDevice {db : Db} {row : Uuid → AuthorityDeviceRow} {id answer : Uuid}
      {devices : Table AuthorityDeviceRow} {entangled : Entangled db.entanglements devices}
      (h : db.authorityDevices.insert (row id) = some devices)
      (hanswer : answer = (row id).authorityId) :
      Changes ⟨.insertAuthorityDevice row, .ok answer⟩ db
        { db with authorityDevices := devices, entangled := entangled }
  | insertEntanglement {db : Db} {row : Uuid → EntanglementRow} {id answer : Uuid}
      {entanglements : Table EntanglementRow}
      {entangled : Entangled entanglements db.authorityDevices}
      (h : db.entanglements.insert (row id) = some entanglements) :
      Changes ⟨.insertEntanglement row, .ok answer⟩ db
        { db with entanglements := entanglements, entangled := entangled }
  | updateAuthorityCtr {db : Db} {authorityId : Uuid} {newCtr : Int32} :
      Changes ⟨.updateAuthorityCtr authorityId newCtr, .ok (db.updateAuthorityCtr authorityId newCtr).1⟩
        db (db.updateAuthorityCtr authorityId newCtr).2
  | insertTransfer {db : Db} {row : Uuid → TransferRow} {id answer : Uuid}
      {transfers : Table TransferRow} (h : db.transfers.insert (row id) = some transfers)
      (hanswer : answer = (row id).transferId) :
      Changes ⟨.insertTransfer row, .ok answer⟩ db { db with transfers := transfers }
  | insertTransferEvent {db : Db} {row : EventRow} {events : Table EventRow}
      (h : db.events.insert row = some events) :
      Changes ⟨.insertTransferEvent row, .ok ()⟩ db { db with events := events }
  | updateTransferStatus {db : Db} {transferId : Uuid} {targetStatus : String} :
      Changes ⟨.updateTransferStatus transferId targetStatus,
        .ok (db.updateTransferStatus transferId targetStatus).1⟩
        db (db.updateTransferStatus transferId targetStatus).2
  | insertVerificationEvent {db : Db} {assetId : Option String}
      {row : String → VerificationEventRow} {events : List VerificationEventRow} :
      Changes ⟨.insertVerificationEvent assetId row, .ok ()⟩ db
        { db with verificationEvents := events }

theorem Db.selectAssetRecord_assetId {db : Db} {assetId : String} {stored : AssetRecord}
    (h : db.selectAssetRecord assetId = some stored) : stored.assetId = assetId := by
  obtain ⟨r, hr, rfl⟩ := Option.map_eq_some_iff.mp h
  exact Db.asset_assetId hr

section Inserts
variable {db db' : Db}

theorem changes_persistAction {w : PersistAction} (h : db.persistAction w = .ok ((), db')) :
    Changes ⟨.persistAction w, .ok ()⟩ db db' := by
  obtain ⟨events, hevents, hasset, rfl⟩ := Db.persistAction_ok h
  exact .persistAction hevents hasset

theorem insertAssetCommitment_ok {record : AssetCommitmentRecord}
    (h : db.insertAssetCommitment record = .ok ((), db')) :
    db' = { db with commitments := (db.commitments.insert record).getD db.commitments } := by
  unfold Db.insertAssetCommitment at h
  split at h
  · cases h
  · exact (Prod.mk.inj (Except.ok.inj h)).2.symm

theorem changes_insertAssetCommitment {record : AssetCommitmentRecord}
    (h : db.insertAssetCommitment record = .ok ((), db')) :
    Changes ⟨.insertAssetCommitment record, .ok ()⟩ db db' := by
  rw [insertAssetCommitment_ok h]
  exact .insertAssetCommitment

theorem insertBrandAttestation_ok {record : AttestationRecord}
    (h : db.insertBrandAttestation record = .ok ((), db')) :
    ∃ table, Db.insertAttestation db.brandAttestations record = .ok table ∧
      db' = { db with brandAttestations := table } := by
  unfold Db.insertBrandAttestation at h
  split at h
  · cases h
  · cases ht : Db.insertAttestation db.brandAttestations record with
    | error e => rw [ht] at h; cases h
    | ok table =>
        rw [ht] at h
        exact ⟨table, rfl, (Prod.mk.inj (Except.ok.inj h)).2.symm⟩

theorem changes_insertBrandAttestation {record : AttestationRecord}
    (h : db.insertBrandAttestation record = .ok ((), db')) :
    Changes ⟨.insertBrandAttestation record, .ok ()⟩ db db' := by
  obtain ⟨table, ht, rfl⟩ := insertBrandAttestation_ok h
  exact .insertBrandAttestation ht

theorem insertPlatformAttestation_ok {record : AttestationRecord}
    (h : db.insertPlatformAttestation record = .ok ((), db')) :
    ∃ table, Db.insertAttestation db.platformAttestations record = .ok table ∧
      db' = { db with platformAttestations := table } := by
  unfold Db.insertPlatformAttestation at h
  cases ht : Db.insertAttestation db.platformAttestations record with
  | error e => rw [ht] at h; cases h
  | ok table =>
      rw [ht] at h
      exact ⟨table, rfl, (Prod.mk.inj (Except.ok.inj h)).2.symm⟩

theorem changes_insertPlatformAttestation {record : AttestationRecord}
    (h : db.insertPlatformAttestation record = .ok ((), db')) :
    Changes ⟨.insertPlatformAttestation record, .ok ()⟩ db db' := by
  obtain ⟨table, ht, rfl⟩ := insertPlatformAttestation_ok h
  exact .insertPlatformAttestation ht

theorem changes_insertAuthorityDevice {row : Uuid → AuthorityDeviceRow} {id answer : Uuid}
    (h : db.insertAuthorityDevice (row id) = .ok (answer, db')) :
    Changes ⟨.insertAuthorityDevice row, .ok answer⟩ db db' := by
  simp only [Db.insertAuthorityDevice] at h
  split at h
  · cases h
  · split at h
    · cases h
    · next devices hdevices =>
      obtain ⟨hanswer, rfl⟩ := Prod.mk.inj (Except.ok.inj h)
      exact .insertAuthorityDevice hdevices hanswer.symm

theorem changes_insertEntanglement {row : Uuid → EntanglementRow} {id answer : Uuid}
    (h : db.insertEntanglement (row id) = .ok (answer, db')) :
    Changes ⟨.insertEntanglement row, .ok answer⟩ db db' := by
  simp only [Db.insertEntanglement] at h
  split at h
  · split at h
    · cases h
    · split at h
      · cases h
      · next entanglements hentanglements =>
        obtain ⟨-, rfl⟩ := Prod.mk.inj (Except.ok.inj h)
        exact .insertEntanglement hentanglements
  · cases h

theorem changes_insertTransfer {row : Uuid → TransferRow} {id answer : Uuid}
    (h : db.insertTransfer (row id) = .ok (answer, db')) :
    Changes ⟨.insertTransfer row, .ok answer⟩ db db' := by
  simp only [Db.insertTransfer] at h
  split at h
  · cases h
  · split at h
    · cases h
    · next transfers htransfers =>
      obtain ⟨hanswer, rfl⟩ := Prod.mk.inj (Except.ok.inj h)
      exact .insertTransfer htransfers hanswer.symm

theorem changes_insertEvent {row : EventRow} (h : db.insertEvent row = .ok ((), db')) :
    Changes ⟨.insertTransferEvent row, .ok ()⟩ db db' := by
  simp only [Db.insertEvent] at h
  split at h
  · cases h
  · split at h
    · cases h
    · next events hevents =>
      obtain ⟨-, rfl⟩ := Prod.mk.inj (Except.ok.inj h)
      exact .insertTransferEvent hevents

theorem changes_insertVerificationEvent {assetId : Option String}
    {row : String → VerificationEventRow} (h : db.insertVerificationEvent assetId row = .ok ((), db')) :
    Changes ⟨.insertVerificationEvent assetId row, .ok ()⟩ db db' := by
  simp only [Db.insertVerificationEvent] at h
  split at h
  · cases h
  · split at h
    · cases h
    · obtain ⟨-, rfl⟩ := Prod.mk.inj (Except.ok.inj h)
      exact .insertVerificationEvent

end Inserts

section Exec
variable {env : Env} {s s' : Store}

theorem query_changes {α : Type} {q : Db → α} {r : Except String α}
    (h : query env s q = (r, s')) : s' = s := by
  obtain rfl : (query env s q).2 = s' := congrArg Prod.snd h
  exact query_state q

/-- A statement that fails does nothing, and one that goes through what it says. -/
theorem command_changes {α : Type} {c : Db → Except String (α × Db)} {r : Except String α}
    {event : Except String α → Event api} (herror : ∀ e, isWrite (event (.error e)) = false)
    (hok : ∀ a db, c s.db = .ok (a, db) → Changes (event (.ok a)) s.db db)
    (h : command env s c = (r, s')) : Changes (event r) s.db s'.db := by
  cases r with
  | error e =>
      rw [command_error h]
      exact .read (herror e)
  | ok a =>
      obtain ⟨db, hc, rfl⟩ := command_ok h
      exact hok a db hc

theorem update_changes {c : Db → Db} {r : Except String Unit}
    {event : Except String Unit → Event api} (herror : ∀ e, isWrite (event (.error e)) = false)
    (hok : Changes (event (.ok ())) s.db (c s.db)) (h : update env s c = (r, s')) :
    Changes (event r) s.db s'.db := by
  refine command_changes herror (fun a db hc => ?_) h
  obtain ⟨-, rfl⟩ := Prod.mk.inj (Except.ok.inj hc)
  exact hok

/-- The caches are no part of the database. -/
theorem exec_cache {op : Op} {r : op.Answer} (h : exec env op s = (r, s'))
    (hop : op.isCache = true) : s'.db = s.db := by
  cases op <;> simp only [exec] at h
  case l1Get | redisSetEx =>
      split at h <;> exact (Prod.mk.inj h).2 ▸ rfl
  case l1Insert => exact (Prod.mk.inj h).2 ▸ rfl
  case redisGet =>
      split at h
      · exact (Prod.mk.inj h).2 ▸ rfl
      · split at h <;> exact (Prod.mk.inj h).2 ▸ rfl
  all_goals cases hop

theorem exec_changes {op : Op} {r : op.Answer} (h : exec env op s = (r, s')) :
    Changes ⟨op, r⟩ s.db s'.db := by
  cases op
  case l1Get | l1Insert | redisGet | redisSetEx =>
      rw [exec_cache h rfl]
      exact .read rfl
  all_goals simp only [exec] at h
  case selectIdempotencyRecord | selectAssetRecord | selectOwner | selectActivationSnapshot
    | selectUidEpoch | selectEpochByUid | selectAuthorityDeviceByAsset | selectAssetByUid
    | selectLastVerifiedCtr | selectCommitmentByUidEpoch | selectBrandAttestation
    | selectPlatformAttestation | selectTransfer =>
      rw [query_changes h]
      exact .read rfl
  case updateProductMapping => exact update_changes (fun _ => rfl) .updateProductMapping h
  case bindAssetCommitment => exact update_changes (fun _ => rfl) .bindAssetCommitment h
  case updateTransferredAsset => exact update_changes (fun _ => rfl) .updateTransferredAsset h
  case updateAssetCtr => exact update_changes (fun _ => rfl) .updateAssetCtr h
  case persistAction => exact command_changes (fun _ => rfl) (fun _ _ => changes_persistAction) h
  case insertAssetCommitment =>
      exact command_changes (fun _ => rfl) (fun _ _ => changes_insertAssetCommitment) h
  case insertBrandAttestation =>
      exact command_changes (fun _ => rfl) (fun _ _ => changes_insertBrandAttestation) h
  case insertPlatformAttestation =>
      exact command_changes (fun _ => rfl) (fun _ _ => changes_insertPlatformAttestation) h
  case insertAuthorityDevice =>
      exact command_changes (fun _ => rfl) (fun _ _ => changes_insertAuthorityDevice) h
  case insertEntanglement =>
      exact command_changes (fun _ => rfl) (fun _ _ => changes_insertEntanglement) h
  case selectDeviceIdByChip | insertPhysicalDevice =>
      exact command_changes (fun _ => rfl) (fun _ _ hc => by cases hc) h
  case updateAuthorityCtr =>
      refine command_changes (fun _ => rfl) (fun a db hc => ?_) h
      obtain ⟨rfl, rfl⟩ := Prod.mk.inj (Except.ok.inj hc)
      exact .updateAuthorityCtr
  case insertTransfer => exact command_changes (fun _ => rfl) (fun _ _ => changes_insertTransfer) h
  case insertTransferEvent => exact command_changes (fun _ => rfl) (fun _ _ => changes_insertEvent) h
  case updateTransferStatus =>
      refine command_changes (fun _ => rfl) (fun a db hc => ?_) h
      obtain ⟨rfl, rfl⟩ := Prod.mk.inj (Except.ok.inj hc)
      exact .updateTransferStatus
  case insertVerificationEvent =>
      exact command_changes (fun _ => rfl) (fun _ _ => changes_insertVerificationEvent) h

theorem machine_changes (env : machine.Env) (op : Op) (s : Store) :
    Changes ⟨op, (machine.exec env op s).1⟩ s.db (machine.exec env op s).2.db :=
  exec_changes rfl

/-- A fetched record is the stored one, and fetching changes nothing. -/
theorem exec_selectAssetRecord {assetId : String} {stored : AssetRecord}
    (h : (machine.exec env (.selectAssetRecord assetId) s).1 = .ok (some stored)) :
    s.db.selectAssetRecord assetId = some stored :=
  query_ok h

theorem trace_query {op : Op} {r : op.Answer} {log : Log}
    (h : machine.Trace s (⟨op, r⟩ :: log) s') (hop : ∀ env s, (machine.exec env op s).2 = s) :
    (∃ env, (machine.exec env op s).1 = r) ∧ machine.Trace s log s' := by
  obtain ⟨env, hr, h⟩ := machine.trace_cons.mp h
  rw [hop] at h
  exact ⟨⟨env, hr⟩, h⟩

end Exec

/-- The row an event writes in the table of assets, and what it makes of it. -/
def assetWrite : Event api → Option (String × (AssetRow → AssetRow))
  | ⟨.persistAction w, .ok _⟩ => some (w.nextRecord.assetId, w.apply)
  | ⟨.updateProductMapping assetId productId name url, .ok _⟩ =>
      some (assetId, fun r =>
        { r with
          externalProductId := some productId
          externalProductName := name
          externalProductUrl := url })
  | ⟨.bindAssetCommitment assetId commitmentId, .ok _⟩ =>
      some (assetId, fun r => { r with assetCommitmentId := some commitmentId })
  | ⟨.updateTransferredAsset assetId current previous owner, .ok _⟩ =>
      some (assetId, fun r =>
        { r with
          currentState := current
          previousState := some previous
          ownerId := some owner })
  | ⟨.updateAssetCtr assetId ctr, .ok _⟩ =>
      some (assetId, fun r => { r with lastVerifiedCtr := some ctr })
  | _ => none

theorem assetWrite_of_not_isWrite {e : Event api} (h : isWrite e = false) :
    assetWrite e = none := by
  obtain ⟨op, r⟩ := e
  cases op <;> first | rfl | (cases r <;> first | rfl | cases h)

theorem assetWrite_key {e : Event api} {assetId : String} {f : AssetRow → AssetRow}
    (h : assetWrite e = some (assetId, f)) (r : AssetRow) : Keyed.key (f r) = Keyed.key r := by
  obtain ⟨op, a⟩ := e
  cases op <;> first | cases h | (cases a <;> first | (cases h; rfl) | cases h)

namespace Changes
variable {e : Event api} {db db' : Db}

theorem eq_of_not_isWrite (h : Changes e db db') (hw : isWrite e = false) : db' = db := by
  cases h with
  | read => rfl
  | _ => cases hw

theorem asset (h : Changes e db db') (assetId : String) :
    db'.asset assetId =
      match assetWrite e with
      | some (id, f) => if id = assetId then (db.asset assetId).map f else db.asset assetId
      | none => db.asset assetId := by
  cases h with
  | read h => rw [assetWrite_of_not_isWrite h]
  | @persistAction w => exact @Db.asset_updateAsset_ite _ _ _ _ w.key_apply
  | updateProductMapping | bindAssetCommitment | updateTransferredAsset | updateAssetCtr =>
      simp only [Db.updateProductMapping, Db.bindAssetCommitment, Db.updateTransferredAsset,
        Db.updateAssetCtr, Db.asset_updateAsset_ite, assetWrite]
  | _ => rfl

end Changes

/-- A trace without writes leaves the database as it was. -/
theorem trace_unwritten {s s' : Store} {log : Log} (h : machine.Trace s log s')
    (hlog : ∀ e ∈ log, isWrite e = false) : s'.db = s.db := by
  refine h.invariant (I := fun t => t.db = s.db) rfl ?_
  intro env op t he ht
  exact ((machine_changes env op t).eq_of_not_isWrite (hlog _ he)).trans ht

end RcProtocol
