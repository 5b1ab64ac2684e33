import RcProtocol.Api.Events
import RcProtocol.Api.Transfers
import RcProtocol.ChildTag

/-!
The transfer route beside the core's `Transfer`. What the route accepts is told by
its own checks, which know nothing of roles or approvals, and it leaves a previous
state where the core leaves none; so it refines the core where it accepts nothing.
-/

namespace RcProtocol
open Library

/-- The device takes the proof. -/
def AuthorityDeviceRow.Grants (app : AppState) (device : AuthorityDeviceRow) :
    AuthorityProof → Prop
  | .virtualToken userId credentialToken => device.GrantsVirtual app userId credentialToken
  | .physicalNfc uid ctr cmac => ∃ newCtr, device.GrantsPhysical app uid ctr cmac newCtr

namespace TransferCall
variable (app : AppState) (call : TransferCall)

/-- The context the core would be given for this actor and these headers. -/
def auditContext : AuditContext where
  traceId := call.traceId
  actorId := call.actor.actorId
  actorRole := call.actor.actorRole
  actorOrg := call.actor.actorOrg
  idempotencyKey := (requiredHeader call.headers "X-Idempotency-Key").toOption.getD ""
  approvalId := optionalHeader call.headers "X-Approval-Id"
  policyVersion := optionalHeader call.headers "X-Policy-Version"
  buyerId := none

/-- Whenever the transfer succeeds the core would have allowed it, and the record is
left as the core would have left it. -/
def Refines (s : Store) : Prop :=
  ∀ env, (machine.run (call.handle app) env s).answer.status = 200 →
    ∃ stored next event, s.db.selectAssetRecord call.assetId = some stored ∧
      applyAction stored .transfer call.auditContext call.draws.eventId = .ok (next, event) ∧
        (machine.run (call.handle app) env s).state.db.selectAssetRecord call.assetId = some next

/-- The route's own checks, on the stored rows. -/
structure Checked (db : Db) (key : String) (stored : AssetRecord) (owner : String)
    (device : AuthorityDeviceRow) : Prop where
  keyed : requiredHeader call.headers "X-Idempotency-Key" = .ok key
  fetched : db.selectAssetRecord call.assetId = some stored
  owned : db.selectOwner call.assetId = some (some owner)
  owns : call.Owns stored owner
  tag : ∃ epoch message, db.selectEpochByUid call.payload.childUid = some epoch ∧
    call.Presents app stored epoch message
  guarded : db.selectAuthorityDeviceByAsset call.assetId = some device
  grants : device.Grants app call.payload.authorityProof

def Passes (db : Db) : Prop :=
  ∃ key stored owner device, call.Checked app db key stored owner device

/-- The checks pass, and an id for the record is left. -/
def Accepts (db : Db) : Prop :=
  call.Passes app db ∧ ∃ id, ∀ row ∈ db.transfers.rows, row.transferId ≠ id

end TransferCall

section Forward
variable {app : AppState} {id : Uuid} {s s' : Store} {device : AuthorityDeviceRow}
    {assetId : String}

theorem verifyChildTag_evaluates {brandId uidHex ctrHex cmacHex : String} {epoch : Int32}
    {message : SunMessage} (hepoch : s.db.selectEpochByUid uidHex = some epoch)
    (hdecoded : decodeSunMessage "child_" uidHex ctrHex cmacHex = .ok message)
    (htag : checkTag app brandId epoch message = .ok true) :
    machine.Evaluates (quiet id) (verifyChildTag app brandId uidHex ctrHex cmacHex) s (.ok ()) s := by
  have hexec : machine.exec (quiet id) (.selectEpochByUid uidHex) s = (.ok (some epoch), s) := by
    rw [← hepoch]
    rfl
  unfold verifyChildTag
  simp only [hdecoded]
  refine evaluates_attempt_ask hexec rfl ?_
  simp only [htag]
  exact Machine.evaluates_done

theorem fetchAuthorityDeviceByAsset_evaluates {β : Type} {refuse : RcError → β}
    {next : AuthorityDeviceRow → Service β} {b : β}
    (h : s.db.selectAuthorityDeviceByAsset assetId = some device)
    (hnext : machine.Evaluates (quiet id) (next device) s b s') :
    machine.Evaluates (quiet id) ((fetchAuthorityDeviceByAsset assetId).attempt refuse next) s b
      s' := by
  have hexec : machine.exec (quiet id) (.selectAuthorityDeviceByAsset assetId) s =
      (.ok (some device), s) := by
    rw [← h]
    rfl
  exact evaluates_attempt_ask hexec rfl hnext

theorem verifyVirtualAuthority_evaluates {userId credentialToken : String}
    (hdevice : s.db.selectAuthorityDeviceByAsset assetId = some device)
    (h : device.GrantsVirtual app userId credentialToken) :
    machine.Evaluates (quiet id) (verifyVirtualAuthority app assetId userId credentialToken) s
      (.ok device.accepted) s := by
  obtain ⟨kChipMother, hkey, hcomputed⟩ := h.computed
  refine fetchAuthorityDeviceByAsset_evaluates hdevice ?_
  simp only [h.authorityType, h.active, h.bound, h.stored, hkey, hcomputed, ne_eq,
    not_true_eq_false, if_false]
  exact Machine.evaluates_done

theorem authorityDevice_mem (h : s.db.selectAuthorityDeviceByAsset assetId = some device) :
    device ∈ s.db.authorityDevices.rows := by
  unfold Db.selectAuthorityDeviceByAsset at h
  split at h
  · cases h
  · exact Table.mem_of_find h

/-- A fresh counter is one the update takes. -/
theorem updateAuthorityCtr_answer {newCtr : Int32} (hd : device ∈ s.db.authorityDevices.rows)
    (hfresh : device.lastKnownCtr.any (newCtr ≤ ·) = false) :
    (s.db.updateAuthorityCtr device.authorityId newCtr).1 = true := by
  have hlast : device.lastKnownCtr.all (· < newCtr) = true := by
    cases hl : device.lastKnownCtr with
    | none => rfl
    | some last =>
        rw [hl] at hfresh
        simpa using hfresh
  simp only [Db.updateAuthorityCtr, Option.isSome_iff_ne_none]
  intro hnone
  have hno := Table.find_eq_none.mp hnone device hd
  simp [hlast] at hno

theorem verifyPhysicalAuthority_evaluates {uid ctr cmac : String} {newCtr : UInt32}
    (hdevice : s.db.selectAuthorityDeviceByAsset assetId = some device)
    (h : device.GrantsPhysical app uid ctr cmac newCtr) :
    machine.Evaluates (quiet id) (verifyPhysicalAuthority app assetId uid ctr cmac) s
      (.ok device.accepted)
      { s with db := (s.db.updateAuthorityCtr device.authorityId newCtr.toInt32).2 } := by
  obtain ⟨chipUid, hchip, huid⟩ := h.chip
  obtain ⟨message, hmessage, htag⟩ := h.authentic
  have hanswer := updateAuthorityCtr_answer (authorityDevice_mem hdevice) h.fresh
  have hexec : machine.exec (quiet id) (.updateAuthorityCtr device.authorityId newCtr.toInt32) s =
      (.ok true,
        { s with db := (s.db.updateAuthorityCtr device.authorityId newCtr.toInt32).2 }) := by
    rw [← hanswer]
    rfl
  refine fetchAuthorityDeviceByAsset_evaluates hdevice ?_
  simp only [h.authorityType, h.active, hchip, huid, h.counter, h.fresh, hmessage, htag, ne_eq,
    not_true_eq_false, if_false, Bool.false_eq_true]
  exact evaluates_attempt_ask hexec rfl Machine.evaluates_done

/-- An accepted proof leaves the assets and the records of transfers alone. -/
theorem verifyAuthority_evaluates {proof : AuthorityProof}
    (hdevice : s.db.selectAuthorityDeviceByAsset assetId = some device)
    (h : device.Grants app proof) :
    ∃ s', machine.Evaluates (quiet id) (verifyAuthority app assetId proof) s
      (.ok device.accepted) s' ∧ s'.db.assets = s.db.assets ∧ s'.db.transfers = s.db.transfers := by
  cases proof with
  | virtualToken userId credentialToken =>
      exact ⟨s, verifyVirtualAuthority_evaluates hdevice h, rfl, rfl⟩
  | physicalNfc uid ctr cmac =>
      obtain ⟨newCtr, h⟩ := h
      exact ⟨_, verifyPhysicalAuthority_evaluates hdevice h, rfl, rfl⟩

theorem recordTransfer_evaluates {call : TransferCall} {key owner : String} {stored : AssetRecord}
    (hasset : s.db.hasAsset call.assetId = true)
    (hfree : ∀ row ∈ s.db.transfers.rows, row.transferId ≠ id) :
    ∃ s', machine.Evaluates (quiet id)
      (recordTransfer call.draws call.assetId key owner stored call.actor call.headers call.payload)
      s (.ok (.transfer (call.response owner id))) s' := by
  have hinsert : ∃ transfers, s.db.transfers.insert (call.row key owner id) = some transfers := by
    cases hi : s.db.transfers.insert (call.row key owner id) with
    | some transfers => exact ⟨transfers, rfl⟩
    | none =>
        obtain ⟨row, hrow, hid⟩ := Table.insert_eq_none.mp hi
        exact absurd hid (hfree row hrow)
  obtain ⟨transfers, htransfers⟩ := hinsert
  have hdb : s.db.insertTransfer (call.row key owner id) =
      .ok (id, { s.db with transfers := transfers }) := by
    rw [Db.insertTransfer, show (call.row key owner id).assetId = call.assetId from rfl, hasset,
      htransfers]
    rfl
  have hexec : machine.exec (quiet id) (.insertTransfer (call.row key owner)) s =
      (.ok id, { s with db := { s.db with transfers := transfers } }) :=
    command_quiet id (c := fun db => db.insertTransfer (call.row key owner id)) hdb
  exact ⟨_, evaluates_attempt_ask hexec rfl ((Machine.evaluates_perform rfl).map _)⟩

/-- Nothing stops a request the route accepts. -/
theorem TransferCall.Checked.succeeds {call : TransferCall} {key owner : String}
    {stored : AssetRecord} (h : call.Checked app s.db key stored owner device)
    (hid : ∀ row ∈ s.db.transfers.rows, row.transferId ≠ id) :
    ∃ s', machine.Evaluates (quiet id) (call.handle app) s
      (.ok (.transfer (call.response owner id))) s' := by
  obtain ⟨epoch, message, hepoch, hpresents⟩ := h.tag
  have hfetch : machine.exec (quiet id) (.selectAssetRecord call.assetId) s =
      (.ok (some stored), s) := by
    rw [← h.fetched]
    rfl
  have howner : machine.exec (quiet id) (.selectOwner call.assetId) s =
      (.ok (some (some owner)), s) := by
    rw [← h.owned]
    rfl
  have hstate : ¬(stored.currentState ≠ .legallySold ∧ stored.currentState ≠ .transferred) := by
    have := h.owns.state
    tauto
  have hactor : ¬call.actor.actorId ≠ owner := not_not.mpr h.owns.actor
  obtain ⟨t, hverified, hassets, htransfers⟩ :=
    @verifyAuthority_evaluates app id s device call.assetId _ h.guarded h.grants
  have hasset : (t.db.updateTransferredAsset call.assetId .transferred stored.currentState
      call.payload.newOwnerId).hasAsset call.assetId = true := by
    rw [Db.updateTransferredAsset, Db.hasAsset_updateAsset]
    obtain ⟨r, hr, -⟩ := Option.map_eq_some_iff.mp h.fetched
    rw [Db.hasAsset, Db.asset, hassets, ← Db.asset, hr, Option.isSome_some]
  have hfree : ∀ row ∈ (t.db.updateTransferredAsset call.assetId .transferred
      stored.currentState call.payload.newOwnerId).transfers.rows, row.transferId ≠ id :=
    htransfers ▸ hid
  obtain ⟨s', hrecorded⟩ := @recordTransfer_evaluates id ⟨_, t.redis, t.l1⟩ call key owner stored
    hasset hfree
  refine ⟨s', ?_⟩
  unfold TransferCall.handle transferHandler
  simp only [h.keyed]
  refine evaluates_attempt_ask hfetch rfl ?_
  rw [if_neg hstate]
  refine evaluates_attempt_ask howner rfl ?_
  simp only [Option.join_some]
  rw [if_neg hactor]
  refine (verifyChildTag_evaluates hepoch hpresents.decoded hpresents.authentic).attempt ?_
  refine hverified.attempt ?_
  exact evaluates_attempt_ask rfl rfl hrecorded

end Forward

theorem AuthorizedBy.grants {app : AppState} {assetId : String} {proof : AuthorityProof} {log : Log}
    {s s' : Store} (h : AuthorizedBy app assetId proof log) (ht : machine.Trace s log s') :
    ∃ device, s.db.selectAuthorityDeviceByAsset assetId = some device ∧
      device.Grants app proof := by
  cases h with
  | virtual h =>
      obtain ⟨⟨env, hdevice⟩, -⟩ := trace_query ht fun _ _ => query_state _
      exact ⟨_, query_ok hdevice, h⟩
  | physical h =>
      obtain ⟨⟨env, hdevice⟩, -⟩ := trace_query ht fun _ _ => query_state _
      exact ⟨_, query_ok hdevice, _, h⟩

theorem Db.selectAssetRecord_custody {db : Db} {assetId : String} :
    db.selectAssetRecord assetId = (db.custody assetId).map fun c =>
      ⟨assetId, c.brandId, c.currentState, c.previousState⟩ := by
  rw [Db.selectAssetRecord, Db.custody, Option.map_map]
  cases h : db.asset assetId with
  | none => rfl
  | some r => simp [AssetRow.custody, Db.asset_assetId h]

namespace TransferCall
variable {app : AppState} {call : TransferCall} {s s' : Store} {key owner : String}
  {stored : AssetRecord} {log : Log}

/-- What was read before the update was read in the state the request began in. -/
theorem Cleared.checked (h : call.Cleared app key stored owner log) (ht : machine.Trace s log s') :
    ∃ device, call.Checked app s.db key stored owner device := by
  obtain ⟨hstored, howner⟩ := h.reads ht
  obtain ⟨epoch, message, rest, rfl, hpresents, hauthorized⟩ := h.read
  obtain ⟨-, -, hepoch⟩ := trace_checked ht
  obtain ⟨t, hchecked, hrest⟩ := machine.trace_append.mp ht
  have hdb : t.db = s.db := by
    refine trace_unwritten hchecked fun e he => ?_
    simp only [TransferCall.checked, start, List.cons_append, List.nil_append, List.mem_cons,
      List.not_mem_nil, or_false] at he
    obtain rfl | rfl | rfl := he <;> rfl
  obtain ⟨device, hdevice, hgrants⟩ := hauthorized.grants hrest
  exact ⟨device, h.key, hstored, howner, h.owns, ⟨epoch, message, hepoch, hpresents⟩,
    hdb ▸ hdevice, hgrants⟩

theorem accepts_of_run (env : Nat → machine.Env)
    (h : (machine.run (call.handle app) env s).answer.status = 200) : call.Accepts app s.db := by
  obtain ⟨key, owner, stored, log, id, r, hcleared, hlog, -⟩ := call.run_recorded app env s h
  have htrace := machine.run_trace (call.handle app) env s
  rw [hlog, List.append_cons] at htrace
  obtain ⟨t, env', ht, hanswer, -⟩ := machine.trace_split htrace
  have htransfers : t.db.transfers = s.db.transfers := by
    refine trace_transfers ht fun e he => ?_
    obtain he | he := List.mem_append.mp he
    · exact hcleared.writesTransfers e he
    · obtain rfl := List.mem_singleton.mp he
      rfl
  have hchanges := machine_changes env' (call.recorded key owner (.ok id)).op t
  rw [hanswer] at hchanges
  obtain ⟨id', transfers, -, hinsert, -⟩ := hchanges.transfers_insert
  obtain ⟨t', ht', -⟩ := machine.trace_append.mp ht
  obtain ⟨device, hchecked⟩ := hcleared.checked ht'
  refine ⟨⟨key, stored, owner, device, hchecked⟩, id', ?_⟩
  rw [← htransfers]
  intro row hrow
  exact Table.not_clash_of_insert hinsert hrow

theorem passes_of_committed (env : Nat → machine.Env)
    (h : Committed (machine.run (call.handle app) env s).log) : call.Passes app s.db := by
  have htrace := machine.run_trace (call.handle app) env s
  have houtcome := machine.meets_run_answer (call.transferHandler_steps app) env s
  rw [List.nil_append] at houtcome
  generalize (machine.run (call.handle app) env s).answer = reply at *
  generalize (machine.run (call.handle app) env s).log = log at *
  cases houtcome with
  | refused hquiet => exact absurd h (View.not_wrote_iff.mpr hquiet)
  | unrecorded hcleared | recorded hcleared =>
      obtain ⟨t, ht, -⟩ := machine.trace_append.mp htrace
      obtain ⟨device, hchecked⟩ := hcleared.checked ht
      exact ⟨_, _, _, device, hchecked⟩

/-- A transfer that succeeds leaves the state it was made in. -/
theorem run_record (env : Nat → machine.Env)
    (h : (machine.run (call.handle app) env s).answer.status = 200) :
    ∃ stored, s.db.selectAssetRecord call.assetId = some stored ∧
      (stored.currentState = .legallySold ∨ stored.currentState = .transferred) ∧
      (machine.run (call.handle app) env s).state.db.selectAssetRecord call.assetId =
        some ⟨call.assetId, stored.brandId, .transferred, some stored.currentState⟩ := by
  obtain ⟨key, owner, stored, log, id, r, hcleared, hlog, -⟩ := call.run_recorded app env s h
  have htrace := machine.run_trace (call.handle app) env s
  rw [hlog] at htrace
  obtain ⟨t, ht, -⟩ := machine.trace_append.mp htrace
  obtain ⟨hstored, -⟩ := hcleared.reads ht
  obtain ⟨c, hc, hbrand, -, -⟩ := Db.custody_of_selectAssetRecord hstored
  have hafter : ∀ e ∈ [call.recorded key owner (.ok id), call.audited key stored r],
      custodyWrite e = none := by
    intro e he
    simp only [List.mem_cons, List.not_mem_nil, or_false] at he
    obtain rfl | rfl := he <;> rfl
  have hone := custody_one htrace hcleared.quiet hafter rfl call.assetId
  rw [if_pos rfl, hc, Option.map_some] at hone
  refine ⟨stored, hstored, hcleared.owns.state, ?_⟩
  rw [Db.selectAssetRecord_custody, hone, Option.map_some, ← hbrand]

/-- What the core asks of a transfer, and what it makes of the record. -/
theorem applyAction_transfer {record next : AssetRecord} {context : AuditContext} {eventId : Uuid}
    {event : AuditEvent} (h : applyAction record .transfer context eventId = .ok (next, event)) :
    (context.actorRole = .consumer ∨
      context.actorRole = .platform ∧ context.approvalId.isSome = true) ∧
      next.previousState = none := by
  have happlied := applyAction_ok h
  have hrole := happlied.role
  have htarget : next.currentState ≠ .disputed := by
    intro hd
    cases (nextState_disputed.mp (hd ▸ happlied.transition)).1
  constructor
  · cases hr : context.actorRole with
    | consumer => exact .inl rfl
    | platform => exact .inr ⟨rfl, happlied.approved hr rfl⟩
    | factory | brand | moderator =>
        rw [hr] at hrole
        generalize record.currentState = current at hrole
        cases current <;> cases hrole
  · rw [happlied.previousState, if_neg htarget]

theorem applyAction_permitted {record : AssetRecord} {context : AuditContext} {eventId : Uuid}
    (hstate : record.currentState = .legallySold ∨ record.currentState = .transferred)
    (hrole : context.actorRole = .consumer ∨
      context.actorRole = .platform ∧ context.approvalId.isSome = true) :
    ∃ next event, applyAction record .transfer context eventId = .ok (next, event) := by
  have happroved : (context.actorRole = .platform && AssetAction.transfer.isBusiness &&
      context.approvalId.isNone) = false := by
    obtain hr | ⟨hr, ha⟩ := hrole
    · simp [hr]
    · simp [ha]
  have hinitiate : canRoleInitiate context.actorRole record.currentState .transfer = true := by
    obtain hr | ⟨hr, -⟩ := hrole
    · obtain hs | hs := hstate <;> rw [hr, hs] <;> rfl
    · rw [hr]
      rfl
  obtain hs | hs := hstate
  all_goals
    rw [hs] at hinitiate
    simp only [applyAction, hs, happroved, hinitiate]
    exact ⟨_, _, rfl⟩

/-- The core would allow every transfer of the request that succeeds. -/
def Allowed (app : AppState) (call : TransferCall) (s : Store) : Prop :=
  ∀ env, (machine.run (call.handle app) env s).answer.status = 200 →
    ∃ stored next event, s.db.selectAssetRecord call.assetId = some stored ∧
      applyAction stored .transfer call.auditContext call.draws.eventId = .ok (next, event)

/-- The roles the core takes for a transfer. -/
def Permitted (call : TransferCall) : Prop :=
  call.actor.actorRole = .consumer ∨
    call.actor.actorRole = .platform ∧
      (optionalHeader call.headers "X-Approval-Id").isSome = true

/-- The route accepts more than the core: any role, and the platform unapproved. -/
theorem transfer_allowed_iff (app : AppState) (call : TransferCall) (s : Store) :
    call.Allowed app s ↔ (call.Accepts app s.db → call.Permitted) := by
  constructor
  · rintro hallowed ⟨⟨key, stored, owner, device, h⟩, id, hid⟩
    obtain ⟨s', hsucceeds⟩ := h.succeeds hid
    have hstatus := congrArg Reply.status hsucceeds.answer
    obtain ⟨_, _, _, -, happlied⟩ := hallowed _ hstatus
    exact (applyAction_transfer happlied).1
  · intro hpermitted env h
    obtain ⟨stored, hstored, hstate, -⟩ := run_record env h
    have hrole : call.auditContext.actorRole = .consumer ∨
        call.auditContext.actorRole = .platform ∧ call.auditContext.approvalId.isSome = true :=
      hpermitted (accepts_of_run env h)
    obtain ⟨next, event, happlied⟩ := applyAction_permitted hstate hrole
    exact ⟨stored, next, event, hstored, happlied⟩

/-- The route refines the core's transfer exactly where its own checks refuse. -/
theorem transfer_refines_iff (app : AppState) (call : TransferCall) (s : Store) :
    call.Refines app s ↔ ¬call.Accepts app s.db := by
  constructor
  · rintro hrefines ⟨⟨key, stored, owner, device, h⟩, id, hid⟩
    obtain ⟨s', hsucceeds⟩ := h.succeeds hid
    have hstatus := congrArg Reply.status hsucceeds.answer
    obtain ⟨_, next, event, -, happlied, hnext⟩ := hrefines _ hstatus
    obtain ⟨_, -, -, hleft⟩ := run_record _ hstatus
    obtain rfl := Option.some.inj (hnext.symm.trans hleft)
    cases (applyAction_transfer happlied).2
  · intro hrefused env h
    exact absurd (accepts_of_run env h) hrefused

end TransferCall

section Sample

/-- The owner transfers a sold asset, and the row remembers that it was sold. -/
theorem transfer_leaves_previous :
    ¬∀ (app : AppState) (call : TransferCall) (s : Store), call.Refines app s := by
  intro hall
  obtain ⟨stored, next, event, -, happlied, hnext⟩ :=
    hall transferApp ownTagTransfer soldPairStore (fun _ => ({} : Env)) (by decide +kernel)
  have hleft : (machine.run (ownTagTransfer.handle transferApp) (fun _ => ({} : Env))
      soldPairStore).state.db.selectAssetRecord "a" =
        some ⟨"a", "brand", .transferred, some .legallySold⟩ := by decide +kernel
  obtain rfl := Option.some.inj (hnext.symm.trans hleft)
  cases (TransferCall.applyAction_transfer happlied).2

end Sample

end RcProtocol
