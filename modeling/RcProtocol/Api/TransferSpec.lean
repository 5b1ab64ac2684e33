import RcProtocol.Api.Transfer
import RcProtocol.Api.WriteSpec

/-!
What a transfer may call and answer. The asset changes hands in one statement,
after the stored owner, the child tag and the authority proof were checked, each
on the row some earlier statement read; the record and the event come after it.
-/

namespace RcProtocol
open Library

namespace AuthorityDeviceRow
variable (app : AppState) (device : AuthorityDeviceRow)

/-- The virtual card takes the user and the token. -/
structure GrantsVirtual (userId credentialToken : String) : Prop where
  authorityType : device.authorityType = "VIRTUAL_APP"
  active : device.status = "Active"
  bound : device.boundUserId = some userId
  stored : device.virtualCredentialHash = some credentialToken
  computed : ∃ kChipMother,
    app.kms.deriveMotherKey device.brandId (utf8 device.authorityUid)
      device.keyEpoch.toUInt32 = .ok kChipMother ∧
    hexEncode (app.crypto.hmacSha256 kChipMother.toList (utf8 device.authorityUid)).toList =
      credentialToken

/-- The physical card takes the scan, and its counter. -/
structure GrantsPhysical (uidHex ctrHex cmacHex : String) (newCtr : UInt32) : Prop where
  authorityType : device.authorityType = "PHYSICAL_NFC"
  active : device.status = "Active"
  chip : ∃ chipUid, device.physicalChipUid = some chipUid ∧
    upper app.unicodeUpper uidHex = upper app.unicodeUpper chipUid
  counter : parseCtr ctrHex = .ok newCtr
  fresh : device.lastKnownCtr.any (newCtr.toInt32 ≤ ·) = false
  authentic : ∃ message, decodeSunMessage "" uidHex ctrHex cmacHex = .ok message ∧
    checkTag app device.brandId device.keyEpoch message = .ok true

end AuthorityDeviceRow

/-- The calls after which a proof is accepted, with their answers. -/
inductive AuthorizedBy (app : AppState) (assetId : String) : AuthorityProof → Log → Prop
  | virtual {device : AuthorityDeviceRow} {userId credentialToken : String}
      (h : device.GrantsVirtual app userId credentialToken) :
      AuthorizedBy app assetId (.virtualToken userId credentialToken)
        [⟨.selectAuthorityDeviceByAsset assetId, .ok (some device)⟩]
  | physical {device : AuthorityDeviceRow} {uid ctr cmac : String} {newCtr : UInt32}
      (h : device.GrantsPhysical app uid ctr cmac newCtr) :
      AuthorizedBy app assetId (.physicalNfc uid ctr cmac)
        [⟨.selectAuthorityDeviceByAsset assetId, .ok (some device)⟩,
          ⟨.updateAuthorityCtr device.authorityId newCtr.toInt32, .ok true⟩]

inductive AuthorityStep (app : AppState) (assetId : String) : AuthorityProof → Log → Op → Prop
  | device {proof : AuthorityProof} :
      AuthorityStep app assetId proof [] (.selectAuthorityDeviceByAsset assetId)
  | counter {device : AuthorityDeviceRow} {uid ctr cmac : String} {newCtr : UInt32}
      (h : device.GrantsPhysical app uid ctr cmac newCtr) :
      AuthorityStep app assetId (.physicalNfc uid ctr cmac)
        [⟨.selectAuthorityDeviceByAsset assetId, .ok (some device)⟩]
        (.updateAuthorityCtr device.authorityId newCtr.toInt32)

def AuthorityAnswer (app : AppState) (assetId : String) (proof : AuthorityProof) (log : Log)
    (result : Except RcError AuthorizationResult) : Prop :=
  ∀ granted, result = .ok granted → granted.authorized = true →
    AuthorizedBy app assetId proof log

/-- The card whose counter an event moves, and the counter. -/
def counterTaken : Event api → Option (Uuid × Int32)
  | ⟨.updateAuthorityCtr authorityId newCtr, .ok true⟩ => some (authorityId, newCtr)
  | _ => none

/-- How the proof of a physical card ends: it has moved no counter and is not accepted, or
it is accepted with the counter it has moved. -/
inductive PhysicalOutcome (app : AppState) (assetId uid ctr cmac : String) :
    Log → Except RcError AuthorizationResult → Prop
  | failed {log : Log} {err : RcError} (h : ∀ e ∈ log, counterTaken e = none) :
      PhysicalOutcome app assetId uid ctr cmac log (.error err)
  | refused {log : Log} {device : AuthorityDeviceRow} {flag : String}
      (h : ∀ e ∈ log, counterTaken e = none) :
      PhysicalOutcome app assetId uid ctr cmac log (.ok ⟨false, device.authorityType, [flag]⟩)
  | granted {device : AuthorityDeviceRow} {newCtr : UInt32}
      (h : device.GrantsPhysical app uid ctr cmac newCtr) :
      PhysicalOutcome app assetId uid ctr cmac
        [⟨.selectAuthorityDeviceByAsset assetId, .ok (some device)⟩,
          ⟨.updateAuthorityCtr device.authorityId newCtr.toInt32, .ok true⟩]
        (.ok device.accepted)

section Authority
variable {app : AppState} {assetId : String} {log : Log} {proof : AuthorityProof}
  {device : AuthorityDeviceRow}

theorem refused_answer (flag : String) :
    Meets (AuthorityStep app assetId proof) (AuthorityAnswer app assetId proof) log
      (device.refused flag) := by
  rintro _ ⟨⟩ h
  cases h

theorem error_answer (err : RcError) :
    Meets (AuthorityStep app assetId proof) (AuthorityAnswer app assetId proof) log
      (.done (.error err)) := nofun

/-- A proof begins with the device of the asset. -/
theorem fetchAuthorityDeviceByAsset_meets
    {answers : Log → Except RcError AuthorizationResult → Prop}
    {next : AuthorityDeviceRow → Service (Except RcError AuthorizationResult)}
    (herror : ∀ r err, answers [⟨.selectAuthorityDeviceByAsset assetId, r⟩] (.error err))
    (hnext : ∀ device, Meets (AuthorityStep app assetId proof) answers
      [⟨.selectAuthorityDeviceByAsset assetId, .ok (some device)⟩] (next device)) :
    Meets (AuthorityStep app assetId proof) answers []
      ((fetchAuthorityDeviceByAsset assetId).attempt .error next) := by
  refine meets_attempt_ask .device (fun r device hr => ?_) fun r err _ => herror r err
  obtain e | _ | device' := r
  · cases hr
  · cases hr
  · obtain rfl : device' = device := Except.ok.inj hr
    exact hnext _

theorem verifyVirtualAuthority_meets (userId credentialToken : String) :
    Meets (AuthorityStep app assetId (.virtualToken userId credentialToken))
      (AuthorityAnswer app assetId (.virtualToken userId credentialToken)) []
      (verifyVirtualAuthority app assetId userId credentialToken) := by
  refine fetchAuthorityDeviceByAsset_meets (fun r err => nofun) fun device => ?_
  split
  · exact refused_answer _
  next htype =>
  split
  · exact refused_answer _
  next hactive =>
  split
  · exact refused_answer _
  next boundUser hbound =>
  split
  · exact refused_answer _
  next huser =>
  split
  · exact error_answer _
  next kChipMother hkey =>
  split
  · exact error_answer _
  next storedHash hstored =>
  split
  · exact refused_answer _
  next htoken =>
  dsimp only
  split
  · exact refused_answer _
  next hcomputed =>
  intro _ _ _
  rw [not_not] at htype hactive huser htoken hcomputed
  subst huser htoken
  exact .virtual ⟨htype, hactive, hbound, hstored, kChipMother, hkey, hcomputed⟩

theorem verifyPhysicalAuthority_outcome (uidHex ctrHex cmacHex : String) :
    Meets (AuthorityStep app assetId (.physicalNfc uidHex ctrHex cmacHex))
      (PhysicalOutcome app assetId uidHex ctrHex cmacHex) []
      (verifyPhysicalAuthority app assetId uidHex ctrHex cmacHex) := by
  have hread : ∀ r, ∀ e ∈ [(⟨.selectAuthorityDeviceByAsset assetId, r⟩ : Event api)],
      counterTaken e = none := by
    intro r e he
    obtain rfl := List.mem_singleton.mp he
    rfl
  refine fetchAuthorityDeviceByAsset_meets (fun r err => .failed (hread r)) fun device => ?_
  split
  · exact .refused (hread _)
  next htype =>
  split
  · exact .refused (hread _)
  next hactive =>
  split
  · exact .refused (hread _)
  next chipUid hchip =>
  split
  · exact .refused (hread _)
  next huid =>
  split
  · exact .refused (hread _)
  next newCtr hctr =>
  split
  · exact .refused (hread _)
  next hfresh =>
  split
  · exact .failed (hread _)
  next message hmessage =>
  split
  · exact .failed (hread _)
  · exact .refused (hread _)
  next htag =>
  rw [not_not] at htype hactive huid
  have hgrants : device.GrantsPhysical app uidHex ctrHex cmacHex newCtr :=
    ⟨htype, hactive, ⟨chipUid, hchip, huid⟩, hctr, by simpa using hfresh, message, hmessage, htag⟩
  have hlog : ∀ r, r ≠ .ok true →
      ∀ e ∈ [(⟨.selectAuthorityDeviceByAsset assetId, .ok (some device)⟩ : Event api)] ++
        [⟨.updateAuthorityCtr device.authorityId newCtr.toInt32, r⟩], counterTaken e = none := by
    intro r hr e he
    rcases List.mem_append.mp he with he | he
    · exact hread _ e he
    · obtain rfl := List.mem_singleton.mp he
      match r, hr with
      | .ok false, _ => rfl
      | .error err, _ => rfl
  refine meets_attempt_ask (.counter hgrants) (fun r updated hr => ?_) fun r err hr => ?_
  · obtain e | updated' := r
    · cases hr
    obtain rfl : updated' = updated := Except.ok.inj hr
    cases updated' with
    | false => exact .refused (hlog _ nofun)
    | true => exact .granted hgrants
  · refine .failed (hlog r ?_)
    rintro rfl
    cases hr

theorem verifyPhysicalAuthority_meets (uidHex ctrHex cmacHex : String) :
    Meets (AuthorityStep app assetId (.physicalNfc uidHex ctrHex cmacHex))
      (AuthorityAnswer app assetId (.physicalNfc uidHex ctrHex cmacHex)) []
      (verifyPhysicalAuthority app assetId uidHex ctrHex cmacHex) := by
  refine (verifyPhysicalAuthority_outcome uidHex ctrHex cmacHex).mono (fun _ _ h => h) ?_
  intro log result h granted hresult hauthorized
  cases h with
  | failed => cases hresult
  | refused => cases hresult; cases hauthorized
  | granted h => exact .physical h

theorem verifyAuthority_meets (proof : AuthorityProof) :
    Meets (AuthorityStep app assetId proof) (AuthorityAnswer app assetId proof) []
      (verifyAuthority app assetId proof) := by
  cases proof with
  | virtualToken userId credentialToken => exact verifyVirtualAuthority_meets userId credentialToken
  | physicalNfc uid ctr cmac => exact verifyPhysicalAuthority_meets uid ctr cmac

end Authority

/-- The calls of an authority proof. -/
inductive AuthorityCall (assetId : String) (log : Log) : Op → Prop
  | device : AuthorityCall assetId log (.selectAuthorityDeviceByAsset assetId)
  | ctr {device : AuthorityDeviceRow} {newCtr : Int32}
      (hdevice : (⟨.selectAuthorityDeviceByAsset assetId, .ok (some device)⟩ : Event api) ∈ log) :
      AuthorityCall assetId log (.updateAuthorityCtr device.authorityId newCtr)

namespace TransferCall
variable (app : AppState) (call : TransferCall)

/-- The fetched record and the owner read after it. -/
def start (stored : AssetRecord) (owner : String) : Log :=
  [⟨.selectAssetRecord call.assetId, .ok (some stored)⟩,
    ⟨.selectOwner call.assetId, .ok (some (some owner))⟩]

structure Owns (stored : AssetRecord) (owner : String) : Prop where
  state : stored.currentState = .legallySold ∨ stored.currentState = .transferred
  actor : call.actor.actorId = owner

/-- The child tag of the request authenticates under the brand of the fetched
asset and the epoch read for the tag. -/
structure Presents (stored : AssetRecord) (epoch : Int32) (message : SunMessage) : Prop where
  decoded : decodeSunMessage "child_" call.payload.childUid call.payload.childCtr
    call.payload.childCmac = .ok message
  authentic : checkTag app stored.brandId epoch message = .ok true

/-- What was read before the asset changes hands. -/
def checked (stored : AssetRecord) (owner : String) (epoch : Int32) : Log :=
  call.start stored owner ++ [⟨.selectEpochByUid call.payload.childUid, .ok (some epoch)⟩]

def Transferred (log : Log) : Prop :=
  ∃ current previous owner,
    (⟨.updateTransferredAsset call.assetId current previous owner, .ok ()⟩ : Event api) ∈ log

inductive Calls : Log → Op → Prop
  | fetch : Calls [] (.selectAssetRecord call.assetId)
  | owner {stored : AssetRecord} :
      Calls [⟨.selectAssetRecord call.assetId, .ok (some stored)⟩] (.selectOwner call.assetId)
  | epoch {stored : AssetRecord} {owner : String} (h : call.Owns stored owner) :
      Calls (call.start stored owner) (.selectEpochByUid call.payload.childUid)
  | authority {stored : AssetRecord} {owner : String} {epoch : Int32} {message : SunMessage}
      {rest : Log} {op : Op} (h : call.Owns stored owner)
      (ht : call.Presents app stored epoch message)
      (hop : AuthorityCall call.assetId (call.checked stored owner epoch ++ rest) op) :
      Calls (call.checked stored owner epoch ++ rest) op
  | update {stored : AssetRecord} {owner : String} {epoch : Int32} {message : SunMessage}
      {rest : Log} (h : call.Owns stored owner) (ht : call.Presents app stored epoch message)
      (hrest : ∀ e ∈ rest, ∃ log, AuthorityCall call.assetId log e.op) :
      Calls (call.checked stored owner epoch ++ rest)
        (.updateTransferredAsset call.assetId .transferred stored.currentState
          call.payload.newOwnerId)
  | transfer {log : Log} {row : Uuid → TransferRow} (h : call.Transferred log) :
      Calls log (.insertTransfer row)
  | event {log : Log} {row : EventRow} (h : call.Transferred log) :
      Calls log (.insertTransferEvent row)

def Answers (log : Log) (reply : Reply) : Prop := reply.status = 200 → call.Transferred log

/-- The checks of a request have passed, and the log is theirs. -/
structure Cleared (key : String) (stored : AssetRecord) (owner : String) (log : Log) : Prop where
  key : requiredHeader call.headers "X-Idempotency-Key" = .ok key
  owns : call.Owns stored owner
  read : ∃ epoch message rest, log = call.checked stored owner epoch ++ rest ∧
    call.Presents app stored epoch message ∧
      AuthorizedBy app call.assetId call.payload.authorityProof rest

def traceId : Uuid :=
  ((optionalHeader call.headers "X-Trace-Id").bind Uuid.parseStr).getD call.draws.traceId

/-- The record of the transfer under the id the database draws. -/
def row (key owner : String) (id : Uuid) : TransferRow where
  transferId := id
  assetId := call.assetId
  fromUserId := owner
  toUserId := call.payload.newOwnerId
  fromOwnerId := owner
  toOwnerId := call.payload.newOwnerId
  transferType := "CONSUMER_TO_CONSUMER"
  idempotencyKey := key
  traceId := call.traceId.display
  status := "pending"

def eventRow (key : String) (stored : AssetRecord) : EventRow where
  eventId := call.draws.eventId
  assetId := call.assetId
  action := .transfer
  fromState := some stored.currentState
  toState := .transferred
  traceId := call.traceId
  actorId := call.actor.actorId
  actorRole := call.actor.actorRole
  actorOrg := call.actor.actorOrg
  idempotencyKey := key
  approvalId := optionalHeader call.headers "X-Approval-Id"
  policyVersion := optionalHeader call.headers "X-Policy-Version"
  assetCommitmentId := none

def response (owner : String) (id : Uuid) : TransferResponse where
  transferId := id
  assetId := call.assetId
  fromOwnerId := owner
  toOwnerId := call.payload.newOwnerId
  newState := AssetState.transferred.asDbStr

/-- The three writes of a transfer, with their answers. -/
def updated (stored : AssetRecord) (r : Except String Unit) : Event api :=
  ⟨.updateTransferredAsset call.assetId .transferred stored.currentState
    call.payload.newOwnerId, r⟩

def recorded (key owner : String) (r : Except String Uuid) : Event api :=
  ⟨.insertTransfer (call.row key owner), r⟩

def audited (key : String) (stored : AssetRecord) (r : Except String Unit) : Event api :=
  ⟨.insertTransferEvent (call.eventRow key stored), r⟩

inductive Steps : Log → Op → Prop
  | fetch : Steps [] (.selectAssetRecord call.assetId)
  | owner {stored : AssetRecord} :
      Steps [⟨.selectAssetRecord call.assetId, .ok (some stored)⟩] (.selectOwner call.assetId)
  | epoch {stored : AssetRecord} {owner : String} (h : call.Owns stored owner) :
      Steps (call.start stored owner) (.selectEpochByUid call.payload.childUid)
  | authority {stored : AssetRecord} {owner : String} {epoch : Int32} {message : SunMessage}
      {rest : Log} {op : Op} (h : call.Owns stored owner)
      (ht : call.Presents app stored epoch message)
      (hop : AuthorityStep app call.assetId call.payload.authorityProof rest op) :
      Steps (call.checked stored owner epoch ++ rest) op
  | update {key owner : String} {stored : AssetRecord} {log : Log}
      (h : call.Cleared app key stored owner log) :
      Steps log (.updateTransferredAsset call.assetId .transferred stored.currentState
        call.payload.newOwnerId)
  | record {key owner : String} {stored : AssetRecord} {log : Log}
      (h : call.Cleared app key stored owner log) :
      Steps (log ++ [call.updated stored (.ok ())]) (.insertTransfer (call.row key owner))
  | event {key owner : String} {stored : AssetRecord} {log : Log} {id : Uuid}
      (h : call.Cleared app key stored owner log) :
      Steps (log ++ [call.updated stored (.ok ()), call.recorded key owner (.ok id)])
        (.insertTransferEvent (call.eventRow key stored))

/-- How a transfer ends: refused, or after its update without a record, or with one
and an event that may have failed. -/
inductive Outcome : Log → Reply → Prop
  | refused {log : Log} {err : RcError} (h : ∀ e ∈ log, custodyWrite e = none) :
      Outcome log (errorResponse err)
  | unrecorded {key owner e : String} {stored : AssetRecord} {log : Log}
      (h : call.Cleared app key stored owner log) :
      Outcome (log ++ [call.updated stored (.ok ()), call.recorded key owner (.error e)])
        (errorResponse (.database e))
  | recorded {key owner : String} {stored : AssetRecord} {log : Log} {id : Uuid}
      {r : Except String Unit} (h : call.Cleared app key stored owner log) :
      Outcome (log ++ [call.updated stored (.ok ()), call.recorded key owner (.ok id),
        call.audited key stored r]) (.ok (.transfer (call.response owner id)))

end TransferCall

theorem errorResponse_status (err : RcError) : (errorResponse err).status ≠ 200 := by
  cases err <;> simp [errorResponse]

section Authority
variable {app : AppState} {assetId : String} {proof : AuthorityProof} {log : Log} {op : Op}

theorem AuthorityStep.authorityCall (h : AuthorityStep app assetId proof log op) (before : Log) :
    AuthorityCall assetId (before ++ log) op := by
  cases h with
  | device => exact .device
  | counter h => exact .ctr (List.mem_append_right _ (List.mem_singleton_self _))

theorem AuthorizedBy.authorityCall (h : AuthorizedBy app assetId proof log) :
    ∀ e ∈ log, ∃ before, AuthorityCall assetId before e.op := by
  intro e he
  cases h with
  | virtual h =>
      obtain rfl := List.mem_singleton.mp he
      exact ⟨[], .device⟩
  | @physical device _ _ _ _ h =>
      obtain rfl | he := List.mem_cons.mp he
      · exact ⟨[], .device⟩
      · obtain rfl := List.mem_singleton.mp he
        exact ⟨[⟨.selectAuthorityDeviceByAsset assetId, .ok (some device)⟩],
          .ctr (List.mem_singleton_self _)⟩

theorem authorityCall_custody {e : Event api} (h : AuthorityCall assetId log e.op) :
    custodyWrite e = none := by
  obtain ⟨op, a⟩ := e
  cases h <;> rfl

end Authority

namespace TransferCall
variable {app : AppState} {call : TransferCall} {stored : AssetRecord} {key owner : String}
  {epoch : Int32} {log : Log} {op : Op}

/-- What was read before the asset changes hands wrote nothing. -/
theorem checked_quiet {rest : Log} (hrest : ∀ e ∈ rest, custodyWrite e = none) :
    ∀ e ∈ call.checked stored owner epoch ++ rest, custodyWrite e = none := by
  intro e he
  obtain he | he := List.mem_append.mp he
  · simp only [checked, start, List.cons_append, List.nil_append, List.mem_cons,
      List.not_mem_nil, or_false] at he
    obtain rfl | rfl | rfl := he <;> rfl
  · exact hrest e he

/-- The calls of the checks. -/
inductive CheckCall (call : TransferCall) : Op → Prop
  | fetch : CheckCall call (.selectAssetRecord call.assetId)
  | owner : CheckCall call (.selectOwner call.assetId)
  | epoch : CheckCall call (.selectEpochByUid call.payload.childUid)
  | device : CheckCall call (.selectAuthorityDeviceByAsset call.assetId)
  | ctr {authorityId : Uuid} {newCtr : Int32} :
      CheckCall call (.updateAuthorityCtr authorityId newCtr)

theorem Cleared.checks (h : call.Cleared app key stored owner log) :
    ∀ e ∈ log, call.CheckCall e.op := by
  obtain ⟨epoch, message, rest, rfl, -, hauthorized⟩ := h.read
  intro e he
  obtain he | he := List.mem_append.mp he
  · simp only [checked, start, List.cons_append, List.nil_append, List.mem_cons,
      List.not_mem_nil, or_false] at he
    obtain rfl | rfl | rfl := he
    · exact .fetch
    · exact .owner
    · exact .epoch
  · obtain ⟨before, hcall⟩ := hauthorized.authorityCall e he
    obtain ⟨op, r⟩ := e
    cases hcall with
    | device => exact .device
    | ctr => exact .ctr

theorem Cleared.quiet (h : call.Cleared app key stored owner log) :
    ∀ e ∈ log, custodyWrite e = none := by
  intro e he
  have hcall := h.checks e he
  obtain ⟨op, r⟩ := e
  cases hcall <;> rfl

theorem transferred_updated (before after : Log) :
    call.Transferred (before ++ call.updated stored (.ok ()) :: after) :=
  ⟨_, _, _, List.mem_append_right _ (List.mem_cons_self ..)⟩

theorem Steps.calls (h : call.Steps app log op) : call.Calls app log op := by
  cases h with
  | fetch => exact .fetch
  | owner => exact .owner
  | epoch h => exact .epoch h
  | authority h ht hop => exact .authority h ht (hop.authorityCall _)
  | update h =>
      obtain ⟨epoch, message, rest, rfl, ht, hauthorized⟩ := h.read
      exact .update h.owns ht hauthorized.authorityCall
  | record h => exact .transfer (transferred_updated ..)
  | event h => exact .event (transferred_updated ..)

theorem Outcome.answers {reply : Reply} (h : call.Outcome app log reply) :
    call.Answers log reply := by
  cases h with
  | refused h => exact fun hstatus => absurd hstatus (errorResponse_status _)
  | unrecorded h => exact fun hstatus => absurd hstatus (errorResponse_status _)
  | recorded h => exact fun _ => transferred_updated ..

/-- A request that has only read so far may be refused. -/
theorem refused_outcome (err : RcError) (h : ∀ e ∈ log, custodyWrite e = none) :
    Meets (call.Steps app) (call.Outcome app) log (.done (errorResponse err)) :=
  .refused h

theorem recordTransfer_meets (h : call.Cleared app key stored owner log) :
    Meets (call.Steps app) (call.Outcome app) (log ++ [call.updated stored (.ok ())])
      (recordTransfer call.draws call.assetId key owner stored call.actor call.headers
        call.payload) := by
  refine meets_attempt_ask (.record h) (fun r id hr => ?_) fun r e hr => ?_
  · obtain e | id' := r
    · cases hr
    obtain rfl : id' = id := Except.ok.inj hr
    rw [meets_map, List.append_assoc]
    refine ⟨.event h, fun r => ?_⟩
    rw [List.append_assoc]
    exact .recorded h
  · obtain e' | id := r
    · obtain rfl : RcError.database e' = e := Except.error.inj hr
      rw [List.append_assoc]
      exact .unrecorded h
    · cases hr

theorem start_quiet : ∀ e ∈ call.start stored owner, custodyWrite e = none := by
  intro e he
  simp only [start, List.mem_cons, List.not_mem_nil, or_false] at he
  obtain rfl | rfl := he <;> rfl

theorem verifyChildTag_meets {next : Unit → Service Reply} (h : call.Owns stored owner)
    (hnext : ∀ epoch message, call.Presents app stored epoch message →
      Meets (call.Steps app) (call.Outcome app) (call.checked stored owner epoch) (next ())) :
    Meets (call.Steps app) (call.Outcome app) (call.start stored owner)
      ((verifyChildTag app stored.brandId call.payload.childUid call.payload.childCtr
        call.payload.childCmac).attempt errorResponse next) := by
  unfold verifyChildTag
  split
  · exact refused_outcome _ start_quiet
  next message hmessage =>
  have hquiet : ∀ r : Except String (Option Int32), ∀ e ∈ call.start stored owner ++
      [⟨.selectEpochByUid call.payload.childUid, r⟩], custodyWrite e = none := by
    intro r e he
    obtain he | he := List.mem_append.mp he
    · exact start_quiet e he
    · obtain rfl := List.mem_singleton.mp he
      rfl
  rw [meets_attempt]
  refine meets_attempt_ask (.epoch h) (fun r epoch hr => ?_) fun r _ _ => .refused (hquiet r)
  obtain e | _ | epoch' := r
  · cases hr
  · cases hr
  · obtain rfl : epoch' = epoch := Except.ok.inj hr
    split
    · exact refused_outcome _ (hquiet _)
    · exact refused_outcome _ (hquiet _)
    · next htag => exact hnext _ message ⟨hmessage, htag⟩

/-- The authority proof in its place, and the work behind it. -/
theorem authorized_meets {message : SunMessage} {next : AuthorizationResult → Service Reply}
    (h : call.Owns stored owner) (ht : call.Presents app stored epoch message)
    (hrefused : ∀ result log, result.authorized = false → (∀ e ∈ log, custodyWrite e = none) →
      Meets (call.Steps app) (call.Outcome app) log (next result))
    (hgranted : ∀ result rest, result.authorized = true →
      AuthorizedBy app call.assetId call.payload.authorityProof rest →
      Meets (call.Steps app) (call.Outcome app) (call.checked stored owner epoch ++ rest)
        (next result)) :
    Meets (call.Steps app) (call.Outcome app) (call.checked stored owner epoch)
      ((verifyAuthority app call.assetId call.payload.authorityProof).attempt errorResponse
        next) := by
  have hmeets := (@verifyAuthority_meets app call.assetId call.payload.authorityProof).extends
  rw [meets_attempt, ← List.append_nil (call.checked stored owner epoch), meets_append]
  refine hmeets.mono ?_ ?_
  · rintro log op ⟨hop, -⟩
    exact .authority h ht hop
  · rintro log result ⟨hanswer, rest, hlog, hrest⟩
    rw [List.nil_append] at hlog
    subst hlog
    have hquiet : ∀ e ∈ call.checked stored owner epoch ++ log, custodyWrite e = none := by
      refine checked_quiet fun e he => ?_
      obtain ⟨l, hl⟩ := hrest e he
      exact authorityCall_custody (hl.authorityCall [])
    cases result with
    | error e => exact .refused hquiet
    | ok result =>
        by_cases ha : result.authorized = true
        · exact hgranted result log ha (hanswer result rfl ha)
        · exact hrefused result _ (by simpa using ha) hquiet

/-- What a transfer calls in which place, and how it ends. -/
theorem transferHandler_steps (app : AppState) (call : TransferCall) :
    Meets (call.Steps app) (call.Outcome app) [] (call.handle app) := by
  unfold TransferCall.handle transferHandler
  split
  · exact refused_outcome _ fun _ he => absurd he List.not_mem_nil
  next key hkey =>
  have hfetched : ∀ r : Except String (Option AssetRecord),
      ∀ e ∈ ([⟨.selectAssetRecord call.assetId, r⟩] : Log), custodyWrite e = none := by
    intro r e he
    obtain rfl := List.mem_singleton.mp he
    rfl
  refine meets_attempt_ask .fetch (fun r stored hr => ?_) fun r _ _ => .refused (hfetched r)
  obtain e | _ | stored' := r
  · cases hr
  · cases hr
  obtain rfl : stored' = stored := Except.ok.inj hr
  split
  · exact refused_outcome _ (hfetched _)
  next hstate =>
  have howned : ∀ r : Except String (Option (Option String)),
      ∀ e ∈ ([⟨.selectAssetRecord call.assetId, .ok (some stored')⟩,
        ⟨.selectOwner call.assetId, r⟩] : Log), custodyWrite e = none := by
    intro r e he
    simp only [List.mem_cons, List.not_mem_nil, or_false] at he
    obtain rfl | rfl := he <;> rfl
  refine meets_attempt_ask .owner (fun r owner hr => ?_) fun r _ _ => .refused (howned r)
  split
  · exact refused_outcome _ (howned r)
  next currentOwner howner =>
  split
  · exact refused_outcome _ (howned r)
  next hactor =>
  obtain e | owner' := r
  · cases hr
  obtain rfl : owner' = owner := Except.ok.inj hr
  obtain rfl := Option.join_eq_some_iff.mp howner
  have h : call.Owns stored' currentOwner := ⟨by tauto, by simpa using hactor⟩
  refine verifyChildTag_meets h fun epoch message ht => ?_
  refine authorized_meets h ht (fun result log ha hquiet => ?_) fun result rest ha hauthorized => ?_
  · rw [ha, Bool.not_false, if_pos rfl]
    exact refused_outcome _ hquiet
  · rw [ha, Bool.not_true, if_neg Bool.false_ne_true]
    have hcleared : call.Cleared app key stored' currentOwner
        (call.checked stored' currentOwner epoch ++ rest) :=
      ⟨hkey, h, epoch, message, rest, rfl, ht, hauthorized⟩
    refine meets_attempt_ask (.update hcleared) (fun r _ hr => ?_) fun r e hr => .refused ?_
    · obtain e | ⟨⟩ := r
      · cases hr
      · exact recordTransfer_meets hcleared
    · intro e he
      obtain he | he := List.mem_append.mp he
      · exact hcleared.quiet e he
      · obtain rfl := List.mem_singleton.mp he
        obtain e | ⟨⟩ := r
        · rfl
        · cases hr

theorem transferHandler_meets (app : AppState) (call : TransferCall) :
    Meets (call.Calls app) call.Answers [] (call.handle app) :=
  (call.transferHandler_steps app).mono (fun _ _ h => h.calls) fun _ _ h => h.answers

section Traces
variable {s s' : Store}

/-- What a transfer has read before the asset changes hands. -/
theorem trace_checked
    (h : machine.Trace s (call.checked stored owner epoch ++ log) s') :
    s.db.selectAssetRecord call.assetId = some stored ∧
      s.db.selectOwner call.assetId = some (some owner) ∧
        s.db.selectEpochByUid call.payload.childUid = some epoch := by
  obtain ⟨⟨env, hstored⟩, h⟩ := trace_query h fun _ _ => query_state _
  obtain ⟨⟨env', howner⟩, h⟩ := trace_query h fun _ _ => query_state _
  obtain ⟨⟨env'', hepoch⟩, h⟩ := trace_query h fun _ _ => query_state _
  exact ⟨query_ok hstored, query_ok howner, query_ok hepoch⟩

/-- The rows behind the checks are those of the state the request began in. -/
theorem Cleared.reads (h : call.Cleared app key stored owner log)
    (ht : machine.Trace s log s') :
    s.db.selectAssetRecord call.assetId = some stored ∧
      s.db.selectOwner call.assetId = some (some owner) := by
  obtain ⟨epoch, message, rest, rfl, -⟩ := h.read
  obtain ⟨hstored, howner, -⟩ := trace_checked ht
  exact ⟨hstored, howner⟩

end Traces

end TransferCall

end RcProtocol
