import RcProtocol.Api.ProtocolWrite

/-!
Transfers between consumers (routes/transfer.rs) and the authority proof they
ask for (auth/authorization.rs). No step of a transfer is in a transaction with
another.
-/

namespace RcProtocol
open Library

def decodeHex (s message : String) : Except RcError (List UInt8) :=
  match hexDecode s with
  | none => .error (.invalidInput message)
  | some bytes => .ok bytes

def sized (n : Nat) (bytes : List UInt8) (message : String) : Except RcError (Bytes n) :=
  match Bytes.ofList? n bytes with
  | none => .error (.invalidInput message)
  | some b => .ok b

theorem bind_ok {ε α β : Type} {x : Except ε α} {f : α → Except ε β} {b : β}
    (h : x >>= f = .ok b) : ∃ a, x = .ok a ∧ f a = .ok b := by
  cases x with
  | error e => cases h
  | ok a => exact ⟨a, rfl, h⟩

theorem decodeHex_ok {s message : String} {bytes : List UInt8}
    (h : decodeHex s message = .ok bytes) : hexDecode s = some bytes := by
  unfold decodeHex at h
  split at h
  · cases h
  · next hs => rw [hs, Except.ok.inj h]

theorem sized_ok {n : Nat} {bytes : List UInt8} {message : String} {b : Bytes n}
    (h : sized n bytes message = .ok b) : b.toList = bytes := by
  unfold sized at h
  split at h
  · cases h
  · next hs => rw [← Except.ok.inj h, Bytes.toList_of_ofList? hs]

/-- Three hexadecimal parameters as a message; `field` names them in the errors. -/
def decodeSunMessage (field uidHex ctrHex cmacHex : String) : Except RcError SunMessage := do
  let uid ← decodeHex uidHex ("invalid " ++ field ++ "uid hex")
  let ctr ← decodeHex ctrHex ("invalid " ++ field ++ "ctr hex")
  let cmac ← decodeHex cmacHex ("invalid " ++ field ++ "cmac hex")
  let uid ← sized 7 uid (field ++ "uid must be 7 bytes")
  let ctr ← sized 3 ctr (field ++ "ctr must be 3 bytes")
  let cmac ← sized 8 cmac (field ++ "cmac must be 8 bytes")
  .ok ⟨uid, ctr, cmac⟩

def SunMessage.authentic (p : Primitives) (key : Bytes 16) (message : SunMessage) : Bool :=
  p.verifySunMessage key message.uid message.ctr message.cmac

/-- `KMS derive_chip_key` and the CMAC check under the key it returns. -/
def checkTag (app : AppState) (brandId : String) (epoch : Int32) (message : SunMessage) :
    Except RcError Bool :=
  match app.kms.deriveChipKey brandId message.uid epoch.toUInt32 with
  | .error err => .error (.database ("KMS derive_chip_key failed: " ++ err))
  | .ok kChip => .ok (message.authentic app.crypto kChip)

theorem checkTag_ok {app : AppState} {brandId : String} {epoch : Int32} {message : SunMessage}
    (h : checkTag app brandId epoch message = .ok true) :
    ∃ key, app.kms.deriveChipKey brandId message.uid epoch.toUInt32 = .ok key ∧
      app.crypto.verifySunMessage key message.uid message.ctr message.cmac = true := by
  unfold checkTag at h
  split at h
  · cases h
  · next key hkey => exact ⟨key, hkey, Except.ok.inj h⟩

structure AuthorizationResult where
  authorized : Bool
  authorityType : String
  riskFlags : List String
  deriving DecidableEq

section Authority
variable (app : AppState)

def AuthorityDeviceRow.refused (device : AuthorityDeviceRow) (flag : String) :
    Service (Except RcError AuthorizationResult) :=
  .done (.ok ⟨false, device.authorityType, [flag]⟩)

def AuthorityDeviceRow.accepted (device : AuthorityDeviceRow) : AuthorizationResult :=
  ⟨true, device.authorityType, []⟩

def fetchAuthorityDeviceByAsset (assetId : String) : Service (Except RcError AuthorityDeviceRow) :=
  (ask (.selectAuthorityDeviceByAsset assetId)).map (found .assetNotFound)

def verifyVirtualAuthority (assetId userId credentialToken : String) :
    Service (Except RcError AuthorizationResult) :=
  (fetchAuthorityDeviceByAsset assetId).attempt .error fun device =>
    if device.authorityType ≠ "VIRTUAL_APP" then device.refused "wrong_authority_type"
    else if device.status ≠ "Active" then device.refused "authority_device_inactive"
    else
      match device.boundUserId with
      | none => device.refused "no_bound_user"
      | some boundUser =>
          if boundUser ≠ userId then device.refused "user_mismatch"
          else
            match app.kms.deriveMotherKey device.brandId (utf8 device.authorityUid)
              device.keyEpoch.toUInt32 with
            | .error err =>
                .done (.error (.database ("KMS derive_mother_key failed: " ++ err)))
            | .ok kChipMother =>
                let computedHash := hexEncode
                  (app.crypto.hmacSha256 kChipMother.toList (utf8 device.authorityUid)).toList
                match device.virtualCredentialHash with
                | none => .done (.error (.database "virtual_credential_hash is NULL"))
                | some storedHash =>
                    if credentialToken ≠ storedHash then device.refused "credential_mismatch"
                    else if computedHash ≠ storedHash then
                      device.refused "credential_integrity_failure"
                    else .done (.ok device.accepted)

def parseCtr (ctrHex : String) : Except RcError UInt32 :=
  if (utf8 ctrHex).length ≠ 6 then .error (.invalidInput "ctr must be 6 hex characters")
  else do
    let bytes ← decodeHex ctrHex "invalid ctr hex"
    let ctr ← sized 3 bytes "ctr must be 3 bytes"
    .ok ctr.leCounter

def verifyPhysicalAuthority (assetId uidHex ctrHex cmacHex : String) :
    Service (Except RcError AuthorizationResult) :=
  (fetchAuthorityDeviceByAsset assetId).attempt .error fun device =>
    if device.authorityType ≠ "PHYSICAL_NFC" then device.refused "wrong_authority_type"
    else if device.status ≠ "Active" then device.refused "authority_device_inactive"
    else
      match device.physicalChipUid with
      | none => device.refused "missing_physical_chip_uid"
      | some chipUid =>
          if upper app.unicodeUpper uidHex ≠ upper app.unicodeUpper chipUid then
            device.refused "uid_mismatch"
          else
            match parseCtr ctrHex with
            | .error _ => device.refused "invalid_ctr_format"
            | .ok newCtr =>
                if device.lastKnownCtr.any (newCtr.toInt32 ≤ ·) then device.refused "ctr_replay"
                else
                  match decodeSunMessage "" uidHex ctrHex cmacHex with
                  | .error err => .done (.error err)
                  | .ok message =>
                      match checkTag app device.brandId device.keyEpoch message with
                      | .error err => .done (.error err)
                      | .ok false => device.refused "cmac_invalid"
                      | .ok true =>
                          ((ask (.updateAuthorityCtr device.authorityId newCtr.toInt32)).map
                            orDatabase).attempt .error fun updated =>
                              if updated then .done (.ok device.accepted)
                              else device.refused "ctr_replay"

def verifyAuthority (assetId : String) :
    AuthorityProof → Service (Except RcError AuthorizationResult)
  | .virtualToken userId credentialToken =>
      verifyVirtualAuthority app assetId userId credentialToken
  | .physicalNfc uid ctr cmac => verifyPhysicalAuthority app assetId uid ctr cmac

end Authority

/-- `format!("{:?}", …)` of the risk flags. -/
def debugFlags (flags : List String) : String :=
  "[" ++ ", ".intercalate (flags.map fun f => "\"" ++ f ++ "\"") ++ "]"

section Handlers
variable (app : AppState) (draws : Draws)

def verifyChildTag (brandId uidHex ctrHex cmacHex : String) : Service (Except RcError Unit) :=
  match decodeSunMessage "child_" uidHex ctrHex cmacHex with
  | .error err => .done (.error err)
  | .ok message =>
      ((ask (.selectEpochByUid uidHex)).map (found .assetNotFound)).attempt .error fun epoch =>
        match checkTag app brandId epoch message with
        | .error err => .done (.error err)
        | .ok false => .done (.error (.invalidInput "child tag CMAC verification failed"))
        | .ok true => .done (.ok ())

/-- The transfer record and the event, after the asset has changed hands. -/
def recordTransfer (assetId idempotencyKey currentOwner : String) (assetRecord : AssetRecord)
    (actor : ActorContext) (headers : HeaderMap) (payload : TransferRequest) : Service Reply :=
  let traceId := ((optionalHeader headers "X-Trace-Id").bind Uuid.parseStr).getD draws.traceId
  ((ask (.insertTransfer fun id =>
    { transferId := id
      assetId := assetId
      fromUserId := currentOwner
      toUserId := payload.newOwnerId
      fromOwnerId := currentOwner
      toOwnerId := payload.newOwnerId
      transferType := "CONSUMER_TO_CONSUMER"
      idempotencyKey := idempotencyKey
      traceId := traceId.display
      status := "pending" })).map orDatabase).attempt errorResponse fun transferId =>
  (ask (.insertTransferEvent
    { eventId := draws.eventId
      assetId := assetId
      action := .transfer
      fromState := some assetRecord.currentState
      toState := .transferred
      traceId := traceId
      actorId := actor.actorId
      actorRole := actor.actorRole
      actorOrg := actor.actorOrg
      idempotencyKey := idempotencyKey
      approvalId := optionalHeader headers "X-Approval-Id"
      policyVersion := optionalHeader headers "X-Policy-Version"
      assetCommitmentId := none })).map fun _ =>
  .ok (.transfer
    { transferId := transferId
      assetId := assetId
      fromOwnerId := currentOwner
      toOwnerId := payload.newOwnerId
      newState := AssetState.transferred.asDbStr })

def transferHandler (assetId : String) (actor : ActorContext) (headers : HeaderMap)
    (payload : TransferRequest) : Service Reply :=
  match requiredHeader headers "X-Idempotency-Key" with
  | .error err => .done (errorResponse err)
  | .ok idempotencyKey =>
  (fetchAsset assetId).attempt errorResponse fun assetRecord =>
  if assetRecord.currentState ≠ .legallySold ∧ assetRecord.currentState ≠ .transferred then
    .done (errorResponse (.invalidInput
      ("asset in state " ++ assetRecord.currentState.asDbStr ++ " cannot be transferred")))
  else
  ((ask (.selectOwner assetId)).map orDatabase).attempt errorResponse fun owner =>
  match owner.join with
  | none => .done (errorResponse (.invalidInput "asset has no owner"))
  | some currentOwner =>
  if actor.actorId ≠ currentOwner then
    .done (errorResponse (.forbidden "only current owner can transfer"))
  else
  (verifyChildTag app assetRecord.brandId payload.childUid payload.childCtr
    payload.childCmac).attempt errorResponse fun _ =>
  (verifyAuthority app assetId payload.authorityProof).attempt errorResponse fun authResult =>
  if !authResult.authorized then
    .done (errorResponse (.forbidden
      ("authority verification failed: " ++ debugFlags authResult.riskFlags)))
  else
  ((ask (.updateTransferredAsset assetId .transferred assetRecord.currentState
    payload.newOwnerId)).map orDatabase).attempt errorResponse fun _ =>
  recordTransfer draws assetId idempotencyKey currentOwner assetRecord actor headers payload

end Handlers

/-- A request to `transfer_handler`. -/
structure TransferCall where
  assetId : String
  actor : ActorContext
  headers : HeaderMap
  payload : TransferRequest
  draws : Draws

def TransferCall.handle (app : AppState) (call : TransferCall) : Service Reply :=
  transferHandler app call.draws call.assetId call.actor call.headers call.payload

end RcProtocol
