import RcProtocol.Api.Transfer

/-!
Verification of a scanned tag (routes/verify.rs) and the three-level counter
cache it reads (cache/ctr_cache.rs). The counter is read before it is written,
and the write does not look at the stored value.
-/

namespace RcProtocol
open Library

section Cache
variable (app : AppState)

def backfillL2 (uid : String) (ctr : UInt32) : Service Unit :=
  if app.redisAvailable then (ask (.redisSetEx uid ctr)).map fun _ => () else .done ()

/-- The database, when neither cache has the counter; both are filled. -/
def getCtrL3 (uid : String) : Service (Except RcError UInt32) :=
  ((ask (.selectLastVerifiedCtr uid)).map orDatabase).attempt .error fun stored =>
    let ctr := (stored.join.getD 0).toUInt32
    (ask (.l1Insert app.process uid ctr)).bind fun _ =>
    (backfillL2 app uid ctr).map fun _ => .ok ctr

/-- A Redis that does not answer counts as a miss. -/
def getCtr (uid : String) : Service (Except RcError UInt32) :=
  (ask (.l1Get app.process uid)).bind fun
    | some ctr => .done (.ok ctr)
    | none =>
        if app.redisAvailable then
          (ask (.redisGet uid)).bind fun
            | .ok (some ctr) =>
                (ask (.l1Insert app.process uid ctr)).map fun _ => .ok ctr
            | _ => getCtrL3 app uid
        else getCtrL3 app uid

def updateCtr (uid : String) (newCtr : UInt32) : Service Unit :=
  (ask (.l1Insert app.process uid newCtr)).bind fun _ => backfillL2 app uid newCtr

end Cache

structure Summary where
  assetCommitmentId : Option String
  brand : String
  platform : String
  errorCodes : List String
  deriving DecidableEq

/-- The verdict on a stored attestation of either kind: its payload has to be
signed with the configured key, to be about the commitment, to come from the
issuer, and to agree with the columns of its row. -/
def AttestationKind.validate (kind : AttestationKind) (p : Primitives) (commitmentId : String)
    (record : AttestationRecord) (issuer : Except RcError (String × Bytes 32)) :
    Except RcError String :=
  match kind.fromValue record.canonicalPayload with
  | none => .ok "invalid"
  | some payload => do
      let (issuerId, signingKey) ← issuer
      let valid ← kind.verify p payload record.signature (p.verifyingKey signingKey)
      let fields := payload.assetCommitmentId = commitmentId ∧ payload.issuerId = issuerId ∧
        payload.keyId = record.keyId ∧ payload.statement = record.statement ∧
        payload.version = record.version
      .ok (if valid ∧ fields then "valid" else "invalid")

section Attestations
variable (app : AppState)

def resolveAssetCommitmentId (asset : AssetVerifyRow) : Service (Except RcError (Option String)) :=
  match asset.assetCommitmentId with
  | some id => .done (.ok (some id))
  | none =>
      (ask (.selectCommitmentByUidEpoch asset.uid asset.epoch)).map fun r =>
        (orDatabase r).map fun record => record.map (·.commitmentId)

def brandIssuer (brandId : String) : Except RcError (String × Bytes 32) :=
  (loadBrandSigningKey app.crypto app.env).map fun (_, key) => (brandId, key)

def platformIssuer : Except RcError (String × Bytes 32) :=
  (loadPlatformSigningKey app.crypto app.env).map fun (platformId, _, key) => (platformId, key)

def validateBrandAttestation (asset : AssetVerifyRow) (commitmentId : String) :
    Service (Except RcError String) :=
  ((ask (.selectBrandAttestation commitmentId)).map orDatabase).attempt .error fun
    | none => .done (.ok "missing")
    | some record =>
        .done (brandAttestation.validate app.crypto commitmentId record
          (brandIssuer app asset.brandId))

def validatePlatformAttestation (commitmentId : String) : Service (Except RcError String) :=
  ((ask (.selectPlatformAttestation commitmentId)).map orDatabase).attempt .error fun
    | none => .done (.ok "missing")
    | some record =>
        .done (platformAttestation.validate app.crypto commitmentId record (platformIssuer app))

def attestationErrors (missing invalid : String) : String → List String
  | "missing" => [missing]
  | "invalid" => [invalid]
  | _ => []

def buildSummary (asset : AssetVerifyRow) : Service (Except RcError Summary) :=
  (resolveAssetCommitmentId asset).attempt .error fun
    | none => .done (.ok ⟨none, "missing", "missing", ["ASSET_COMMITMENT_NOT_FOUND"]⟩)
    | some commitmentId =>
        (validateBrandAttestation app asset commitmentId).attempt .error fun brand =>
        (validatePlatformAttestation app commitmentId).attempt .error fun platform =>
        .done (.ok ⟨some commitmentId, brand, platform,
          attestationErrors "BRAND_ATTESTATION_MISSING" "BRAND_ATTESTATION_INVALID" brand ++
            attestationErrors "PLATFORM_ATTESTATION_MISSING" "PLATFORM_ATTESTATION_INVALID"
              platform⟩)

end Attestations

def parseSunParams (params : VerifyParams) : Except RcError SunMessage := do
  let uidHex ← params.uid.elim (.error (.invalidInput "missing parameter: uid")) .ok
  let ctrHex ← params.ctr.elim (.error (.invalidInput "missing parameter: ctr")) .ok
  let cmacHex ← params.cmac.elim (.error (.invalidInput "missing parameter: cmac")) .ok
  let uid ← decodeHex uidHex "invalid uid hex format"
  let ctr ← decodeHex ctrHex "invalid ctr hex format"
  let cmac ← decodeHex cmacHex "invalid cmac hex format"
  let uid ← sized 7 uid "uid must be 7 bytes (14 hex chars)"
  let ctr ← sized 3 ctr "ctr must be 3 bytes (6 hex chars)"
  let cmac ← sized 8 cmac "cmac must be 8 bytes (16 hex chars)"
  .ok ⟨uid, ctr, cmac⟩

def SunMessage.ctrValue (message : SunMessage) : UInt32 := message.ctr.leCounter

def isDegradedMode (params : VerifyParams) : Bool :=
  params.uid.isSome && params.ctr.isNone && params.cmac.isNone

def evaluateStatus : AssetState → String × List String
  | .activated | .legallySold | .transferred => ("display_allowed", [])
  | .disputed => ("restricted", ["frozen_asset"])
  | .tampered | .compromised | .destructed => ("restricted", [])
  | _ => ("display_allowed", [])

def v2Error : VerificationV2Response where
  tagAuthentication := "error"
  verificationStatus := "error"

def failedResponse (status : Nat) (v2 : Bool) : Reply :=
  if v2 then ⟨status, .verifyV2 v2Error⟩ else ⟨status, .verify { verificationStatus := "error" }⟩

def badRequest (v2 : Bool) : Reply := failedResponse 400 v2

def serverError (v2 : Bool) : Reply := failedResponse 500 v2

def unknownTag (v2 : Bool) : Reply :=
  if v2 then
    .ok (.verifyV2 { tagAuthentication := "unknown_tag", verificationStatus := "unknown_tag" })
  else .ok (.verify { verificationStatus := "unknown_tag" })

def AssetVerifyRow.info (asset : AssetVerifyRow) (assetCommitmentId : Option String) :
    VerifyAssetInfo where
  assetId := asset.assetId
  brandId := asset.brandId
  productId := asset.productId
  uid := asset.uid
  currentState := asset.currentState.asDbStr
  assetCommitmentId := assetCommitmentId

section Handlers
variable (app : AppState)

def fetchAssetByUid (uid : String) : Service (Except RcError AssetVerifyRow) :=
  (ask (.selectAssetByUid uid)).map (found .assetNotFound)

def insertVerificationEvent (uid : String) (assetId : Option String) (ctr : Int32)
    (status : String) (riskFlags : List String) (cmacValid : Bool) : Service Unit :=
  (ask (.insertVerificationEvent assetId fun id =>
    { uid := uid
      assetId := id
      ctr := ctr
      verificationStatus := status
      riskFlags := riskFlags
      cmacValid := cmacValid })).map fun _ => ()

def handleDegraded (uidHex : String) (v2 : Bool) : Service Reply :=
  (fetchAssetByUid uidHex).bind fun
    | .ok asset =>
        if v2 then
          (buildSummary app asset).attempt (fun _ => serverError true) fun s =>
            .done (.ok (.verifyV2
              { tagAuthentication := "not_performed"
                assetCommitmentId := s.assetCommitmentId
                brandAttestation := s.brand
                platformAttestation := s.platform
                currentState := some asset.currentState.asDbStr
                verificationStatus := "unverified"
                errorCodes := s.errorCodes
                asset := some (asset.info s.assetCommitmentId) }))
        else .done (.ok (.verify { verificationStatus := "unverified" }))
    | .error .assetNotFound => .done (unknownTag v2)
    | .error _ => .done (serverError v2)

/-- The verdict of a V2 scan with a valid CMAC. -/
def v2Status (replay : Bool) (s : Summary) (stateStatus : String) : String :=
  if replay then "replay_suspected"
  else if s.brand ≠ "valid" ∨ s.platform ≠ "valid" then "incomplete_attestation"
  else if stateStatus = "restricted" then "restricted"
  else "authentic"

def answerV2 (uidHex : String) (asset : AssetVerifyRow) (newCtr : UInt32)
    (previousCtr : Option UInt32) (replay : Bool) (now : String) : Service Reply :=
  (buildSummary app asset).attempt (fun _ => serverError true) fun s =>
    let riskFlags := (if replay then ["replay_suspected"] else []) ++
      (evaluateStatus asset.currentState).2
    let status := v2Status replay s (evaluateStatus asset.currentState).1
    (ask (.insertVerificationEvent (some asset.assetId) fun id =>
      { uid := uidHex
        assetId := id
        ctr := newCtr.toInt32
        verificationStatus := status
        riskFlags := riskFlags
        cmacValid := true
        assetCommitmentId := s.assetCommitmentId
        verificationVersion := some "v2"
        brandAttestationStatus := some s.brand
        platformAttestationStatus := some s.platform })).map fun _ =>
    .ok (.verifyV2
      { tagAuthentication := if replay then "replay_suspected" else "passed"
        assetCommitmentId := s.assetCommitmentId
        brandAttestation := s.brand
        platformAttestation := s.platform
        currentState := some asset.currentState.asDbStr
        riskFlags := riskFlags
        verificationStatus := status
        errorCodes := s.errorCodes ++ if replay then ["REPLAY_SUSPECTED"] else []
        asset := some (asset.info s.assetCommitmentId)
        scanMetadata := some ⟨newCtr, previousCtr, now⟩ })

def answerV1 (uidHex : String) (asset : AssetVerifyRow) (newCtr : UInt32)
    (previousCtr : Option UInt32) (replay : Bool) (now : String) : Service Reply :=
  let riskFlags := (if replay then ["replay_suspected"] else []) ++
    (evaluateStatus asset.currentState).2
  let status :=
    if replay then "replay_suspected"
    else if (evaluateStatus asset.currentState).1 = "restricted" then "restricted"
    else "verified"
  (insertVerificationEvent uidHex (some asset.assetId) newCtr.toInt32 status riskFlags true).map
    fun _ => .ok (.verify
      { verificationStatus := status
        riskFlags := riskFlags
        asset := some (asset.info none)
        scanMetadata := some ⟨newCtr, previousCtr, now⟩ })

def answerScan (uidHex : String) (asset : AssetVerifyRow) (newCtr : UInt32)
    (previousCtr : Option UInt32) (replay v2 : Bool) (now : String) : Service Reply :=
  if v2 then answerV2 app uidHex asset newCtr previousCtr replay now
  else answerV1 uidHex asset newCtr previousCtr replay now

/-- The counter check of a scan with a valid CMAC, and the update it ends in. -/
def checkCounter (uidHex : String) (asset : AssetVerifyRow) (newCtr : UInt32) (v2 : Bool)
    (now : String) : Service Reply :=
  (getCtr app uidHex).attempt (fun _ => serverError v2) fun cachedCtr =>
    let previousCtr := if cachedCtr = 0 then none else some cachedCtr
    if newCtr ≤ cachedCtr ∧ cachedCtr > 0 then
      answerScan app uidHex asset newCtr previousCtr true v2 now
    else
      (ask (.updateAssetCtr asset.assetId newCtr.toInt32)).attempt (fun _ => serverError v2)
        fun _ =>
      (updateCtr app uidHex newCtr).bind fun _ =>
      answerScan app uidHex asset newCtr previousCtr false v2 now

def authenticationFailed (asset : AssetVerifyRow) (v2 : Bool) : Reply :=
  if v2 then
    .ok (.verifyV2
      { tagAuthentication := "failed"
        currentState := some asset.currentState.asDbStr
        verificationStatus := "authentication_failed"
        errorCodes := ["TAG_AUTHENTICATION_FAILED"] })
  else .ok (.verify { verificationStatus := "authentication_failed" })

def handleFullVerify (uidHex : String) (parsed : SunMessage) (v2 : Bool) (now : String) :
    Service Reply :=
  (fetchAssetByUid uidHex).bind fun
    | .ok asset =>
        match checkTag app asset.brandId asset.epoch parsed with
        | .error _ => .done (serverError v2)
        | .ok false =>
            (insertVerificationEvent uidHex (some asset.assetId) parsed.ctrValue.toInt32
              "authentication_failed" [] false).map fun _ => authenticationFailed asset v2
        | .ok true => checkCounter app uidHex asset parsed.ctrValue v2 now
    | .error .assetNotFound =>
        (insertVerificationEvent uidHex none parsed.ctrValue.toInt32 "unknown_tag" [] false).map
          fun _ => unknownTag v2
    | .error _ => .done (serverError v2)

def verifyImpl (params : VerifyParams) (v2 : Bool) (now : String) : Service Reply :=
  match params.uid with
  | none => .done (badRequest v2)
  | some uidHex =>
      if isDegradedMode params then handleDegraded app uidHex v2
      else
        match parseSunParams params with
        | .error _ => .done (badRequest v2)
        | .ok parsed => handleFullVerify app uidHex parsed v2 now

end Handlers

/-- A request to `verify_handler` or `verify_v2_handler`. -/
structure VerifyCall where
  params : VerifyParams
  v2 : Bool
  now : String := ""

def VerifyCall.handle (app : AppState) (call : VerifyCall) : Service Reply :=
  verifyImpl app call.params call.v2 call.now

end RcProtocol
