import RcProtocol.Api.Machine
import RcProtocol.Api.Messages

/-!
The protocol write routes (routes/protocol.rs): `execute_asset_action`, the two
activation handlers with their own bodies, and the statements they share. A
handler is the program of its calls; what it draws itself is an argument.
-/

namespace RcProtocol
open Library

structure AppState where
  crypto : Primitives
  kms : KeyProvider
  env : Environment := fun _ => none
  redisAvailable : Bool := false
  process : Nat := 0
  unicodeUpper : Char → List Char := fun c => [c]

instance : Inhabited AppState where
  default := { crypto := default, kms := softwareKms default (.ofFn fun _ => 0) "" }

abbrev ask (op : Op) : Service op.Answer := perform (E := api) op

def orDatabase {α : Type} (r : Except String α) : Except RcError α :=
  r.mapError .database

theorem orDatabase_ok {α : Type} {r : Except String α} {a : α} (h : orDatabase r = .ok a) :
    r = .ok a := by
  cases r with
  | error e => cases h
  | ok a' => rw [Except.ok.inj h]

/-- `.map_err(Database)?.ok_or(missing)?` -/
def found {α : Type} (missing : RcError) : Except String (Option α) → Except RcError α
  | .error e => .error (.database e)
  | .ok none => .error missing
  | .ok (some a) => .ok a

def loadIdempotencyRecord (key : String) : Service (Except RcError (Option IdempotencyRecord)) :=
  (ask (.selectIdempotencyRecord key)).map orDatabase

def fetchAsset (assetId : String) : Service (Except RcError AssetRecord) :=
  (ask (.selectAssetRecord assetId)).map (found .assetNotFound)

def persistAction (nextRecord : AssetRecord) (auditEvent : AuditEvent) (requestHash : String)
    (responseSnapshot : Json) (assetCommitmentId : Option String) :
    Service (Except RcError Unit) :=
  (ask (.persistAction
    ⟨nextRecord, auditEvent, requestHash, responseSnapshot, assetCommitmentId⟩)).map orDatabase

/-- The answer stored under the key, a conflict when the stored request differs,
or the work itself when there is none. -/
def replayOr (requestHash key : String) (fresh : Service Reply) : Service Reply :=
  (loadIdempotencyRecord key).attempt protocolErrorResponse fun
    | some record =>
        if record.requestHash ≠ requestHash then
          .done (protocolErrorResponse .idempotencyConflict)
        else .done (.ok (.json record.responseSnapshot))
    | none => fresh

def checkBrandBoundary (actor : ActorContext) (brandId : String) : Except RcError Unit :=
  if actor.actorRole = .brand ∨ actor.actorRole = .factory then
    if actor.brandId = some brandId then .ok () else .error .brandBoundaryViolation
  else .ok ()

def auditContext (actor : ActorContext) (headers : RequiredHeaders) (buyerId : Option String) :
    AuditContext where
  traceId := headers.traceId
  actorId := actor.actorId
  actorRole := actor.actorRole
  actorOrg := actor.actorOrg
  idempotencyKey := headers.idempotencyKey
  approvalId := headers.approvalId
  policyVersion := headers.policyVersion
  buyerId := buyerId

/-- A `previous_state` in the body replaces the stored one. -/
def withPrevious (record : AssetRecord) (payload : AssetActionRequest) : AssetRecord :=
  if payload.previousState.isSome then { record with previousState := payload.previousState }
  else record

structure VirtualMotherCard where
  authorityUid : String
  authorityType : String
  credentialHash : String
  epoch : Int32
  deriving DecidableEq

/-- The fields every action response has, in JSON. -/
def actionFields (assetId : String) (action : AssetAction) (before after : AssetRecord)
    (event : AuditEvent) : List (String × Json) :=
  [("action", .str action.asDbStr), ("asset_id", .str assetId),
    ("audit_event_id", .str event.eventId.display),
    ("from_state", .str before.currentState.asDbStr),
    ("to_state", .str after.currentState.asDbStr)]

def VirtualMotherCard.toJson (card : VirtualMotherCard) : Json :=
  .obj
    [("authority_type", .str card.authorityType), ("authority_uid", .str card.authorityUid),
      ("credential_hash", .str card.credentialHash), ("epoch", .num card.epoch.toInt)]

section Handlers
variable (app : AppState) (draws : Draws)

def generateVirtualMotherCardWithResult (assetId brandId actorId : String) :
    Service (Except RcError VirtualMotherCard) :=
  ((ask (.selectUidEpoch assetId)).map (found .assetNotFound)).attempt .error
    fun (uid, epoch) =>
      match uid with
      | none => .done (.error (.invalidInput "asset has no UID"))
      | some childUid =>
          let authorityUid := "vauth-" ++ draws.nanoid
          match app.kms.deriveMotherKey brandId (utf8 authorityUid) epoch.toUInt32 with
          | .error err => .done (.error (.database ("KMS derive_mother_key failed: " ++ err)))
          | .ok kChipMother =>
              let credentialHash :=
                hexEncode (app.crypto.hmacSha256 kChipMother.toList (utf8 authorityUid)).toList
              ((ask (.insertAuthorityDevice fun id =>
                { authorityId := id
                  authorityUid := authorityUid
                  authorityType := "VIRTUAL_APP"
                  brandId := brandId
                  keyEpoch := epoch
                  virtualCredentialHash := some credentialHash
                  boundUserId := some actorId
                  createdBy := some actorId })).map orDatabase).attempt .error fun authorityId =>
              ((ask (.insertEntanglement fun id =>
                { entanglementId := id
                  assetId := assetId
                  childUid := childUid
                  authorityId := authorityId
                  authorityUid := authorityUid
                  boundBy := actorId })).map orDatabase).attempt .error fun _ =>
              .done (.ok ⟨authorityUid, "VIRTUAL_APP", credentialHash, epoch⟩)

def executeAssetAction (assetId : String) (action : AssetAction) (actor : ActorContext)
    (headers : HeaderMap) (payload : AssetActionRequest) : Service Reply :=
  if action = .legalSell ∧ payload.buyerId.all (· = "") then
    .done (protocolErrorResponse (.invalidInput "LegalSell requires buyer_id"))
  else
    match parseRequiredHeaders headers with
    | .error err => .done (protocolErrorResponse err)
    | .ok required =>
        let requestHash := buildRequestHash assetId action payload actor required
        replayOr requestHash required.idempotencyKey <|
          (fetchAsset assetId).attempt protocolErrorResponse fun stored =>
            let assetRecord := withPrevious stored payload
            let context := auditContext actor required payload.buyerId
            match applyAction assetRecord action context draws.eventId with
            | .error err => .done (protocolErrorResponse err)
            | .ok (nextRecord, auditEvent) =>
                let response :=
                  Json.obj (actionFields assetId action assetRecord nextRecord auditEvent)
                (persistAction nextRecord auditEvent requestHash response none).attempt
                  protocolErrorResponse fun _ =>
                    if action = .activateEntangle then
                      (generateVirtualMotherCardWithResult app draws assetId assetRecord.brandId
                        actor.actorId).attempt protocolErrorResponse fun _ =>
                          .done (.ok (.json response))
                    else .done (.ok (.json response))

def activateEntangleAsset (assetId : String) (actor : ActorContext) (headers : HeaderMap)
    (payload : AssetActionRequest) : Service Reply :=
  match parseRequiredHeaders headers with
  | .error err => .done (protocolErrorResponse err)
  | .ok required =>
      let requestHash := buildRequestHash assetId .activateEntangle payload actor required
      replayOr requestHash required.idempotencyKey <|
        (fetchAsset assetId).attempt protocolErrorResponse fun stored =>
          match checkBrandBoundary actor stored.brandId with
          | .error err => .done (protocolErrorResponse err)
          | .ok () =>
              let assetRecord := withPrevious stored payload
              let context := auditContext actor required payload.buyerId
              match applyAction assetRecord .activateEntangle context draws.eventId with
              | .error err => .done (protocolErrorResponse err)
              | .ok (nextRecord, auditEvent) =>
                  (generateVirtualMotherCardWithResult app draws assetId assetRecord.brandId
                    actor.actorId).attempt protocolErrorResponse fun card =>
                      let response := Json.obj
                        (actionFields assetId .activateEntangle assetRecord nextRecord auditEvent ++
                          [("virtual_mother_card", card.toJson)])
                      (persistAction nextRecord auditEvent requestHash response none).attempt
                        protocolErrorResponse fun _ => .done (.ok (.json response))

def activateRequestHash (assetId : String) (actor : ActorContext) (required : RequiredHeaders)
    (payload : ActivateRequest) : String :=
  "asset=" ++ assetId ++ "|action=ActivateRotateKeys|trace=" ++ required.traceId.display ++
    "|role=" ++ actor.actorRole.asDbStr ++ "|product=" ++ payload.externalProductId

/-- The commitment and the two attestations `activate_asset` issues, and the
transaction that ends it. -/
def issueActivation (assetId : String) (assetRecord nextRecord : AssetRecord)
    (auditEvent : AuditEvent) (requestHash uid : String) (snapshot : ActivationSnapshot)
    (payload : ActivateRequest) : Service Reply :=
  let p := app.crypto
  let commitment := buildAssetCommitmentRecord p assetRecord.brandId uid
    snapshot.keyEpoch.toUInt32 payload.externalProductId payload.externalProductName
    payload.externalProductUrl snapshot.batchId
  ((ask (.insertAssetCommitment commitment)).map orDatabase).attempt protocolErrorResponse
    fun _ =>
  ((ask (.bindAssetCommitment assetId commitment.commitmentId)).map orDatabase).attempt
    protocolErrorResponse fun _ =>
  match loadBrandSigningKey p app.env with
  | .error err => .done (protocolErrorResponse err)
  | .ok (brandKeyId, brandKey) =>
  ((ask (.insertBrandAttestation (brandAttestation.buildRecord p assetRecord.brandId
    commitment.commitmentId draws.now brandKeyId brandKey))).map orDatabase).attempt
    protocolErrorResponse fun _ =>
  match loadPlatformSigningKey p app.env with
  | .error err => .done (protocolErrorResponse err)
  | .ok (platformId, platformKeyId, platformKey) =>
  ((ask (.insertPlatformAttestation (platformAttestation.buildRecord p platformId
    commitment.commitmentId draws.now platformKeyId platformKey))).map orDatabase).attempt
    protocolErrorResponse fun _ =>
  let response := Json.obj
    (actionFields assetId .activateRotateKeys assetRecord nextRecord auditEvent ++
      [("asset_commitment_id", .str commitment.commitmentId),
        ("brand_attestation_status", .str "issued"),
        ("platform_attestation_status", .str "issued")])
  (persistAction nextRecord auditEvent requestHash response (some commitment.commitmentId)).attempt
    protocolErrorResponse fun _ => .done (.ok (.json response))

def activateAsset (assetId : String) (actor : ActorContext) (headers : HeaderMap)
    (payload : ActivateRequest) : Service Reply :=
  if payload.externalProductId = "" then
    .done (protocolErrorResponse (.invalidInput "external_product_id is required"))
  else
    match parseRequiredHeaders headers with
    | .error err => .done (protocolErrorResponse err)
    | .ok required =>
        let requestHash := activateRequestHash assetId actor required payload
        replayOr requestHash required.idempotencyKey <|
          (fetchAsset assetId).attempt protocolErrorResponse fun assetRecord =>
            match checkBrandBoundary actor assetRecord.brandId with
            | .error err => .done (protocolErrorResponse err)
            | .ok () =>
                let context := auditContext actor required none
                match applyAction assetRecord .activateRotateKeys context draws.eventId with
                | .error err => .done (protocolErrorResponse err)
                | .ok (nextRecord, auditEvent) =>
                    ((ask (.updateProductMapping assetId payload.externalProductId
                      payload.externalProductName payload.externalProductUrl)).map
                      orDatabase).attempt protocolErrorResponse fun _ =>
                    ((ask (.selectActivationSnapshot assetId)).map
                      (found .assetNotFound)).attempt protocolErrorResponse fun snapshot =>
                    match snapshot.uid with
                    | none => .done (protocolErrorResponse (.invalidInput "asset has no UID"))
                    | some uid =>
                        issueActivation app draws assetId assetRecord nextRecord auditEvent
                          requestHash uid snapshot payload

end Handlers

/-- A request to `execute_asset_action`. -/
structure ActionCall where
  assetId : String
  action : AssetAction
  actor : ActorContext
  headers : HeaderMap
  payload : AssetActionRequest
  draws : Draws

def ActionCall.handle (app : AppState) (call : ActionCall) : Service Reply :=
  executeAssetAction app call.draws call.assetId call.action call.actor call.headers call.payload

/-- A request to one of the write handlers. -/
inductive WriteRequest where
  | action (call : ActionCall)
  | activate (assetId : String) (actor : ActorContext) (headers : HeaderMap)
      (payload : ActivateRequest) (draws : Draws)
  | activateEntangle (assetId : String) (actor : ActorContext) (headers : HeaderMap)
      (payload : AssetActionRequest) (draws : Draws)

namespace WriteRequest

def handle (app : AppState) : WriteRequest → Service Reply
  | action call => call.handle app
  | activate assetId actor headers payload draws =>
      activateAsset app draws assetId actor headers payload
  | activateEntangle assetId actor headers payload draws =>
      activateEntangleAsset app draws assetId actor headers payload

/-- What `write_router` delivers: eleven actions go to `execute_asset_action`. -/
def Routed : WriteRequest → Prop
  | action call =>
      call.action ∈ [.blindLog, .stockIn, .activateConfirm, .legalSell, .consume, .legacy,
        .freeze, .recover, .markTampered, .markCompromised, .markDestructed]
  | _ => True

def assetId : WriteRequest → String
  | action call => call.assetId
  | activate assetId _ _ _ _ | activateEntangle assetId _ _ _ _ => assetId

def act : WriteRequest → AssetAction
  | action call => call.action
  | activate .. => .activateRotateKeys
  | activateEntangle .. => .activateEntangle

def actor : WriteRequest → ActorContext
  | action call => call.actor
  | activate _ actor _ _ _ | activateEntangle _ actor _ _ _ => actor

def headers : WriteRequest → HeaderMap
  | action call => call.headers
  | activate _ _ headers _ _ | activateEntangle _ _ headers _ _ => headers

/-- The action body; an activation request has none. -/
def payload : WriteRequest → AssetActionRequest
  | action call => call.payload
  | activate .. => {}
  | activateEntangle _ _ _ payload _ => payload

def draws : WriteRequest → Draws
  | action call => call.draws
  | activate _ _ _ _ draws | activateEntangle _ _ _ _ draws => draws

def requestHash (required : RequiredHeaders) : WriteRequest → String
  | action call => buildRequestHash call.assetId call.action call.payload call.actor required
  | activate assetId actor _ payload _ => activateRequestHash assetId actor required payload
  | activateEntangle assetId actor _ payload _ =>
      buildRequestHash assetId .activateEntangle payload actor required

end WriteRequest

end RcProtocol
