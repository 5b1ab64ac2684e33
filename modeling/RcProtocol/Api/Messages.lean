import RcProtocol.Api.Schema

/-!
Requests and replies of rc-api as its handlers see them: headers, the
authenticated actor, the decoded bodies, and the request hash that stands for a
protocol write in its idempotency record.
-/

namespace RcProtocol
open Library

namespace Uuid

def parseSimple (cs : List Char) : Option Uuid :=
  match cs.mapM hexDigit with
  | none => none
  | some digits => if h : digits.length = 32 then some ⟨digits, h⟩ else none

def parseHyphenated (cs : List Char) : Option Uuid :=
  if cs[8]? = some '-' ∧ cs[13]? = some '-' ∧ cs[18]? = some '-' ∧ cs[23]? = some '-' then
    parseSimple (cs.take 8 ++ (cs.drop 9).take 4 ++ (cs.drop 14).take 4 ++
      (cs.drop 19).take 4 ++ cs.drop 24)
  else none

/-- Plain, hyphenated, braced, and URN form. -/
def parseStr (s : String) : Option Uuid :=
  let cs := s.toList
  if cs.length = 32 then parseSimple cs
  else if cs.length = 36 then parseHyphenated cs
  else if cs.length = 38 && cs.head? = some '\x7b' && cs.getLast? = some '\x7d' then
    parseHyphenated (cs.drop 1).dropLast
  else if cs.length = 45 && cs.take 9 = "urn:uuid:".toList then parseHyphenated (cs.drop 9)
  else none

def displayChars (u : Uuid) : List Char :=
  let cs := u.digits.map hexChar
  cs.take 8 ++ '-' :: (cs.drop 8).take 4 ++ '-' :: (cs.drop 12).take 4 ++
    '-' :: (cs.drop 16).take 4 ++ '-' :: cs.drop 20

def display (u : Uuid) : String := String.ofList u.displayChars

end Uuid

/-- A header value that is not visible ASCII has no text. -/
inductive HeaderValue where
  | text (value : String)
  | unreadable
  deriving DecidableEq

def HeaderValue.toStr : HeaderValue → Option String
  | text s => some s
  | unreadable => none

/-- The first value of each header under the name the handlers ask for. -/
abbrev HeaderMap := String → Option HeaderValue

def HeaderMap.ofList (headers : List (String × String)) : HeaderMap :=
  fun key => (headers.find? (·.1 = key)).map fun h => .text h.2

structure ActorContext where
  actorId : String
  actorRole : ActorRole
  actorOrg : Option String := none
  brandId : Option String := none
  deriving DecidableEq

structure RequiredHeaders where
  traceId : Uuid
  idempotencyKey : String
  approvalId : Option String
  policyVersion : Option String
  deriving DecidableEq

def requiredHeader (headers : HeaderMap) (key : String) : Except RcError String :=
  match headers key with
  | none => .error (.missingRequiredHeader key)
  | some value =>
      match value.toStr with
      | none => .error (.invalidHeader key)
      | some s => .ok s

def optionalHeader (headers : HeaderMap) (key : String) : Option String :=
  (headers key).bind HeaderValue.toStr

def parseRequiredHeaders (headers : HeaderMap) : Except RcError RequiredHeaders := do
  let traceId ← requiredHeader headers "X-Trace-Id"
  let idempotencyKey ← requiredHeader headers "X-Idempotency-Key"
  match Uuid.parseStr traceId with
  | none => .error (.invalidHeader "X-Trace-Id")
  | some traceId =>
      .ok
        { traceId := traceId
          idempotencyKey := idempotencyKey
          approvalId := optionalHeader headers "X-Approval-Id"
          policyVersion := optionalHeader headers "X-Policy-Version" }

theorem parseRequiredHeaders_ok {headers : HeaderMap} {required : RequiredHeaders}
    (h : parseRequiredHeaders headers = .ok required) :
    requiredHeader headers "X-Idempotency-Key" = .ok required.idempotencyKey ∧
      required.approvalId = optionalHeader headers "X-Approval-Id" ∧
      required.policyVersion = optionalHeader headers "X-Policy-Version" := by
  cases htrace : requiredHeader headers "X-Trace-Id" with
  | error e => simp [parseRequiredHeaders, htrace, bind, Except.bind] at h
  | ok trace =>
      cases hkey : requiredHeader headers "X-Idempotency-Key" with
      | error e => simp [parseRequiredHeaders, htrace, hkey, bind, Except.bind] at h
      | ok key =>
          simp only [parseRequiredHeaders, htrace, hkey, bind, Except.bind] at h
          split at h
          · cases h
          · obtain rfl := Except.ok.inj h
            exact ⟨rfl, rfl, rfl⟩

structure AssetActionRequest where
  previousState : Option AssetState := none
  buyerId : Option String := none
  deriving DecidableEq

structure ActivateRequest where
  externalProductId : String
  externalProductName : Option String := none
  externalProductUrl : Option String := none
  deriving DecidableEq

inductive AuthorityProof where
  | virtualToken (userId credentialToken : String)
  | physicalNfc (uid ctr cmac : String)
  deriving DecidableEq

structure TransferRequest where
  newOwnerId : String
  childUid : String
  childCtr : String
  childCmac : String
  authorityProof : AuthorityProof
  deriving DecidableEq

structure RegisterPhysicalMotherCardRequest where
  chipUid : String
  brandId : String
  keyEpoch : Int32
  assetId : String
  deriving DecidableEq

structure VerifyParams where
  uid : Option String
  ctr : Option String
  cmac : Option String
  deriving DecidableEq

/-- What a request draws from the random generators and the clock of the process. -/
structure Draws where
  eventId : Uuid
  traceId : Uuid := eventId
  nanoid : String := ""
  now : String := ""
  deriving DecidableEq

/-- `format!("{:?}", …)` of an optional state name. -/
def debugOption : Option String → String
  | some s => "Some(\"" ++ s ++ "\")"
  | none => "None"

def buildRequestHash (assetId : String) (action : AssetAction) (payload : AssetActionRequest)
    (actor : ActorContext) (headers : RequiredHeaders) : String :=
  "asset=" ++ assetId ++ "|action=" ++ action.asDbStr ++ "|trace=" ++ headers.traceId.display ++
    "|role=" ++ actor.actorRole.asDbStr ++ "|approval=" ++ headers.approvalId.getD "" ++
    "|policy=" ++ headers.policyVersion.getD "" ++
    "|prev=" ++ debugOption (payload.previousState.map AssetState.asDbStr)

structure TransferResponse where
  transferId : Uuid
  assetId : String
  fromOwnerId : String
  toOwnerId : String
  newState : String
  deriving DecidableEq

structure TransferDetailResponse where
  transferId : Uuid
  assetId : String
  fromUserId : String
  toUserId : String
  fromOwnerId : String
  toOwnerId : String
  transferType : String
  status : String
  deriving DecidableEq

structure VerifyAssetInfo where
  assetId : String
  brandId : String
  productId : Option String
  uid : String
  currentState : String
  assetCommitmentId : Option String := none
  deriving DecidableEq

structure ScanMetadata where
  ctr : UInt32
  previousCtr : Option UInt32
  verifiedAt : String
  deriving DecidableEq

structure VerifyResponse where
  verificationStatus : String
  riskFlags : List String := []
  asset : Option VerifyAssetInfo := none
  scanMetadata : Option ScanMetadata := none
  deriving DecidableEq

structure VerificationV2Response where
  verificationVersion : String := "v2"
  tagAuthentication : String
  assetCommitmentId : Option String := none
  brandAttestation : String := "unknown"
  platformAttestation : String := "unknown"
  currentState : Option String := none
  riskFlags : List String := []
  verificationStatus : String
  errorCodes : List String := []
  asset : Option VerifyAssetInfo := none
  scanMetadata : Option ScanMetadata := none
  deriving DecidableEq

inductive Body where
  | text (message : String)
  | json (value : Json)
  | transfer (response : TransferResponse)
  | transferDetail (response : TransferDetailResponse)
  | registered (deviceId chipUid status : String)
  | verify (response : VerifyResponse)
  | verifyV2 (response : VerificationV2Response)

structure Reply where
  status : Nat
  body : Body

namespace Reply

def ok (body : Body) : Reply := ⟨200, body⟩

end Reply

/-- The statuses of the protocol routes: what they do not name is a bad request. -/
def protocolErrorResponse (err : RcError) : Reply :=
  let status :=
    match err with
    | .assetNotFound => 404
    | .missingRequiredHeader _ | .invalidHeader _ => 400
    | .idempotencyConflict => 409
    | .database _ => 500
    | _ => 400
  ⟨status, .text err.display⟩

/-- The statuses of the other routes. -/
def errorResponse (err : RcError) : Reply :=
  let status :=
    match err with
    | .assetNotFound | .brandNotFound | .productNotFound | .notFound _ => 404
    | .invalidInput _ => 400
    | .duplicateResource _ | .conflict _ => 409
    | .missingRequiredHeader _ | .invalidHeader _ => 400
    | .idempotencyConflict => 409
    | .database _ => 500
    | .unauthorized | .tokenExpired | .invalidSignature | .invalidClaims _ => 401
    | .brandBoundaryViolation | .permissionDenied | .forbidden _ => 403
    | _ => 400
  ⟨status, .text err.display⟩

end RcProtocol
