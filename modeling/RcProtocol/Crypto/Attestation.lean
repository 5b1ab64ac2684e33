import RcProtocol.Crypto.Keys
import RcProtocol.Library.Json
import RcProtocol.Core.Types

/-!
Asset commitments and the two attestations over them. Brand and platform
attestations are one construction with different issuers, statements and keys.
-/

namespace RcProtocol
open Library

structure AssetCommitmentPayloadV1 where
  version : String
  brandId : String
  assetUid : String
  chipBinding : String
  epoch : UInt32
  metadataHash : String

structure AssetCommitmentRecord where
  commitmentId : String
  payloadVersion : String
  brandId : String
  assetUid : String
  chipBinding : String
  epoch : Int32
  metadataHash : String
  canonicalPayload : Json

def hexSha256 (p : Primitives) (input : List UInt8) : String :=
  hexEncode (p.sha256 input).toList

def normalizeUid (uid : String) : String := asciiUpper (trim uid)

def buildChipBinding (p : Primitives) (uid : String) (epoch : UInt32) : String :=
  hexSha256 p (utf8 (normalizeUid uid ++ "|ntag424dna|" ++ toString epoch.toNat))

def buildMetadataHash (p : Primitives) (externalProductId : String)
    (externalProductName externalProductUrl batchId : Option String) : String :=
  hexSha256 p (Json.obj
    [("batch_id", .ofOption (batchId.map trim)),
      ("external_product_id", .str (trim externalProductId)),
      ("external_product_name", .ofOption (externalProductName.map trim)),
      ("external_product_url", .ofOption (externalProductUrl.map trim))]).toBytes

def buildAssetCommitmentPayload (p : Primitives) (brandId assetUid : String) (epoch : UInt32)
    (metadataHash : String) : AssetCommitmentPayloadV1 :=
  let normalizedUid := normalizeUid assetUid
  { version := "ac_v1"
    brandId := trim brandId
    assetUid := normalizedUid
    chipBinding := buildChipBinding p normalizedUid epoch
    epoch := epoch
    metadataHash := metadataHash }

def AssetCommitmentPayloadV1.canonicalPayloadJson (payload : AssetCommitmentPayloadV1) : Json :=
  .obj
    [("asset_uid", .str payload.assetUid), ("brand_id", .str payload.brandId),
      ("chip_binding", .str payload.chipBinding), ("epoch", .num payload.epoch.toNat),
      ("metadata_hash", .str payload.metadataHash), ("version", .str payload.version)]

def computeAssetCommitmentId (p : Primitives) (payload : AssetCommitmentPayloadV1) : String :=
  hexSha256 p payload.canonicalPayloadJson.toBytes

def buildAssetCommitmentRecord (p : Primitives) (brandId assetUid : String) (epoch : UInt32)
    (externalProductId : String)
    (externalProductName externalProductUrl batchId : Option String) : AssetCommitmentRecord :=
  let metadataHash :=
    buildMetadataHash p externalProductId externalProductName externalProductUrl batchId
  let payload := buildAssetCommitmentPayload p brandId assetUid epoch metadataHash
  { commitmentId := computeAssetCommitmentId p payload
    payloadVersion := payload.version
    brandId := payload.brandId
    assetUid := payload.assetUid
    chipBinding := payload.chipBinding
    epoch := payload.epoch.toInt32
    metadataHash := payload.metadataHash
    canonicalPayload := payload.canonicalPayloadJson }

/-- `issuerId` is the brand id or the platform id. -/
structure AttestationPayloadV1 where
  version : String
  issuerId : String
  assetCommitmentId : String
  statement : String
  issuedAt : String
  keyId : String
  deriving DecidableEq

structure AttestationRecord where
  attestationId : String
  version : String
  issuerId : String
  assetCommitmentId : String
  statement : String
  keyId : String
  canonicalPayload : Json
  signature : String
  issuedAt : String

structure AttestationKind where
  version : String
  statement : String
  issuerField : String
  idMark : String
  name : String
  canonicalPayloadJson : AttestationPayloadV1 → Json

def brandAttestation : AttestationKind where
  version := "ba_v1"
  statement := "brand_issues_asset"
  issuerField := "brand_id"
  idMark := "ba_"
  name := "brand"
  canonicalPayloadJson payload := .obj
    [("asset_commitment_id", .str payload.assetCommitmentId), ("brand_id", .str payload.issuerId),
      ("issued_at", .str payload.issuedAt), ("key_id", .str payload.keyId),
      ("statement", .str payload.statement), ("version", .str payload.version)]

def platformAttestation : AttestationKind where
  version := "pa_v1"
  statement := "platform_accepts_asset"
  issuerField := "platform_id"
  idMark := "pa_"
  name := "platform"
  canonicalPayloadJson payload := .obj
    [("asset_commitment_id", .str payload.assetCommitmentId),
      ("issued_at", .str payload.issuedAt), ("key_id", .str payload.keyId),
      ("platform_id", .str payload.issuerId), ("statement", .str payload.statement),
      ("version", .str payload.version)]

namespace AttestationKind
variable (kind : AttestationKind) (p : Primitives)

def buildPayload (issuerId assetCommitmentId issuedAt keyId : String) : AttestationPayloadV1 where
  version := kind.version
  issuerId := trim issuerId
  assetCommitmentId := trim assetCommitmentId
  statement := kind.statement
  issuedAt := issuedAt
  keyId := trim keyId

/-- The payload read back from JSON: an object with the six string members, or
the six strings in declaration order. -/
def fromValue : Json → Option AttestationPayloadV1
  | .arr [.str version, .str issuerId, .str assetCommitmentId, .str statement, .str issuedAt,
      .str keyId] => some ⟨version, issuerId, assetCommitmentId, statement, issuedAt, keyId⟩
  | .obj members => do
      let version ← Json.strMember "version" (.obj members)
      let issuerId ← Json.strMember kind.issuerField (.obj members)
      let assetCommitmentId ← Json.strMember "asset_commitment_id" (.obj members)
      let statement ← Json.strMember "statement" (.obj members)
      let issuedAt ← Json.strMember "issued_at" (.obj members)
      let keyId ← Json.strMember "key_id" (.obj members)
      some ⟨version, issuerId, assetCommitmentId, statement, issuedAt, keyId⟩
  | _ => none

def canonicalPayloadBytes (payload : AttestationPayloadV1) : List UInt8 :=
  (kind.canonicalPayloadJson payload).toBytes

def deriveSigningKey (secret : String) : Except RcError (Bytes 32) :=
  let trimmed := trim secret
  let isHex := trimmed.toList.length = 64 && trimmed.toList.all fun c => (hexDigit c).isSome
  let candidate := if isHex then hexDecode trimmed else some (p.sha256 (utf8 trimmed)).toList
  match candidate with
  | none => .error (.invalidInput ("invalid " ++ kind.name ++ " attestation secret hex"))
  | some bytes =>
      match Bytes.ofList? 32 bytes with
      | none =>
          .error (.invalidInput (kind.name ++ " attestation secret must resolve to 32 bytes"))
      | some key => .ok key

def verify (payload : AttestationPayloadV1) (signatureHex : String) (verifyingKey : Bytes 32) :
    Except RcError Bool :=
  match hexDecode signatureHex with
  | none => .error (.invalidInput ("invalid " ++ kind.name ++ " attestation signature hex"))
  | some bytes =>
      match Bytes.ofList? 64 bytes with
      | none =>
          .error (.invalidInput ("invalid " ++ kind.name ++ " attestation signature bytes"))
      | some signature =>
          .ok (p.verify verifyingKey (kind.canonicalPayloadBytes payload) signature)

def buildRecord (issuerId assetCommitmentId issuedAt keyId : String) (signingKey : Bytes 32) :
    AttestationRecord :=
  let payload := kind.buildPayload issuerId assetCommitmentId issuedAt keyId
  { attestationId := kind.idMark ++ hexSha256 p (kind.canonicalPayloadBytes payload)
    version := payload.version
    issuerId := payload.issuerId
    assetCommitmentId := payload.assetCommitmentId
    statement := payload.statement
    keyId := payload.keyId
    canonicalPayload := kind.canonicalPayloadJson payload
    signature := hexEncode (p.sign signingKey (kind.canonicalPayloadBytes payload)).toList
    issuedAt := issuedAt }

end AttestationKind

/-- The environment variables of the process. -/
abbrev Environment := String → Option String

def loadBrandSigningKey (p : Primitives) (env : Environment) :
    Except RcError (String × Bytes 32) :=
  let keyId := (env "RC_BRAND_ATTESTATION_KEY_ID").getD "brand-key-2026-01"
  let secret := (env "RC_BRAND_ATTESTATION_SECRET").getD "rc-brand-attestation-dev-secret"
  (brandAttestation.deriveSigningKey p secret).map fun key => (keyId, key)

def loadPlatformSigningKey (p : Primitives) (env : Environment) :
    Except RcError (String × String × Bytes 32) :=
  let platformId := ((env "RC_PLATFORM_ID").or (env "RC_SYSTEM_ID")).getD "rcprotocol-main"
  let keyId := (env "RC_PLATFORM_ATTESTATION_KEY_ID").getD "platform-key-2026-01"
  let secret := (env "RC_PLATFORM_ATTESTATION_SECRET").getD "rc-platform-attestation-dev-secret"
  (platformAttestation.deriveSigningKey p secret).map fun key => (platformId, keyId, key)

end RcProtocol
