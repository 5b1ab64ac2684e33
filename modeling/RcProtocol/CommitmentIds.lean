import RcProtocol.Library.JsonMembers
import RcProtocol.Library.JsonText
import RcProtocol.Replay

/-!
What the id of an asset commitment commits to. The id is a digest of the canonical
payload and holds the product's data through the digest of another JSON text, so that
two ids are told apart by the texts the two computations hash.
-/

namespace RcProtocol
open Library

structure CommitmentInput where
  brandId : String
  assetUid : String
  epoch : UInt32
  externalProductId : String
  externalProductName : Option String
  externalProductUrl : Option String
  batchId : Option String
  deriving DecidableEq

namespace CommitmentInput
variable (p : Primitives) (input : CommitmentInput)

def record : AssetCommitmentRecord :=
  buildAssetCommitmentRecord p input.brandId input.assetUid input.epoch input.externalProductId
    input.externalProductName input.externalProductUrl input.batchId

def normalized : CommitmentInput where
  brandId := trim input.brandId
  assetUid := normalizeUid input.assetUid
  epoch := input.epoch
  externalProductId := trim input.externalProductId
  externalProductName := input.externalProductName.map trim
  externalProductUrl := input.externalProductUrl.map trim
  batchId := input.batchId.map trim

def metadata : Json :=
  .obj
    [("batch_id", .ofOption (input.batchId.map trim)),
      ("external_product_id", .str (trim input.externalProductId)),
      ("external_product_name", .ofOption (input.externalProductName.map trim)),
      ("external_product_url", .ofOption (input.externalProductUrl.map trim))]

def metadataHash : String :=
  buildMetadataHash p input.externalProductId input.externalProductName input.externalProductUrl
    input.batchId

def payload : AssetCommitmentPayloadV1 :=
  buildAssetCommitmentPayload p input.brandId input.assetUid input.epoch (input.metadataHash p)

/-- The texts the id rests on: of the product's data and of the canonical payload. -/
def hashedTexts : List (List UInt8) :=
  [input.metadata.toBytes, (input.payload p).canonicalPayloadJson.toBytes]

theorem metadataHash_eq : input.metadataHash p = hexSha256 p input.metadata.toBytes := rfl

theorem record_commitmentId :
    (input.record p).commitmentId = hexSha256 p (input.payload p).canonicalPayloadJson.toBytes :=
  rfl

theorem record_canonicalPayload :
    (input.record p).canonicalPayload = (input.payload p).canonicalPayloadJson := rfl

end CommitmentInput

/-- SHA-256 has no collision among these texts. -/
def ShaCollisionFree (p : Primitives) (texts : List (List UInt8)) : Prop :=
  ∀ a ∈ texts, ∀ b ∈ texts, p.sha256 a = p.sha256 b → a = b

variable {p : Primitives}

theorem hexSha256_inj {texts : List (List UInt8)} (hfree : ShaCollisionFree p texts)
    {a b : List UInt8} (ha : a ∈ texts) (hb : b ∈ texts) :
    hexSha256 p a = hexSha256 p b ↔ a = b := by
  constructor
  · intro h
    exact hfree a ha b hb (Bytes.ext (hexEncode_injective h))
  · rintro rfl
    rfl

theorem ofOption_inj {s t : Option String} : Json.ofOption s = Json.ofOption t ↔ s = t := by
  cases s <;> cases t <;> simp [Json.ofOption]

theorem metadata_inj {input input' : CommitmentInput} :
    input.metadata = input'.metadata ↔
      input.normalized.externalProductId = input'.normalized.externalProductId ∧
      input.normalized.externalProductName = input'.normalized.externalProductName ∧
      input.normalized.externalProductUrl = input'.normalized.externalProductUrl ∧
      input.normalized.batchId = input'.normalized.batchId := by
  simp only [CommitmentInput.metadata, CommitmentInput.normalized, Json.obj.injEq, Json.str.injEq,
    List.cons.injEq, Prod.mk.injEq, true_and, and_true, ofOption_inj]
  constructor
  · rintro ⟨hbatch, hid, hname, hurl⟩
    exact ⟨hid, hname, hurl, hbatch⟩
  · rintro ⟨hid, hname, hurl, hbatch⟩
    exact ⟨hbatch, hid, hname, hurl⟩

theorem canonicalPayloadJson_inj {payload payload' : AssetCommitmentPayloadV1} :
    payload.canonicalPayloadJson = payload'.canonicalPayloadJson ↔ payload = payload' := by
  constructor
  · intro h
    obtain ⟨version, brandId, assetUid, chipBinding, epoch, metadataHash⟩ := payload
    obtain ⟨version', brandId', assetUid', chipBinding', epoch', metadataHash'⟩ := payload'
    simp only [AssetCommitmentPayloadV1.canonicalPayloadJson, Json.obj.injEq, Json.str.injEq,
      Json.num.injEq, List.cons.injEq, Prod.mk.injEq, true_and, and_true, Int.natCast_inj,
      UInt32.toNat_inj] at h
    obtain ⟨rfl, rfl, rfl, rfl, rfl, rfl⟩ := h
    rfl
  · rintro rfl
    rfl

theorem payload_inj {input input' : CommitmentInput} :
    input.payload p = input'.payload p ↔
      input.normalized.brandId = input'.normalized.brandId ∧
      input.normalized.assetUid = input'.normalized.assetUid ∧
      input.normalized.epoch = input'.normalized.epoch ∧
      input.metadataHash p = input'.metadataHash p := by
  simp only [CommitmentInput.payload, CommitmentInput.normalized, buildAssetCommitmentPayload,
    AssetCommitmentPayloadV1.mk.injEq, true_and]
  constructor
  · rintro ⟨hbrand, huid, -, hepoch, hmetadata⟩
    exact ⟨hbrand, huid, hepoch, hmetadata⟩
  · rintro ⟨hbrand, huid, hepoch, hmetadata⟩
    rw [huid, hepoch]
    exact ⟨hbrand, rfl, rfl, rfl, hmetadata⟩

/-- The ids are equal exactly where the inputs are, up to what the record drops of them. -/
theorem commitmentId_inj {input input' : CommitmentInput}
    (hfree : ShaCollisionFree p (input.hashedTexts p ++ input'.hashedTexts p)) :
    (input.record p).commitmentId = (input'.record p).commitmentId ↔
      input.normalized = input'.normalized := by
  have hmetadata : input.metadataHash p = input'.metadataHash p ↔
      input.metadata = input'.metadata := by
    rw [input.metadataHash_eq, input'.metadataHash_eq,
      hexSha256_inj hfree (by simp [CommitmentInput.hashedTexts])
        (by simp [CommitmentInput.hashedTexts]), Json.toBytes_injective.eq_iff]
  rw [input.record_commitmentId, input'.record_commitmentId,
    hexSha256_inj hfree (by simp [CommitmentInput.hashedTexts])
      (by simp [CommitmentInput.hashedTexts]), Json.toBytes_injective.eq_iff,
    canonicalPayloadJson_inj, payload_inj, hmetadata, metadata_inj, CommitmentInput.mk.injEq]

namespace AssetCommitmentPayloadV1

/-- The payload read back from JSON: an object with the six members, or their values in
declaration order. -/
def fromValue : Json → Option AssetCommitmentPayloadV1
  | .arr [.str version, .str brandId, .str assetUid, .str chipBinding, epoch,
      .str metadataHash] =>
      epoch.u32.map fun epoch => ⟨version, brandId, assetUid, chipBinding, epoch, metadataHash⟩
  | .obj members => do
      let version ← Json.strMember "version" (.obj members)
      let brandId ← Json.strMember "brand_id" (.obj members)
      let assetUid ← Json.strMember "asset_uid" (.obj members)
      let chipBinding ← Json.strMember "chip_binding" (.obj members)
      let epoch ← Json.u32Member "epoch" (.obj members)
      let metadataHash ← Json.strMember "metadata_hash" (.obj members)
      some ⟨version, brandId, assetUid, chipBinding, epoch, metadataHash⟩
  | _ => none

variable {payload : AssetCommitmentPayloadV1} {members stored : List (String × Json)}

theorem map_fst_of_canonicalPayloadJson (h : payload.canonicalPayloadJson = .obj members) :
    members.map Prod.fst =
      ["asset_uid", "brand_id", "chip_binding", "epoch", "metadata_hash", "version"] := by
  rw [canonicalPayloadJson, Json.obj.injEq] at h
  rw [← h]
  rfl

theorem nodup_of_canonicalPayloadJson (h : payload.canonicalPayloadJson = .obj members) :
    (members.map Prod.fst).Nodup := by
  rw [map_fst_of_canonicalPayloadJson h]
  decide

theorem sorted_of_canonicalPayloadJson (h : payload.canonicalPayloadJson = .obj members) :
    members.Pairwise fun a b => a.1 ≤ b.1 := by
  apply List.pairwise_map.mp
  rw [map_fst_of_canonicalPayloadJson h]
  decide

theorem fromValue_canonicalPayloadJson (payload : AssetCommitmentPayloadV1) :
    fromValue payload.canonicalPayloadJson = some payload := by
  have hepoch : Json.u32Member "epoch" payload.canonicalPayloadJson = some payload.epoch :=
    Json.u32_num payload.epoch
  rw [canonicalPayloadJson] at hepoch ⊢
  rw [fromValue, hepoch]
  rfl

theorem fromValue_perm (h : payload.canonicalPayloadJson = .obj members)
    (hperm : stored.Perm members) : fromValue (.obj stored) = some payload := by
  have hnodup := nodup_of_canonicalPayloadJson h
  rw [← fromValue_canonicalPayloadJson payload, h]
  simp only [fromValue, Json.strMember_perm hperm hnodup, Json.u32Member_perm hperm hnodup]

end AssetCommitmentPayloadV1

/-- For two inputs whose texts have no collision, and the first one's payload stored with
its members in any order: read back into the payload, or hashed as it is held. -/
theorem commitment_ids_commit (p : Primitives) (input input' : CommitmentInput)
    (hfree : ShaCollisionFree p (input.hashedTexts p ++ input'.hashedTexts p)) :
    ((input.record p).commitmentId = (input'.record p).commitmentId ↔
      input.normalized = input'.normalized) ∧
    ∀ members stored, (input.record p).canonicalPayload = .obj members → stored.Perm members →
      (AssetCommitmentPayloadV1.fromValue (.obj stored)).map (computeAssetCommitmentId p) =
          some (input.record p).commitmentId ∧
        hexSha256 p (Json.fromMembers stored).toBytes = (input.record p).commitmentId := by
  refine ⟨commitmentId_inj hfree, fun members stored hmembers hperm => ?_⟩
  rw [input.record_canonicalPayload] at hmembers
  constructor
  · rw [AssetCommitmentPayloadV1.fromValue_perm hmembers hperm]
    rfl
  · rw [Json.fromMembers_perm hperm (AssetCommitmentPayloadV1.nodup_of_canonicalPayloadJson hmembers)
        (AssetCommitmentPayloadV1.sorted_of_canonicalPayloadJson hmembers), ← hmembers]
    rfl

section Sample

def commitmentPrimitives : Primitives :=
  { (default : Primitives) with
    sha256 := fun text =>
      if text.length = 28 then
        hexBytes 32 "dc8e0d5bdae702ea8de41d14f1bb94d051c02e5b073d642942cf995a06a221df"
      else if text[46]? = some 0x31 then
        hexBytes 32 "9ad6c8b7240552981db1b43b02be7299782927fe2a7d0277fe3458b340ba0144"
      else if text[46]? = some 0x32 then
        hexBytes 32 "96cdb6e42782ce90668b765df5a8fc1c0c9073160754656f4a9d8b5562c6d060"
      else if text[161]? = some 0x61 then
        hexBytes 32 "a74d2a786ecfaee013463372e7b8b39a6abe2a51c9f5e733e18f646621c0e56b"
      else hexBytes 32 "bb9ae1b4ab9a475d9b9d66c764695e708df82041ea897b63006bbbb4fb27a009" }

def skuInput (externalProductId : String) : CommitmentInput where
  brandId := "brand_1"
  assetUid := "04A31B2C3D4E5F"
  epoch := 0
  externalProductId := externalProductId
  externalProductName := some "Product A"
  externalProductUrl := none
  batchId := none

theorem skuInput_collisionFree : ShaCollisionFree commitmentPrimitives
    ((skuInput "sku_001").hashedTexts commitmentPrimitives ++
      (skuInput "sku_002").hashedTexts commitmentPrimitives) := by
  unfold ShaCollisionFree
  decide +kernel

/-- The payload of the first product, its members in the order PostgreSQL keeps them in. -/
def skuStored : List (String × Json) :=
  let payload := (skuInput "sku_001").payload commitmentPrimitives
  [("asset_uid", .str payload.assetUid), ("brand_id", .str payload.brandId),
    ("chip_binding", .str payload.chipBinding), ("epoch", .num payload.epoch.toNat),
    ("metadata_hash", .str payload.metadataHash),
    ("version", .str payload.version)].insertionSort fun a b => a.1.length ≤ b.1.length

theorem commitment_ids_commit_products :
    ((skuInput "sku_001").record commitmentPrimitives).commitmentId ≠
        ((skuInput "sku_002").record commitmentPrimitives).commitmentId ∧
      skuStored.map (·.1) =
        ["epoch", "version", "brand_id", "asset_uid", "chip_binding", "metadata_hash"] ∧
      (AssetCommitmentPayloadV1.fromValue (.obj skuStored)).map
          (computeAssetCommitmentId commitmentPrimitives) =
        some ((skuInput "sku_001").record commitmentPrimitives).commitmentId ∧
      hexSha256 commitmentPrimitives (Json.fromMembers skuStored).toBytes =
        ((skuInput "sku_001").record commitmentPrimitives).commitmentId := by
  obtain ⟨hids, hstored⟩ := commitment_ids_commit _ _ _ skuInput_collisionFree
  refine ⟨fun h => absurd (hids.mp h) (by decide), by decide +kernel, ?_⟩
  exact hstored _ skuStored rfl (List.perm_insertionSort _ _)

end Sample

end RcProtocol
