import RcProtocol.Api.VerifyRun
import RcProtocol.Replay

/-!
What the verdict `authentic` rests on, in the state the request finds. The counter
is compared with a cached one, a bound commitment id is taken as it is, and only
four states are held back.
-/

namespace RcProtocol
open Library

/-- The record carries a payload about the commitment, from the issuer and signed
with its key. -/
def AttestationKind.SignedOver (kind : AttestationKind) (p : Primitives)
    (record : AttestationRecord) (issuerId : String) (key : Bytes 32) (commitmentId : String) :
    Prop :=
  ∃ payload, kind.fromValue record.canonicalPayload = some payload ∧
    kind.verify p payload record.signature (p.verifyingKey key) = .ok true ∧
    payload.assetCommitmentId = commitmentId ∧ payload.issuerId = issuerId

/-- What a request and a state show for an authentic tag. -/
structure Evidence where
  uidHex : String
  message : SunMessage
  row : AssetVerifyRow
  cached : UInt32
  commitmentId : String
  brand : AttestationRecord
  platform : AttestationRecord

namespace Evidence
variable (ev : Evidence) (app : AppState) (call : VerifyCall) (s : Store)

structure Supports : Prop where
  uid : call.params.uid = some ev.uidHex
  parsed : parseSunParams call.params = .ok ev.message
  row : s.db.selectAssetByUid ev.uidHex = some ev.row
  tag : ∃ key, app.kms.deriveChipKey ev.row.brandId ev.message.uid ev.row.epoch.toUInt32 = .ok key ∧
    app.crypto.verifySunMessage key ev.message.uid ev.message.ctr ev.message.cmac = true
  cached : CachedCtr s app.process ev.uidHex ev.cached
  fresh : ev.cached = 0 ∨ ev.cached < ev.message.ctrValue
  commitment : ev.row.assetCommitmentId = some ev.commitmentId ∨
    ev.row.assetCommitmentId = none ∧ ∃ record ∈ s.db.commitments.rows,
      record.commitmentId = ev.commitmentId ∧ record.assetUid = ev.row.uid ∧
        record.epoch = ev.row.epoch
  brand : s.db.selectBrandAttestation ev.commitmentId = some ev.brand
  brandSigned : ∃ key, brandIssuer app ev.row.brandId = .ok (ev.row.brandId, key) ∧
    brandAttestation.SignedOver app.crypto ev.brand ev.row.brandId key ev.commitmentId
  platform : s.db.selectPlatformAttestation ev.commitmentId = some ev.platform
  platformSigned : ∃ platformId key, platformIssuer app = .ok (platformId, key) ∧
    platformAttestation.SignedOver app.crypto ev.platform platformId key ev.commitmentId
  state : ev.row.currentState ∉
    [AssetState.disputed, .tampered, .compromised, .destructed]

/-- The counter is above the stored one. -/
def Rises : Prop :=
  ∀ stored, ev.row.lastVerifiedCtr = some stored → stored.toInt < ev.message.ctrValue.toNat

/-- A commitment with the id exists, and is about the asset. -/
def Named : Prop :=
  ∃ record ∈ s.db.commitments.rows, record.commitmentId = ev.commitmentId ∧
    record.assetUid = ev.row.uid ∧ record.brandId = ev.row.brandId ∧
      record.epoch = ev.row.epoch

/-- The asset is in circulation. -/
def Circulates : Prop :=
  ev.row.currentState ∈ [AssetState.activated, .legallySold, .transferred]

end Evidence

section Verdict
variable {app : AppState} {call : VerifyCall} {s : Store} {row : AssetVerifyRow}

theorem AttestationKind.signedOver_of_valid {kind : AttestationKind} {p : Primitives}
    {commitmentId : String} {record : AttestationRecord}
    {issuer : Except RcError (String × Bytes 32)}
    (h : kind.validate p commitmentId record issuer = .ok "valid") :
    ∃ issuerId key, issuer = .ok (issuerId, key) ∧
      kind.SignedOver p record issuerId key commitmentId := by
  unfold AttestationKind.validate at h
  split at h
  · simp at h
  next payload hpayload =>
  obtain ⟨⟨issuerId, key⟩, hissuer, h⟩ := bind_ok h
  obtain ⟨valid, hvalid, h⟩ := bind_ok h
  have h := Except.ok.inj h
  split at h
  · next hfields =>
    obtain ⟨rfl, hid, hissuerId, -⟩ := hfields
    exact ⟨issuerId, key, hissuer, payload, hpayload, hvalid, hid, hissuerId⟩
  · simp at h

theorem brandIssuer_ok {brandId issuerId : String} {key : Bytes 32}
    (h : brandIssuer app brandId = .ok (issuerId, key)) : issuerId = brandId := by
  unfold brandIssuer at h
  cases hk : loadBrandSigningKey app.crypto app.env with
  | error e => simp [hk, Except.map] at h
  | ok k =>
      rw [hk] at h
      exact (Prod.mk.inj (Except.ok.inj h)).1.symm

theorem evaluateStatus_unrestricted {state : AssetState}
    (h : (evaluateStatus state).1 ≠ "restricted") :
    state ∉ [AssetState.disputed, .tampered, .compromised, .destructed] := by
  revert h
  cases state <;> decide

theorem fresh_cases {newCtr cached : UInt32} (h : ¬(newCtr ≤ cached ∧ cached > 0)) :
    cached = 0 ∨ cached < newCtr := by
  by_cases hzero : cached = 0
  · exact .inl hzero
  · refine .inr (UInt32.not_le.mp fun hle => h ⟨hle, ?_⟩)
    exact UInt32.pos_iff_ne_zero.mpr hzero

section Reads
variable {env : Nat → machine.Env} {commitmentId : String}

theorem commitment_read {uid : String} {epoch : Int32} {record : AssetCommitmentRecord}
    (h : (⟨.selectCommitmentByUidEpoch uid epoch, .ok (some record)⟩ : Event api) ∈
      (machine.run (call.handle app) env s).log) (hid : record.commitmentId = commitmentId) :
    ∃ record ∈ s.db.commitments.rows, record.commitmentId = commitmentId ∧
      record.assetUid = uid ∧ record.epoch = epoch := by
  obtain ⟨t, env', hsame, hr⟩ := VerifyCall.run_reads h
  have hfound := query_ok hr
  unfold Db.selectCommitmentByUidEpoch at hfound
  rw [show t.db.commitments = s.db.commitments from congrArg Prod.fst hsame] at hfound
  have hprop := Table.prop_of_newest hfound
  simp only [decide_eq_true_eq] at hprop
  exact ⟨record, Table.mem_of_newest hfound, hid, hprop⟩

theorem brand_read {record : AttestationRecord}
    (h : (⟨.selectBrandAttestation commitmentId, .ok (some record)⟩ : Event api) ∈
      (machine.run (call.handle app) env s).log) :
    s.db.selectBrandAttestation commitmentId = some record := by
  obtain ⟨t, env', hsame, hr⟩ := VerifyCall.run_reads h
  have hfound := query_ok hr
  unfold Db.selectBrandAttestation at hfound ⊢
  rwa [show t.db.brandAttestations = s.db.brandAttestations from
    congrArg (fun p => p.2.1) hsame] at hfound

theorem platform_read {record : AttestationRecord}
    (h : (⟨.selectPlatformAttestation commitmentId, .ok (some record)⟩ : Event api) ∈
      (machine.run (call.handle app) env s).log) :
    s.db.selectPlatformAttestation commitmentId = some record := by
  obtain ⟨t, env', hsame, hr⟩ := VerifyCall.run_reads h
  have hfound := query_ok hr
  unfold Db.selectPlatformAttestation at hfound ⊢
  rwa [show t.db.platformAttestations = s.db.platformAttestations from
    congrArg (fun p => p.2.2) hsame] at hfound

end Reads

/-- Whatever the state and the environment, the verdict `authentic` has its
evidence in the state before the request. -/
theorem authentic_supported (app : AppState) (call : VerifyCall) (env : Nat → machine.Env)
    (s : Store) (h : (machine.run (call.handle app) env s).answer.authentic = true) :
    ∃ ev : Evidence, ev.Supports app call s := by
  have hanswer := machine.meets_run_answer (call.verifyImpl_meets app) env s
  rw [List.nil_append] at hanswer
  obtain ⟨row, hupdated, hauthentic⟩ := hanswer (.inr h)
  obtain ⟨hstate, commitmentId, hattested⟩ := hauthentic h
  obtain ⟨uidHex, message, read, cached, hfresh, hrow, hcached⟩ := VerifyCall.run_updated hupdated
  obtain ⟨brand, hbrand, hvalid⟩ := hattested.brand
  obtain ⟨platform, hplatform, hvalid'⟩ := hattested.platform
  obtain ⟨issuerId, key, hissuer, hsigned⟩ := AttestationKind.signedOver_of_valid hvalid
  obtain rfl := brandIssuer_ok hissuer
  obtain ⟨platformId, key', hissuer', hsigned'⟩ := AttestationKind.signedOver_of_valid hvalid'
  refine ⟨⟨uidHex, message, row, cached, commitmentId, brand, platform⟩, ?_⟩
  exact
    { uid := hfresh.uid
      parsed := hfresh.parsed
      row := hrow
      tag := checkTag_ok hfresh.tag
      cached := hcached
      fresh := fresh_cases hfresh.fresh
      commitment := hattested.commitment.imp_right fun ⟨hnone, record, hread, hid⟩ =>
        ⟨hnone, commitment_read hread hid⟩
      brand := brand_read hbrand
      brandSigned := ⟨key, hissuer, hsigned⟩
      platform := platform_read hplatform
      platformSigned := ⟨platformId, key', hissuer', hsigned'⟩
      state := evaluateStatus_unrestricted hstate }

end Verdict

section Sample

def brandSignature : String :=
  "1294d0227790a83774e9e1f9b936b7b6ffb0846f3d5c419b73416f3387580fa1" ++
    "830dba3e50cdde5aafcc41151d39731e25a757c389b83c8478a68b5fbea1770c"

def platformSignature : String :=
  "3fd06c2e355b8f053d85ad9f326ad476b720837507b76bd008cc030562c25bc0" ++
    "d3d9906403548062e1c4d0e442bdf2d433708a2f1b6b5b7f8ffc44ac4a0c340c"

def brandSecret : Bytes 32 :=
  hexBytes 32 "442ddd4dbef22bd7f3c9e62d9bc6445695cadced6cc5f11d192337d49f6376a4"

def brandPublic : Bytes 32 :=
  hexBytes 32 "51edfb2deb8526a872def8c6ee246225c861f20b719917bfa37f858b8b6c582b"

def platformPublic : Bytes 32 :=
  hexBytes 32 "3d329cf30790dffa92805e606efb5c96f72dd23663a994351609dc43ae21895b"

/-- The primitives on the inputs of one scan of counter zero, and of the two
attestations it is answered with. -/
def attestedPrimitives : Primitives :=
  { scanPrimitives with
    cmacAes128 := fun _ _ => hexBytes 16 "b70d85528b0c0c5fbe32f9f66f5d97a7"
    sha256 := fun secret =>
      if secret = utf8 "brand-test-secret" then brandSecret
      else hexBytes 32 "5154ff622e148a42195196844d5eb15c79f8f931a2cf458849e8e6f56e8d902e"
    verifyingKey := fun secret => if secret = brandSecret then brandPublic else platformPublic
    verify := fun key _ signature =>
      key = brandPublic ∧ signature.get 0 = 0x12 ∨ key = platformPublic ∧ signature.get 0 = 0x3f }

def attestedApp : AppState where
  crypto := attestedPrimitives
  kms := softwareKms attestedPrimitives rootKey "test-system"
  env
    | "RC_BRAND_ATTESTATION_SECRET" => some "brand-test-secret"
    | "RC_PLATFORM_ATTESTATION_SECRET" => some "platform-test-secret"
    | "RC_SYSTEM_ID" => some "test-system"
    | _ => none

def attestation (kind : AttestationKind) (issuerId keyId signature : String) :
    AttestationRecord :=
  let payload := kind.buildPayload issuerId "commitment_test_v2" "2026-04-09T12:00:00+00:00" keyId
  { attestationId := kind.idMark ++ "test_v2"
    version := payload.version
    issuerId := payload.issuerId
    assetCommitmentId := payload.assetCommitmentId
    statement := payload.statement
    keyId := payload.keyId
    canonicalPayload := kind.canonicalPayloadJson payload
    signature := signature
    issuedAt := payload.issuedAt }

/-- An asset that was never activated, with counter zero, bound to a commitment
that is not stored. -/
def danglingStore : Store where
  db :=
    { brands := ["brand"]
      assets :=
        .single
          { assetId := "a", brandId := "brand", uid := some "04A31B2C3D4E5F",
            currentState := .preMinted, lastVerifiedCtr := some 0,
            assetCommitmentId := some "commitment_test_v2" }
      brandAttestations :=
        .single
          (attestation brandAttestation "brand" "brand-key-2026-01" brandSignature)
      platformAttestations :=
        .single
          (attestation platformAttestation "test-system" "platform-key-2026-01" platformSignature) }

def zeroScan : VerifyCall where
  params :=
    { uid := some "04A31B2C3D4E5F"
      ctr := some "000000"
      cmac := some "0d520c5f32f65da7" }
  v2 := true

theorem zeroScan_authentic :
    (machine.run (zeroScan.handle attestedApp) (fun _ => {}) danglingStore).answer.authentic =
      true := by
  decide +kernel

theorem authentic_supported_dangling :
    ∃ ev : Evidence, ev.Supports attestedApp zeroScan danglingStore :=
  authentic_supported attestedApp zeroScan (fun _ => {}) danglingStore zeroScan_authentic

theorem dangling_evidence {ev : Evidence} (h : ev.Supports attestedApp zeroScan danglingStore) :
    ¬ev.Rises ∧ ¬ev.Named danglingStore ∧ ¬ev.Circulates := by
  have huid : "04A31B2C3D4E5F" = ev.uidHex := Option.some.inj h.uid
  have hrow := h.row
  rw [← huid] at hrow
  have hmessage : parseSunParams zeroScan.params =
      .ok ⟨hexBytes 7 "04A31B2C3D4E5F", hexBytes 3 "000000", hexBytes 8 "0d520c5f32f65da7"⟩ := rfl
  have hmessage := Except.ok.inj (hmessage.symm.trans h.parsed)
  have hrow := Option.some.inj hrow
  refine ⟨fun hrises => ?_, fun ⟨record, hmem, _⟩ => ?_, fun hstate => ?_⟩
  · have hlt := hrises 0 (by rw [← hrow])
    rw [← hmessage] at hlt
    exact absurd hlt (by decide)
  · exact absurd hmem List.not_mem_nil
  · rw [Evidence.Circulates, ← hrow] at hstate
    exact absurd hstate (by decide)

/-- The stale or absent counter, the dangling commitment and the permissive state
each refute their part of the verdict. -/
theorem authentic_not_genuine :
    (¬∀ (app : AppState) (call : VerifyCall) (env : Nat → machine.Env) (s : Store),
      (machine.run (call.handle app) env s).answer.authentic = true →
        ∃ ev : Evidence, ev.Supports app call s ∧ ev.Rises) ∧
    (¬∀ (app : AppState) (call : VerifyCall) (env : Nat → machine.Env) (s : Store),
      (machine.run (call.handle app) env s).answer.authentic = true →
        ∃ ev : Evidence, ev.Supports app call s ∧ ev.Named s) ∧
    ¬∀ (app : AppState) (call : VerifyCall) (env : Nat → machine.Env) (s : Store),
      (machine.run (call.handle app) env s).answer.authentic = true →
        ∃ ev : Evidence, ev.Supports app call s ∧ ev.Circulates := by
  refine ⟨fun hall => ?_, fun hall => ?_, fun hall => ?_⟩
  all_goals
    obtain ⟨ev, hev, hpart⟩ := hall attestedApp zeroScan (fun _ => {}) danglingStore
      zeroScan_authentic
    obtain ⟨hrises, hnamed, hcirculates⟩ := dangling_evidence hev
    first | exact hrises hpart | exact hnamed hpart | exact hcirculates hpart

end Sample

end RcProtocol
