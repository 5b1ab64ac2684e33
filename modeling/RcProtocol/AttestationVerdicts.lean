import RcProtocol.CommitmentLookup
import RcProtocol.CounterCache

/-!
The verdict on a stored attestation. A signature is decoded after its payload is read,
and what cannot be decoded is an error of the request. What is issued is trimmed, what it
is checked against is not.
-/

namespace RcProtocol
open Library

namespace AttestationKind
variable (kind : AttestationKind) (p : Primitives)

/-- Every secret makes a key. -/
theorem deriveSigningKey_ok (secret : String) : ∃ key, kind.deriveSigningKey p secret = .ok key := by
  rw [deriveSigningKey]
  by_cases hhex : (decide ((trim secret).toList.length = 64) &&
      (trim secret).toList.all fun c => (hexDigit c).isSome) = true
  · rw [if_pos hhex]
    obtain ⟨hlength, hdigits⟩ := Bool.and_eq_true_iff.mp hhex
    obtain ⟨bytes, hbytes, hn⟩ := hexDecodeChars_of_digits (n := 32) (of_decide_eq_true hlength)
      (List.all_eq_true.mp hdigits)
    obtain ⟨key, hkey⟩ := Bytes.ofList?_of_length hn
    rw [hexDecode, hbytes]
    dsimp only
    rw [hkey]
    exact ⟨key, rfl⟩
  · rw [if_neg hhex]
    obtain ⟨key, hkey⟩ := Bytes.ofList?_of_length (p.sha256 (utf8 (trim secret))).length_eq
    dsimp only
    rw [hkey]
    exact ⟨key, rfl⟩

end AttestationKind

/-- The platform of the configuration. -/
def platformIdOf (env : Environment) : String :=
  ((env "RC_PLATFORM_ID").or (env "RC_SYSTEM_ID")).getD "rcprotocol-main"

theorem loadBrandSigningKey_exists (p : Primitives) (env : Environment) :
    ∃ keyId key, loadBrandSigningKey p env = .ok (keyId, key) := by
  obtain ⟨key, hkey⟩ := brandAttestation.deriveSigningKey_ok p
    ((env "RC_BRAND_ATTESTATION_SECRET").getD "rc-brand-attestation-dev-secret")
  exact ⟨_, key, by rw [loadBrandSigningKey, hkey]; rfl⟩

theorem loadPlatformSigningKey_exists (p : Primitives) (env : Environment) :
    ∃ keyId key, loadPlatformSigningKey p env = .ok (platformIdOf env, keyId, key) := by
  obtain ⟨key, hkey⟩ := platformAttestation.deriveSigningKey_ok p
    ((env "RC_PLATFORM_ATTESTATION_SECRET").getD "rc-platform-attestation-dev-secret")
  exact ⟨_, key, by rw [loadPlatformSigningKey, hkey]; rfl⟩

section Issuers
variable {app : AppState} {keyId platformId : String} {key : Bytes 32}

theorem brandIssuer_of_load (h : loadBrandSigningKey app.crypto app.env = .ok (keyId, key))
    (brandId : String) : brandIssuer app brandId = .ok (brandId, key) := by
  rw [brandIssuer, h]
  rfl

theorem platformIssuer_of_load
    (h : loadPlatformSigningKey app.crypto app.env = .ok (platformId, keyId, key)) :
    platformIssuer app = .ok (platformId, key) := by
  rw [platformIssuer, h]
  rfl

end Issuers

/-- Sixty-four bytes in hexadecimal. -/
def SignatureReadable (signature : String) : Prop :=
  ∃ bytes, hexDecode signature = some bytes ∧ bytes.length = 64

def Classified (r : Except RcError String) : Prop :=
  ∃ verdict ∈ ["missing", "invalid", "valid"], r = .ok verdict

/-- Where the payload can be read, so can the signature. -/
def AttestationKind.Decodes (kind : AttestationKind) (record : AttestationRecord) : Prop :=
  (kind.fromValue record.canonicalPayload).isSome = true → SignatureReadable record.signature

section Classification
variable {kind : AttestationKind} {p : Primitives} {commitmentId issuerId : String}
  {record : AttestationRecord} {key : Bytes 32} {payload : AttestationPayloadV1}

theorem verify_ok_iff {signature : String} :
    (∃ valid, kind.verify p payload signature key = .ok valid) ↔ SignatureReadable signature := by
  rw [AttestationKind.verify]
  constructor
  · rintro ⟨valid, h⟩
    split at h
    · cases h
    · next bytes hbytes =>
      split at h
      · cases h
      · next b hb => exact ⟨bytes, hbytes, by rw [← Bytes.toList_of_ofList? hb, b.length_eq]⟩
  · rintro ⟨bytes, hbytes, hlength⟩
    obtain ⟨b, hb⟩ := Bytes.ofList?_of_length hlength
    rw [hbytes]
    dsimp only
    rw [hb]
    exact ⟨_, rfl⟩

theorem validate_of_verify {valid : Bool}
    (hpayload : kind.fromValue record.canonicalPayload = some payload)
    (hvalid : kind.verify p payload record.signature (p.verifyingKey key) = .ok valid) :
    kind.validate p commitmentId record (.ok (issuerId, key)) =
      .ok (if valid = true ∧ payload.assetCommitmentId = commitmentId ∧ payload.issuerId = issuerId ∧
        payload.keyId = record.keyId ∧ payload.statement = record.statement ∧
        payload.version = record.version then "valid" else "invalid") := by
  rw [AttestationKind.validate, hpayload]
  show (kind.verify p payload record.signature (p.verifyingKey key) >>= _) = _
  rw [hvalid]
  rfl

theorem validate_unreadable (h : kind.fromValue record.canonicalPayload = none)
    (issuer : Except RcError (String × Bytes 32)) :
    kind.validate p commitmentId record issuer = .ok "invalid" := by
  rw [AttestationKind.validate, h]

theorem verify_of_validate {verdict : String}
    (hpayload : kind.fromValue record.canonicalPayload = some payload)
    (h : kind.validate p commitmentId record (.ok (issuerId, key)) = .ok verdict) :
    ∃ valid, kind.verify p payload record.signature (p.verifyingKey key) = .ok valid := by
  rw [AttestationKind.validate, hpayload] at h
  have h : (kind.verify p payload record.signature (p.verifyingKey key) >>= _) = .ok verdict := h
  obtain ⟨valid, hvalid, -⟩ := bind_ok h
  exact ⟨valid, hvalid⟩

theorem decodes_of_validate {verdict : String}
    (h : kind.validate p commitmentId record (.ok (issuerId, key)) = .ok verdict) :
    kind.Decodes record := by
  intro hreadable
  obtain ⟨payload, hpayload⟩ := Option.isSome_iff_exists.mp hreadable
  exact verify_ok_iff.mp (verify_of_validate hpayload h)

theorem validate_classified_iff :
    Classified (kind.validate p commitmentId record (.ok (issuerId, key))) ↔ kind.Decodes record := by
  constructor
  · intro ⟨verdict, _, h⟩
    exact decodes_of_validate h
  · intro h
    cases hpayload : kind.fromValue record.canonicalPayload with
    | none => exact ⟨"invalid", by simp, validate_unreadable hpayload _⟩
    | some payload =>
        obtain ⟨valid, hvalid⟩ :
            ∃ valid, kind.verify p payload record.signature (p.verifyingKey key) = .ok valid :=
          verify_ok_iff.mpr (h (by rw [hpayload]; rfl))
        exact ⟨_, by split <;> simp, validate_of_verify hpayload hvalid⟩

end Classification

def AttestationKind.verdictOn (kind : AttestationKind) (p : Primitives) (commitmentId : String)
    (issuer : Except RcError (String × Bytes 32)) : Option AttestationRecord → Except RcError String
  | none => .ok "missing"
  | some record => kind.validate p commitmentId record issuer

section Runs
variable {app : AppState} {asset : AssetVerifyRow} {commitmentId uid uidHex now : String}
  {parsed : SunMessage} {ctr newCtr : UInt32} {previousCtr : Option UInt32} {replay v2 : Bool}
  {s t : Store}

theorem verdictOn_classified_iff {kind : AttestationKind} {p : Primitives} {issuerId : String}
    {key : Bytes 32} {stored : Option AttestationRecord} :
    Classified (kind.verdictOn p commitmentId (.ok (issuerId, key)) stored) ↔
      ∀ record, stored = some record → kind.Decodes record := by
  cases stored with
  | none =>
      constructor
      · intro _ record h
        cases h
      · intro _
        exact ⟨"missing", by simp, rfl⟩
  | some record =>
      rw [AttestationKind.verdictOn, validate_classified_iff]
      constructor
      · intro h record' hrecord
        cases hrecord
        exact h
      · intro h
        exact h record rfl

theorem decodes_of_verdictOn {kind : AttestationKind} {p : Primitives} {issuerId verdict : String}
    {key : Bytes 32} {stored : Option AttestationRecord}
    (h : kind.verdictOn p commitmentId (.ok (issuerId, key)) stored = .ok verdict) :
    ∀ record, stored = some record → kind.Decodes record := by
  intro record hrecord
  rw [hrecord] at h
  exact decodes_of_validate h

theorem evaluates_validateBrandAttestation :
    machine.Evaluates {} (validateBrandAttestation app asset commitmentId) s
      (brandAttestation.verdictOn app.crypto commitmentId (brandIssuer app asset.brandId)
        (s.db.selectBrandAttestation commitmentId)) s := by
  have hread : machine.Evaluates {} ((ask (.selectBrandAttestation commitmentId)).map orDatabase) s
      (.ok (s.db.selectBrandAttestation commitmentId)) s := ⟨rfl, rfl⟩
  apply hread.attempt
  cases s.db.selectBrandAttestation commitmentId with
  | none => exact Machine.evaluates_done
  | some record => exact Machine.evaluates_done

theorem evaluates_validatePlatformAttestation :
    machine.Evaluates {} (validatePlatformAttestation app commitmentId) s
      (platformAttestation.verdictOn app.crypto commitmentId (platformIssuer app)
        (s.db.selectPlatformAttestation commitmentId)) s := by
  have hread : machine.Evaluates {} ((ask (.selectPlatformAttestation commitmentId)).map orDatabase) s
      (.ok (s.db.selectPlatformAttestation commitmentId)) s := ⟨rfl, rfl⟩
  apply hread.attempt
  cases s.db.selectPlatformAttestation commitmentId with
  | none => exact Machine.evaluates_done
  | some record => exact Machine.evaluates_done

theorem brand_classified_iff :
    Classified (machine.run (validateBrandAttestation app asset commitmentId) (fun _ => {}) s).answer ↔
      ∀ record, s.db.selectBrandAttestation commitmentId = some record →
        brandAttestation.Decodes record := by
  obtain ⟨keyId, key, hload⟩ := loadBrandSigningKey_exists app.crypto app.env
  rw [evaluates_validateBrandAttestation.answer, brandIssuer_of_load hload, verdictOn_classified_iff]

theorem platform_classified_iff :
    Classified (machine.run (validatePlatformAttestation app commitmentId) (fun _ => {}) s).answer ↔
      ∀ record, s.db.selectPlatformAttestation commitmentId = some record →
        platformAttestation.Decodes record := by
  obtain ⟨keyId, key, hload⟩ := loadPlatformSigningKey_exists app.crypto app.env
  rw [evaluates_validatePlatformAttestation.answer, platformIssuer_of_load hload,
    verdictOn_classified_iff]

/-- What a verification reads about attestations is the same. -/
structure AttestedAs (db db' : Db) : Prop where
  commitments : db'.commitments = db.commitments
  brand : db'.brandAttestations = db.brandAttestations
  platform : db'.platformAttestations = db.platformAttestations

theorem AttestedAs.resolvedIn (h : AttestedAs s.db t.db) : resolvedIn t asset = resolvedIn s asset := by
  cases hid : asset.assetCommitmentId with
  | some id => rw [resolvedIn_bound hid, resolvedIn_bound hid]
  | none =>
      rw [resolvedIn_unbound hid, resolvedIn_unbound hid, Db.selectCommitmentByUidEpoch,
        h.commitments, Db.selectCommitmentByUidEpoch]

theorem evaluates_resolveAssetCommitmentId :
    machine.Evaluates {} (resolveAssetCommitmentId asset) s (resolvedIn s asset) s := by
  refine ⟨rfl, ?_⟩
  rw [resolveAssetCommitmentId]
  cases asset.assetCommitmentId with
  | some id => rfl
  | none => rfl

theorem evaluates_buildSummary (hid : resolvedIn s asset = .ok (some commitmentId))
    (hbrand : Classified
      (machine.run (validateBrandAttestation app asset commitmentId) (fun _ => {}) s).answer)
    (hplatform : Classified
      (machine.run (validatePlatformAttestation app commitmentId) (fun _ => {}) s).answer) :
    ∃ summary, machine.Evaluates {} (buildSummary app asset) s (.ok summary) s := by
  obtain ⟨brand, -, hbrand⟩ := hbrand
  obtain ⟨platform, -, hplatform⟩ := hplatform
  have hresolve : machine.Evaluates {} (resolveAssetCommitmentId asset) s (resolvedIn s asset) s :=
    evaluates_resolveAssetCommitmentId
  rw [hid] at hresolve
  have hbrand : machine.Evaluates {} (validateBrandAttestation app asset commitmentId) s (.ok brand) s :=
    ⟨hbrand, evaluates_validateBrandAttestation.state⟩
  have hplatform : machine.Evaluates {} (validatePlatformAttestation app commitmentId) s (.ok platform) s :=
    ⟨hplatform, evaluates_validatePlatformAttestation.state⟩
  exact ⟨_, hresolve.attempt (hbrand.attempt (hplatform.attempt Machine.evaluates_done))⟩

theorem evaluates_backfillL2 (app : AppState) (uid : String) (ctr : UInt32) (s : Store) :
    ∃ t, machine.Evaluates {} (backfillL2 app uid ctr) s () t ∧ t.db = s.db := by
  rw [backfillL2]
  split
  · exact ⟨s.setRedis uid (some ctr), ⟨rfl, rfl⟩, rfl⟩
  · exact ⟨s, Machine.evaluates_done, rfl⟩

theorem evaluates_getCtrL3 (app : AppState) (uid : String) (s : Store) :
    ∃ t, machine.Evaluates {} (getCtrL3 app uid) s (.ok (s.db.counterOf uid)) t ∧ t.db = s.db := by
  have hread : machine.Evaluates {} ((ask (.selectLastVerifiedCtr uid)).map orDatabase) s
      (.ok (s.db.selectLastVerifiedCtr uid)) s := ⟨rfl, rfl⟩
  have hl1 : machine.Evaluates {} (ask (.l1Insert app.process uid (s.db.counterOf uid))) s ()
      (s.setL1 app.process uid (some (s.db.counterOf uid))) := ⟨rfl, rfl⟩
  obtain ⟨t, hl2, hdb⟩ := evaluates_backfillL2 app uid (s.db.counterOf uid)
    (s.setL1 app.process uid (some (s.db.counterOf uid)))
  exact ⟨t, hread.attempt (hl1.bind (hl2.map _)), hdb⟩

/-- The counter a scan is compared with. -/
def Store.cachedCtr (s : Store) (app : AppState) (uid : String) : UInt32 :=
  (s.l1 app.process uid).getD
    (if app.redisAvailable then (s.redis uid).getD (s.db.counterOf uid) else s.db.counterOf uid)

/-- A counter can always be read. -/
theorem evaluates_getCtr (app : AppState) (uid : String) (s : Store) :
    ∃ t, machine.Evaluates {} (getCtr app uid) s (.ok (s.cachedCtr app uid)) t ∧ t.db = s.db := by
  have hl1 : machine.Evaluates {} (ask (.l1Get app.process uid)) s (s.l1 app.process uid) s := ⟨rfl, rfl⟩
  rw [Store.cachedCtr]
  cases hcached : s.l1 app.process uid with
  | some ctr =>
      rw [hcached] at hl1
      exact ⟨s, hl1.bind Machine.evaluates_done, rfl⟩
  | none =>
      rw [hcached] at hl1
      obtain ⟨t₃, hl3, hdb₃⟩ := evaluates_getCtrL3 app uid s
      cases havailable : app.redisAvailable with
      | false =>
          refine ⟨t₃, hl1.bind ?_, hdb₃⟩
          dsimp only
          rw [if_neg (by simp [havailable])]
          exact hl3
      | true =>
          have hl2 : machine.Evaluates {} (ask (.redisGet uid)) s (.ok (s.redis uid)) s := ⟨rfl, rfl⟩
          cases hredis : s.redis uid with
          | some ctr =>
              rw [hredis] at hl2
              have hfill : machine.Evaluates {} (ask (.l1Insert app.process uid ctr)) s ()
                  (s.setL1 app.process uid (some ctr)) := ⟨rfl, rfl⟩
              refine ⟨_, hl1.bind ?_, Store.setL1_db s app.process uid (some ctr)⟩
              dsimp only
              rw [if_pos havailable]
              exact hl2.bind (hfill.map _)
          | none =>
              rw [hredis] at hl2
              refine ⟨t₃, hl1.bind ?_, hdb₃⟩
              dsimp only
              rw [if_pos havailable]
              exact hl2.bind hl3

theorem evaluates_answerV2
    (hsummary : ∃ summary, machine.Evaluates {} (buildSummary app asset) s (.ok summary) s) :
    ∃ reply t, machine.Evaluates {} (answerScan app uidHex asset newCtr previousCtr replay true now) s
      reply t ∧ reply.status = 200 := by
  obtain ⟨summary, hsummary⟩ := hsummary
  refine ⟨_, _, hsummary.attempt ⟨rfl, rfl⟩, rfl⟩

theorem evaluates_updateCtr (app : AppState) (uid : String) (ctr : UInt32) (s : Store) :
    ∃ t, machine.Evaluates {} (updateCtr app uid ctr) s () t ∧ t.db = s.db := by
  have hl1 : machine.Evaluates {} (ask (.l1Insert app.process uid ctr)) s ()
      (s.setL1 app.process uid (some ctr)) := ⟨rfl, rfl⟩
  obtain ⟨t, hl2, hdb⟩ := evaluates_backfillL2 app uid ctr (s.setL1 app.process uid (some ctr))
  exact ⟨t, hl1.bind hl2, hdb⟩

theorem evaluates_checkCounter
    (hsummary : ∀ t : Store, AttestedAs s.db t.db →
      ∃ summary, machine.Evaluates {} (buildSummary app asset) t (.ok summary) t) :
    ∃ reply t, machine.Evaluates {} (checkCounter app uidHex asset newCtr true now) s reply t ∧
      reply.status = 200 := by
  obtain ⟨s₁, hread, hdb₁⟩ := evaluates_getCtr app uidHex s
  generalize s.cachedCtr app uidHex = cached at hread
  by_cases hold : newCtr ≤ cached ∧ cached > 0
  · obtain ⟨reply, t, hreply, hstatus⟩ : ∃ reply t, machine.Evaluates {} (answerScan app uidHex asset
        newCtr (if cached = 0 then none else some cached) true true now) s₁ reply t ∧
          reply.status = 200 :=
            evaluates_answerV2 (hsummary s₁ (by rw [hdb₁]; exact ⟨rfl, rfl, rfl⟩))
    refine ⟨reply, t, hread.attempt ?_, hstatus⟩
    dsimp only
    rw [if_pos hold]
    exact hreply
  · have hwrite : machine.Evaluates {} (ask (.updateAssetCtr asset.assetId newCtr.toInt32)) s₁ (.ok ())
        { s₁ with db := s₁.db.updateAssetCtr asset.assetId newCtr.toInt32 } := ⟨rfl, rfl⟩
    obtain ⟨s₃, hcache, hdb₃⟩ := evaluates_updateCtr app uidHex newCtr
      { s₁ with db := s₁.db.updateAssetCtr asset.assetId newCtr.toInt32 }
    obtain ⟨reply, t, hreply, hstatus⟩ : ∃ reply t, machine.Evaluates {} (answerScan app uidHex asset
        newCtr (if cached = 0 then none else some cached) false true now) s₃ reply t ∧
          reply.status = 200 := by
      apply evaluates_answerV2
      apply hsummary
      rw [hdb₃, ← hdb₁]
      exact ⟨rfl, rfl, rfl⟩
    refine ⟨reply, t, hread.attempt ?_, hstatus⟩
    dsimp only
    rw [if_neg hold]
    exact hwrite.attempt (hcache.bind hreply)

end Runs

/-- Whatever is stored under a commitment, each check classifies it, and a scan of an asset
the commitment is resolved for is answered. -/
structure NeverErrs (app : AppState) (commitmentId : String) (s : Store) : Prop where
  brand : ∀ asset, Classified
    (machine.run (validateBrandAttestation app asset commitmentId) (fun _ => {}) s).answer
  platform : Classified
    (machine.run (validatePlatformAttestation app commitmentId) (fun _ => {}) s).answer
  degraded : ∀ (uidHex : String) (asset : AssetVerifyRow),
    s.db.selectAssetByUid uidHex = some asset → resolvedIn s asset = .ok (some commitmentId) →
    (machine.run (handleDegraded app uidHex true) (fun _ => {}) s).answer.status = 200
  scan : ∀ (uidHex : String) (parsed : SunMessage) (now : String) (asset : AssetVerifyRow),
    s.db.selectAssetByUid uidHex = some asset → resolvedIn s asset = .ok (some commitmentId) →
    checkTag app asset.brandId asset.epoch parsed = .ok true →
    (machine.run (handleFullVerify app uidHex parsed true now) (fun _ => {}) s).answer.status = 200

/-- Every stored attestation of the commitment decodes. -/
structure AllDecode (commitmentId : String) (s : Store) : Prop where
  brand : ∀ record, s.db.selectBrandAttestation commitmentId = some record →
    brandAttestation.Decodes record
  platform : ∀ record, s.db.selectPlatformAttestation commitmentId = some record →
    platformAttestation.Decodes record

section NeverErrs
variable {app : AppState} {asset : AssetVerifyRow} {commitmentId uidHex : String} {s t : Store}

theorem AllDecode.summary (h : AllDecode commitmentId s)
    (hid : resolvedIn s asset = .ok (some commitmentId)) (hsame : AttestedAs s.db t.db) :
    ∃ summary, machine.Evaluates {} (buildSummary app asset) t (.ok summary) t := by
  apply evaluates_buildSummary
  · rw [hsame.resolvedIn, hid]
  · apply brand_classified_iff.mpr
    rw [Db.selectBrandAttestation, hsame.brand]
    exact h.brand
  · apply platform_classified_iff.mpr
    rw [Db.selectPlatformAttestation, hsame.platform]
    exact h.platform

theorem evaluates_buildSummary_none (hid : resolvedIn s asset = .ok none) :
    ∃ summary, machine.Evaluates {} (buildSummary app asset) s (.ok summary) s := by
  have hresolve : machine.Evaluates {} (resolveAssetCommitmentId asset) s (resolvedIn s asset) s :=
    evaluates_resolveAssetCommitmentId
  rw [hid] at hresolve
  exact ⟨_, hresolve.attempt Machine.evaluates_done⟩

/-- The first of the two checks that cannot decode its row ends the summary. -/
theorem evaluates_buildSummary_error (hid : resolvedIn s asset = .ok (some commitmentId))
    (h : ¬AllDecode commitmentId s) :
    ∃ e, machine.Evaluates {} (buildSummary app asset) s (.error e) s := by
  have hresolve : machine.Evaluates {} (resolveAssetCommitmentId asset) s (resolvedIn s asset) s :=
    evaluates_resolveAssetCommitmentId
  rw [hid] at hresolve
  have hbrand : machine.Evaluates {} (validateBrandAttestation app asset commitmentId) s _ s :=
    evaluates_validateBrandAttestation
  have hplatform : machine.Evaluates {} (validatePlatformAttestation app commitmentId) s _ s :=
    evaluates_validatePlatformAttestation
  obtain ⟨_, _, hload⟩ := loadBrandSigningKey_exists app.crypto app.env
  obtain ⟨_, _, hload'⟩ := loadPlatformSigningKey_exists app.crypto app.env
  rw [brandIssuer_of_load hload] at hbrand
  rw [platformIssuer_of_load hload'] at hplatform
  generalize hread : AttestationKind.verdictOn brandAttestation _ _ _ _ = verdict at hbrand
  generalize hread' : AttestationKind.verdictOn platformAttestation _ _ _ _ = verdict' at hplatform
  cases verdict with
  | error e => exact ⟨e, hresolve.attempt (hbrand.bind Machine.evaluates_done)⟩
  | ok brand =>
      cases verdict' with
      | error e => exact ⟨e, hresolve.attempt (hbrand.attempt (hplatform.bind Machine.evaluates_done))⟩
      | ok platform => exact absurd ⟨decodes_of_verdictOn hread, decodes_of_verdictOn hread'⟩ h

theorem evaluates_fetchAssetByUid (h : s.db.selectAssetByUid uidHex = some asset) :
    machine.Evaluates {} (fetchAssetByUid uidHex) s (.ok asset) s := by
  refine ⟨?_, rfl⟩
  show found .assetNotFound (.ok (s.db.selectAssetByUid uidHex)) = _
  rw [h]
  rfl

theorem AllDecode.degraded (h : AllDecode commitmentId s)
    (hasset : s.db.selectAssetByUid uidHex = some asset)
    (hid : resolvedIn s asset = .ok (some commitmentId)) :
    (machine.run (handleDegraded app uidHex true) (fun _ => {}) s).answer.status = 200 := by
  obtain ⟨summary, hsummary⟩ : ∃ summary, machine.Evaluates {} (buildSummary app asset) s
      (.ok summary) s := h.summary hid ⟨rfl, rfl, rfl⟩
  have hrun : ∃ reply, machine.Evaluates {} (handleDegraded app uidHex true) s reply s ∧
      reply.status = 200 :=
    ⟨_, (evaluates_fetchAssetByUid hasset).bind (hsummary.attempt Machine.evaluates_done), rfl⟩
  obtain ⟨reply, hrun, hstatus⟩ := hrun
  rw [hrun.answer]
  exact hstatus

theorem AllDecode.scan {parsed : SunMessage} {now : String} (h : AllDecode commitmentId s)
    (hasset : s.db.selectAssetByUid uidHex = some asset)
    (hid : resolvedIn s asset = .ok (some commitmentId))
    (htag : checkTag app asset.brandId asset.epoch parsed = .ok true) :
    (machine.run (handleFullVerify app uidHex parsed true now) (fun _ => {}) s).answer.status =
      200 := by
  obtain ⟨reply, t, hreply, hstatus⟩ : ∃ reply t, machine.Evaluates {}
      (checkCounter app uidHex asset parsed.ctrValue true now) s reply t ∧ reply.status = 200 :=
    evaluates_checkCounter fun t hsame => h.summary hid hsame
  have hrun : machine.Evaluates {} (handleFullVerify app uidHex parsed true now) s reply t := by
    apply (evaluates_fetchAssetByUid hasset).bind
    dsimp only
    rw [htag]
    exact hreply
  rw [hrun.answer]
  exact hstatus

end NeverErrs

/-- A corrupt attestation is an error exactly when its payload can be read and its
signature cannot. -/
theorem never_errs_iff (app : AppState) (commitmentId : String) (s : Store) :
    NeverErrs app commitmentId s ↔ AllDecode commitmentId s := by
  constructor
  · intro h
    exact
      { brand := brand_classified_iff.mp (h.brand ⟨"", "", none, "", .preMinted, none, 0, none⟩)
        platform := platform_classified_iff.mp h.platform }
  · intro h
    exact
      { brand := fun asset => brand_classified_iff.mpr h.brand
        platform := platform_classified_iff.mpr h.platform
        degraded := fun uidHex asset => h.degraded
        scan := fun uidHex parsed now asset => h.scan }

section Sample

/-- The stored brand signature is not hexadecimal. -/
def corruptStore : Store where
  db := { danglingStore.db with
    brandAttestations := .single (attestation brandAttestation "brand" "brand-key-2026-01" "zz") }

def zeroMessage : SunMessage :=
  ⟨hexBytes 7 "04A31B2C3D4E5F", hexBytes 3 "000000", hexBytes 8 "0d520c5f32f65da7"⟩

theorem corruptStore_row : ∃ asset, corruptStore.db.selectAssetByUid "04A31B2C3D4E5F" = some asset ∧
    resolvedIn corruptStore asset = .ok (some "commitment_test_v2") ∧
    checkTag attestedApp asset.brandId asset.epoch zeroMessage = .ok true :=
  ⟨_, rfl, rfl, by decide +kernel⟩

theorem corruptStore_scan :
    (machine.run (handleFullVerify attestedApp "04A31B2C3D4E5F" zeroMessage true "") (fun _ => {})
      corruptStore).answer.status = 500 := by
  decide +kernel

theorem corrupt_row_errs :
    ¬∀ (app : AppState) (commitmentId : String) (s : Store), NeverErrs app commitmentId s := by
  intro h
  obtain ⟨asset, hasset, hid, htag⟩ := corruptStore_row
  have hanswered := (h attestedApp "commitment_test_v2" corruptStore).scan "04A31B2C3D4E5F"
    zeroMessage "" asset hasset hid htag
  rw [corruptStore_scan] at hanswered
  cases hanswered

end Sample

end RcProtocol
