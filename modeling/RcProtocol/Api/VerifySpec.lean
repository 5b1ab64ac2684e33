import RcProtocol.Api.Verify
import RcProtocol.Api.WriteSpec

/-!
What a verification may call and answer. The one operation it writes assets with
follows the read of the counter; an accepting answer follows that operation.
-/

namespace RcProtocol
open Library

/-- The calls of a verification that write no asset. -/
inductive VerifyOp : Op → Prop
  | asset {uid : String} : VerifyOp (.selectAssetByUid uid)
  | ctr {uid : String} : VerifyOp (.selectLastVerifiedCtr uid)
  | commitment {uid : String} {epoch : Int32} : VerifyOp (.selectCommitmentByUidEpoch uid epoch)
  | brand {commitmentId : String} : VerifyOp (.selectBrandAttestation commitmentId)
  | platform {commitmentId : String} : VerifyOp (.selectPlatformAttestation commitmentId)
  | event {assetId : Option String} {row : String → VerificationEventRow} :
      VerifyOp (.insertVerificationEvent assetId row)
  | l1Get {process : Nat} {uid : String} : VerifyOp (.l1Get process uid)
  | l1Insert {process : Nat} {uid : String} {ctr : UInt32} : VerifyOp (.l1Insert process uid ctr)
  | redisGet {uid : String} : VerifyOp (.redisGet uid)
  | redisSetEx {uid : String} {ctr : UInt32} : VerifyOp (.redisSetEx uid ctr)

/-- The filling of a cache level. -/
inductive Backfill : Op → Prop
  | l1 {process : Nat} {uid : String} {ctr : UInt32} : Backfill (.l1Insert process uid ctr)
  | l2 {uid : String} {ctr : UInt32} : Backfill (.redisSetEx uid ctr)

/-- The events of a counter read and the counter it returns, by the level that
answered. -/
inductive CtrRead (process : Nat) (uid : String) : Log → UInt32 → Prop
  | l1 {ctr : UInt32} : CtrRead process uid [⟨.l1Get process uid, some ctr⟩] ctr
  | l2 {ctr : UInt32} :
      CtrRead process uid
        [⟨.l1Get process uid, none⟩, ⟨.redisGet uid, .ok (some ctr)⟩, ⟨.l1Insert process uid ctr, ()⟩]
        ctr
  | l3 {missed backfill : Log} {stored : Option (Option Int32)}
      (hmissed : ∀ e ∈ missed, e.op = .redisGet uid)
      (hbackfill : ∀ e ∈ backfill, Backfill e.op) :
      CtrRead process uid
        (⟨.l1Get process uid, none⟩ ::
          (missed ++ ⟨.selectLastVerifiedCtr uid, .ok stored⟩ :: backfill))
        (stored.join.getD 0).toUInt32

section Cache
variable {app : AppState} {uid : String} {log : Log}

theorem backfillL2_meets (ctr : UInt32) :
    Meets (fun _ => VerifyOp)
      (fun log' _ => ∃ rest, log' = log ++ rest ∧ ∀ e ∈ rest, Backfill e.op) log
      (backfillL2 app uid ctr) := by
  unfold backfillL2
  split
  · rw [meets_map]
    refine ⟨.redisSetEx, fun r => ⟨_, rfl, fun e he => ?_⟩⟩
    obtain rfl := List.mem_singleton.mp he
    exact .l2
  · exact ⟨[], (List.append_nil log).symm, fun e he => absurd he List.not_mem_nil⟩

theorem getCtrL3_meets {missed : Log} (hmissed : ∀ e ∈ missed, e.op = .redisGet uid) :
    Meets (fun _ => VerifyOp)
      (fun log' r => ∀ cached, r = .ok cached →
        ∃ read, log' = log ++ read ∧ CtrRead app.process uid read cached)
      (log ++ ⟨.l1Get app.process uid, none⟩ :: missed) (getCtrL3 app uid) := by
  refine meets_attempt_ask .ctr (fun r stored hr => ?_) fun _ _ _ _ h => nomatch h
  obtain e | stored' := r
  · cases hr
  obtain rfl : stored' = stored := Except.ok.inj hr
  rw [meets_bind]
  refine ⟨.l1Insert, fun _ => ?_⟩
  rw [meets_done, meets_map]
  refine (backfillL2_meets _).mono (fun _ _ h => h) ?_
  rintro log' - ⟨rest, rfl, hrest⟩ cached hcached
  obtain rfl := Except.ok.inj hcached
  have hbackfill : ∀ e ∈ (⟨.l1Insert app.process uid (stored'.join.getD 0).toUInt32, ()⟩ ::
      rest : Log), Backfill e.op := by
    intro e he
    obtain rfl | he := List.mem_cons.mp he
    · exact .l1
    · exact hrest e he
  exact ⟨_, by simp, .l3 hmissed hbackfill⟩

theorem getCtr_meets :
    Meets (fun _ => VerifyOp)
      (fun log' r => ∀ cached, r = .ok cached →
        ∃ read, log' = log ++ read ∧ CtrRead app.process uid read cached)
      log (getCtr app uid) := by
  unfold getCtr
  rw [meets_bind]
  refine ⟨.l1Get, fun r => ?_⟩
  cases r with
  | some ctr =>
      intro cached hcached
      obtain rfl := Except.ok.inj hcached
      exact ⟨_, rfl, .l1⟩
  | none =>
      rw [meets_done]
      simp only
      split
      · rw [meets_bind]
        refine ⟨.redisGet, fun r => ?_⟩
        rw [meets_done]
        split
        · next ctr =>
          rw [meets_map]
          refine ⟨.l1Insert, fun _ cached hcached => ?_⟩
          obtain rfl := Except.ok.inj hcached
          exact ⟨_, by rw [List.append_assoc, List.append_assoc]; rfl, .l2⟩
        · rw [List.append_assoc]
          apply getCtrL3_meets
          intro e he
          obtain rfl := List.mem_singleton.mp he
          rfl
      · apply getCtrL3_meets
        intro e he
        cases he

end Cache

namespace Body

/-- The verdict on a scan with a valid CMAC, without `replay_suspected`. -/
def accepts : Body → Bool
  | .verify r => r.scanMetadata.isSome && !r.riskFlags.contains "replay_suspected"
  | .verifyV2 r => r.scanMetadata.isSome && !r.riskFlags.contains "replay_suspected"
  | _ => false

def isAuthentic : Body → Bool
  | .verifyV2 r => r.verificationStatus = "authentic"
  | _ => false

end Body

namespace Reply
variable (reply : Reply)

def accepted : Bool := reply.status = 200 && reply.body.accepts

def authentic : Bool := reply.status = 200 && reply.body.isAuthentic

end Reply

/-- Both attestations that were read are valid, for one commitment id: the bound
one, or the one stored for the uid and the epoch. -/
structure Attested (app : AppState) (row : AssetVerifyRow) (log : Log) (commitmentId : String) :
    Prop where
  commitment : row.assetCommitmentId = some commitmentId ∨
    row.assetCommitmentId = none ∧ ∃ record,
      (⟨.selectCommitmentByUidEpoch row.uid row.epoch, .ok (some record)⟩ : Event api) ∈ log ∧
        record.commitmentId = commitmentId
  brand : ∃ record, (⟨.selectBrandAttestation commitmentId, .ok (some record)⟩ : Event api) ∈ log ∧
    brandAttestation.validate app.crypto commitmentId record (brandIssuer app row.brandId) =
      .ok "valid"
  platform : ∃ record,
    (⟨.selectPlatformAttestation commitmentId, .ok (some record)⟩ : Event api) ∈ log ∧
      platformAttestation.validate app.crypto commitmentId record (platformIssuer app) =
        .ok "valid"

theorem Attested.append {app : AppState} {row : AssetVerifyRow} {log : Log} {commitmentId : String}
    (h : Attested app row log commitmentId) (log' : Log) :
    Attested app row (log ++ log') commitmentId := by
  refine ⟨h.commitment.imp_right fun ⟨hn, record, hr, hid⟩ =>
    ⟨hn, record, List.mem_append_left _ hr, hid⟩, ?_, ?_⟩
  · obtain ⟨record, hr, hv⟩ := h.brand
    exact ⟨record, List.mem_append_left _ hr, hv⟩
  · obtain ⟨record, hr, hv⟩ := h.platform
    exact ⟨record, List.mem_append_left _ hr, hv⟩

namespace VerifyCall

/-- An authenticated scan whose counter was found fresh. -/
structure Fresh (app : AppState) (call : VerifyCall) (uidHex : String) (message : SunMessage)
    (row : AssetVerifyRow) (read : Log) (cached : UInt32) : Prop where
  uid : call.params.uid = some uidHex
  parsed : parseSunParams call.params = .ok message
  tag : checkTag app row.brandId row.epoch message = .ok true
  read : CtrRead app.process uidHex read cached
  fresh : ¬(message.ctrValue ≤ cached ∧ cached > 0)

inductive Calls (app : AppState) (call : VerifyCall) : Log → Op → Prop
  | side {log : Log} {op : Op} (h : VerifyOp op) : Calls app call log op
  | update {uidHex : String} {message : SunMessage} {row : AssetVerifyRow} {read : Log}
      {cached : UInt32} (h : call.Fresh app uidHex message row read cached) :
      Calls app call (⟨.selectAssetByUid uidHex, .ok (some row)⟩ :: read)
        (.updateAssetCtr row.assetId message.ctrValue.toInt32)

/-- The scan of the log was accepted, and its counter stored. -/
def Updated (app : AppState) (call : VerifyCall) (row : AssetVerifyRow) (log : Log) : Prop :=
  ∃ uidHex message read cached rest, call.Fresh app uidHex message row read cached ∧
    log = ⟨.selectAssetByUid uidHex, .ok (some row)⟩ ::
      (read ++ ⟨.updateAssetCtr row.assetId message.ctrValue.toInt32, .ok ()⟩ :: rest)

def Answers (app : AppState) (call : VerifyCall) (log : Log) (reply : Reply) : Prop :=
  reply.accepted = true ∨ reply.authentic = true →
    ∃ row, call.Updated app row log ∧
      (reply.authentic = true → (evaluateStatus row.currentState).1 ≠ "restricted" ∧
        ∃ commitmentId, Attested app row log commitmentId)

end VerifyCall

namespace VerifyCall
variable {app : AppState} {call : VerifyCall} {log : Log} {row : AssetVerifyRow}

theorem Updated.append (h : call.Updated app row log) (log' : Log) :
    call.Updated app row (log ++ log') := by
  obtain ⟨uidHex, message, read, cached, rest, hfresh, rfl⟩ := h
  exact ⟨uidHex, message, read, cached, rest ++ log', hfresh, by simp⟩

theorem quiet_answers {reply : Reply} (haccepts : reply.body.accepts = false)
    (hauthentic : reply.body.isAuthentic = false) : call.Answers app log reply := by
  rintro (h | h)
  · simp [Reply.accepted, haccepts] at h
  · simp [Reply.authentic, hauthentic] at h

theorem failedResponse_answers (status : Nat) (v2 : Bool) :
    call.Answers app log (failedResponse status v2) := by
  unfold failedResponse
  split <;> exact quiet_answers rfl rfl

theorem unknownTag_answers (v2 : Bool) : call.Answers app log (unknownTag v2) := by
  unfold unknownTag
  split <;> exact quiet_answers rfl rfl

theorem authenticationFailed_answers (v2 : Bool) :
    call.Answers app log (authenticationFailed row v2) := by
  unfold authenticationFailed
  split <;> exact quiet_answers rfl rfl

theorem resolveAssetCommitmentId_meets {next : Option String → Service (Except RcError Summary)}
    {answers : Log → Except RcError Summary → Prop}
    (herror : ∀ log e, answers log (.error e))
    (hnext : ∀ log' id, (∀ commitmentId, id = some commitmentId →
      row.assetCommitmentId = some commitmentId ∨ row.assetCommitmentId = none ∧ ∃ record,
        (⟨.selectCommitmentByUidEpoch row.uid row.epoch, .ok (some record)⟩ : Event api) ∈ log' ∧
          record.commitmentId = commitmentId) →
      Meets (fun _ => VerifyOp) answers log' (next id)) :
    Meets (fun _ => VerifyOp) answers log
      ((resolveAssetCommitmentId row).attempt .error next) := by
  unfold resolveAssetCommitmentId
  split
  · next id hid => exact hnext log _ fun commitmentId h => .inl (hid.trans h)
  · next hnone =>
    refine meets_attempt_ask .commitment (fun r id hr => ?_) fun _ _ _ => herror _ _
    obtain e | record := r
    · cases hr
    obtain rfl : record.map (·.commitmentId) = id := Except.ok.inj hr
    refine hnext _ _ fun commitmentId h => ?_
    obtain ⟨record', hrecord, hid⟩ := Option.map_eq_some_iff.mp h
    refine .inr ⟨hnone, record', ?_, hid⟩
    rw [hrecord]
    exact List.mem_append_right _ (List.mem_singleton_self _)

/-- One attestation is read and judged. -/
theorem validate_meets {kind : AttestationKind} {commitmentId : String}
    {issuer : Except RcError (String × Bytes 32)} {op : Op}
    {f : op.Answer → Except RcError (Option AttestationRecord)}
    {next : String → Service (Except RcError Summary)}
    {answers : Log → Except RcError Summary → Prop} (hop : VerifyOp op)
    (herror : ∀ log e, answers log (.error e))
    (hnext : ∀ r verdict,
      (verdict = "valid" → ∃ record, f r = .ok (some record) ∧
        kind.validate app.crypto commitmentId record issuer = .ok "valid") →
      Meets (fun _ => VerifyOp) answers (log ++ [⟨op, r⟩]) (next verdict)) :
    Meets (fun _ => VerifyOp) answers log
      ((((ask op).map f).attempt .error fun
        | none => .done (.ok "missing")
        | some record =>
            .done (kind.validate app.crypto commitmentId record issuer)).attempt .error next) := by
  rw [meets_attempt]
  refine meets_attempt_ask hop (fun r record hr => ?_) fun _ _ _ => herror _ _
  cases record with
  | none => exact hnext r _ (by simp)
  | some record =>
      rw [meets_done]
      cases hv : kind.validate app.crypto commitmentId record issuer with
      | error e => exact herror _ _
      | ok verdict =>
          refine hnext r verdict ?_
          rintro rfl
          exact ⟨record, hr, hv⟩

/-- A summary with two valid attestations is about one commitment. -/
theorem buildSummary_meets :
    Meets (fun _ => VerifyOp)
      (fun log' r => ∀ s, r = .ok s → s.brand = "valid" → s.platform = "valid" →
        ∃ commitmentId, Attested app row log' commitmentId)
      log (buildSummary app row) := by
  refine resolveAssetCommitmentId_meets (fun _ _ _ h => nomatch h) fun log' id hid => ?_
  cases id with
  | none =>
      intro s hs hbrand _
      obtain rfl := Except.ok.inj hs
      simp at hbrand
  | some commitmentId =>
      refine validate_meets .brand (fun _ _ _ h => nomatch h) fun r brand hbrand => ?_
      refine validate_meets .platform (fun _ _ _ h => nomatch h) fun r' platform hplatform => ?_
      intro s hs hb hp
      obtain rfl := Except.ok.inj hs
      obtain ⟨record, hr, hv⟩ := hbrand hb
      obtain ⟨record', hr', hv'⟩ := hplatform hp
      have hr := orDatabase_ok hr
      have hr' := orDatabase_ok hr'
      subst hr hr'
      refine ⟨commitmentId, ?_, ⟨record, ?_, hv⟩, ⟨record', ?_, hv'⟩⟩
      · exact (hid commitmentId rfl).imp_right fun ⟨hn, record, hmem, hid⟩ =>
          ⟨hn, record, List.mem_append_left _ (List.mem_append_left _ hmem), hid⟩
      · exact List.mem_append_left _ (List.mem_append_right _ (List.mem_singleton_self _))
      · exact List.mem_append_right _ (List.mem_singleton_self _)

/-- Calls that write no asset keep what the log already shows. -/
theorem verifyOp_meets {α : Type} {answers : Log → α → Prop} {p : Service α}
    (h : Meets (fun _ => VerifyOp) answers log p) :
    Meets (call.Calls app) (fun log' a => answers log' a ∧ ∃ rest, log' = log ++ rest) log p :=
  h.extends.mono (fun _ _ h => .side h.1) fun _ _ ⟨h, rest, hrest, _⟩ => ⟨h, rest, hrest⟩

theorem insertVerificationEvent_meets {uid : String} {assetId : Option String} {ctr : Int32}
    {status : String} {riskFlags : List String} {cmacValid : Bool} :
    Meets (fun _ => VerifyOp) (fun _ _ => True) log
      (insertVerificationEvent uid assetId ctr status riskFlags cmacValid) :=
  ⟨.event, fun _ => True.intro⟩

theorem v2Status_authentic {replay : Bool} {s : Summary} {stateStatus : String}
    (h : v2Status replay s stateStatus = "authentic") :
    replay = false ∧ s.brand = "valid" ∧ s.platform = "valid" ∧ stateStatus ≠ "restricted" := by
  unfold v2Status at h
  split at h
  · simp at h
  next hreplay =>
  split at h
  · simp at h
  next hvalid =>
  split at h
  · simp at h
  next hstate =>
  simp only [ne_eq, not_or, not_not] at hvalid
  exact ⟨by simpa using hreplay, hvalid.1, hvalid.2, hstate⟩

/-- The answer to a scan accepts it only when it is no replay. -/
theorem answerScan_meets {uidHex now : String} {newCtr : UInt32} {previousCtr : Option UInt32}
    {replay v2 : Bool} (hupdated : replay = false → call.Updated app row log) :
    Meets (call.Calls app) (call.Answers app) log
      (answerScan app uidHex row newCtr previousCtr replay v2 now) := by
  unfold answerScan
  split
  · rw [answerV2, meets_attempt]
    refine (verifyOp_meets buildSummary_meets).mono (fun _ _ h => h) ?_
    rintro log' r ⟨hsummary, rest, rfl⟩
    cases r with
    | error e => exact failedResponse_answers _ _
    | ok s =>
        simp only
        rw [meets_map]
        refine ⟨.side .event, fun r h => ?_⟩
        have hreplay : replay = false := by
          obtain h | h := h
          · cases replay <;> simp_all [Reply.accepted, Body.accepts, Reply.ok]
          · simp only [Reply.authentic, Body.isAuthentic, Reply.ok, Bool.and_eq_true,
              decide_eq_true_eq] at h
            exact (v2Status_authentic h.2).1
        refine ⟨row, ((hupdated hreplay).append _).append _, fun hauthentic => ?_⟩
        simp only [Reply.authentic, Body.isAuthentic, Reply.ok, Bool.and_eq_true,
          decide_eq_true_eq] at hauthentic
        obtain ⟨-, hbrand, hplatform, hstate⟩ := v2Status_authentic hauthentic.2
        obtain ⟨commitmentId, hattested⟩ := hsummary s rfl hbrand hplatform
        exact ⟨hstate, commitmentId, hattested.append _⟩
  · rw [answerV1, meets_map]
    refine (verifyOp_meets insertVerificationEvent_meets).mono (fun _ _ h => h) ?_
    rintro log' - ⟨-, rest, rfl⟩ h
    have hreplay : replay = false := by
      obtain h | h := h
      · cases replay <;> simp_all [Reply.accepted, Body.accepts, Reply.ok]
      · simp [Reply.authentic, Body.isAuthentic, Reply.ok] at h
    refine ⟨row, (hupdated hreplay).append _, fun hauthentic => ?_⟩
    simp [Reply.authentic, Body.isAuthentic, Reply.ok] at hauthentic

theorem updateCtr_meets {uid : String} {newCtr : UInt32} :
    Meets (fun _ => VerifyOp) (fun _ _ => True) log (updateCtr app uid newCtr) := by
  rw [updateCtr, meets_bind]
  refine ⟨.l1Insert, fun _ => ?_⟩
  exact (backfillL2_meets newCtr).mono (fun _ _ h => h) fun _ _ _ => True.intro

theorem checkCounter_meets {uidHex : String} {message : SunMessage} {v2 : Bool} {now : String}
    (huid : call.params.uid = some uidHex) (hparsed : parseSunParams call.params = .ok message)
    (htag : checkTag app row.brandId row.epoch message = .ok true) :
    Meets (call.Calls app) (call.Answers app) [⟨.selectAssetByUid uidHex, .ok (some row)⟩]
      (checkCounter app uidHex row message.ctrValue v2 now) := by
  rw [checkCounter, meets_attempt]
  refine (verifyOp_meets getCtr_meets).mono (fun _ _ h => h) ?_
  rintro log' r ⟨hread, -⟩
  cases r with
  | error e => exact failedResponse_answers _ _
  | ok cached =>
      obtain ⟨read, rfl, hcached⟩ := hread cached rfl
      simp only
      split
      · exact answerScan_meets nofun
      · next hfresh =>
        have h : call.Fresh app uidHex message row read cached :=
          ⟨huid, hparsed, htag, hcached, hfresh⟩
        rw [List.singleton_append, meets_attempt]
        refine ⟨.update h, fun r => ?_⟩
        cases r with
        | error e => exact failedResponse_answers _ _
        | ok a =>
            rw [meets_done]
            simp only
            rw [meets_bind]
            refine (verifyOp_meets updateCtr_meets).mono (fun _ _ h => h) ?_
            rintro log' - ⟨-, rest, rfl⟩
            refine answerScan_meets fun _ => ⟨uidHex, message, read, cached, rest, h, ?_⟩
            simp

theorem handleFullVerify_meets {uidHex : String} {message : SunMessage} {v2 : Bool} {now : String}
    (huid : call.params.uid = some uidHex) (hparsed : parseSunParams call.params = .ok message) :
    Meets (call.Calls app) (call.Answers app) []
      (handleFullVerify app uidHex message v2 now) := by
  rw [handleFullVerify, fetchAssetByUid, meets_bind, meets_map]
  refine ⟨.side .asset, fun r => ?_⟩
  rw [meets_done]
  split
  · next row hrow =>
    obtain e | _ | row' := r
    · cases hrow
    · cases hrow
    obtain rfl : row' = row := Except.ok.inj hrow
    split
    · exact failedResponse_answers _ _
    · rw [meets_map]
      exact (verifyOp_meets insertVerificationEvent_meets).mono (fun _ _ h => h)
        fun _ _ _ => authenticationFailed_answers v2
    · next htag => exact checkCounter_meets huid hparsed htag
  · rw [meets_map]
    exact (verifyOp_meets insertVerificationEvent_meets).mono (fun _ _ h => h)
      fun _ _ _ => unknownTag_answers v2
  · exact failedResponse_answers _ _

theorem handleDegraded_meets {uidHex : String} {v2 : Bool} :
    Meets (call.Calls app) (call.Answers app) [] (handleDegraded app uidHex v2) := by
  rw [handleDegraded, fetchAssetByUid, meets_bind, meets_map]
  refine ⟨.side .asset, fun r => ?_⟩
  rw [meets_done]
  split
  · split
    · rw [meets_attempt]
      refine (verifyOp_meets buildSummary_meets).mono (fun _ _ h => h) ?_
      rintro log' r -
      cases r with
      | error e => exact failedResponse_answers _ _
      | ok s => exact quiet_answers rfl rfl
    · exact quiet_answers rfl rfl
  · exact unknownTag_answers v2
  · exact failedResponse_answers _ _

theorem verifyImpl_meets (app : AppState) (call : VerifyCall) :
    Meets (call.Calls app) (call.Answers app) [] (call.handle app) := by
  rw [VerifyCall.handle, verifyImpl]
  split
  · exact failedResponse_answers _ _
  next uidHex huid =>
  split
  · exact handleDegraded_meets
  split
  · exact failedResponse_answers _ _
  next message hparsed => exact handleFullVerify_meets huid hparsed

end VerifyCall

end RcProtocol
