import RcProtocol.Api.Custody
import RcProtocol.Api.ProtocolWrite

/-!
What the protocol write handlers may call and answer, whatever the calls return.
Each handler has one theorem; its callers cite it and never unfold the handler.
-/

namespace RcProtocol
open Library

section Calls
variable {calls : Log → Op → Prop} {log : Log} {α β ε : Type}

/-- A call under `attempt`: the call is allowed, and so is what follows from
each of its answers. -/
theorem meets_attempt_ask {op : Op} {f : op.Answer → Except ε α} {refuse : ε → β}
    {next : α → Service β} {answers : Log → β → Prop} (hop : calls log op)
    (hok : ∀ r a, f r = .ok a → Meets calls answers (log ++ [⟨op, r⟩]) (next a))
    (herror : ∀ r e, f r = .error e → answers (log ++ [⟨op, r⟩]) (refuse e)) :
    Meets calls answers log (((ask op).map f).attempt refuse next) := by
  rw [meets_attempt, meets_map]
  refine ⟨hop, fun r => ?_⟩
  rw [meets_done]
  split
  · next a ha => exact hok r a ha
  · next e he => exact herror r e he

end Calls

/-- Every statement is answered, and draws this id. -/
def quiet (id : Uuid) : machine.Env := ({ uuid := id } : Env)

section Forward
variable {id : Uuid} {s s' : Store}

theorem command_quiet {α : Type} (id : Uuid) {c : Db → Except String (α × Db)} {a : α} {db : Db}
    (h : c s.db = .ok (a, db)) : command (quiet id) s c = (.ok a, { s with db := db }) := by
  simp only [command, quiet, h]

/-- One answered statement, and the work behind it. -/
theorem evaluates_attempt_ask {α β ε : Type} {op : Op} {f : op.Answer → Except ε α}
    {refuse : ε → β} {next : α → Service β} {r : op.Answer} {a : α} {b : β} {s'' : Store}
    (hexec : machine.exec (quiet id) op s = (r, s')) (h : f r = .ok a)
    (hnext : machine.Evaluates (quiet id) (next a) s' b s'') :
    machine.Evaluates (quiet id) (((ask op).map f).attempt refuse next) s b s'' := by
  have hmap := (Machine.evaluates_perform hexec).map f
  rw [h] at hmap
  exact hmap.attempt hnext

end Forward

/-- The calls that issue the virtual mother card of an asset of the brand. -/
inductive CardCall (assetId brandId : String) (log : Log) : Op → Prop
  | select : CardCall assetId brandId log (.selectUidEpoch assetId)
  | device {row : Uuid → AuthorityDeviceRow}
      (hrow : ∀ id, (row id).authorityId = id ∧ (row id).brandId = brandId) :
      CardCall assetId brandId log (.insertAuthorityDevice row)
  | entangle {row : Uuid → EntanglementRow} {device : Uuid → AuthorityDeviceRow}
      {authorityId : Uuid}
      (hdevice : (⟨.insertAuthorityDevice device, .ok authorityId⟩ : Event api) ∈ log)
      (hrow : ∀ id, (row id).assetId = assetId ∧ (row id).authorityId = authorityId) :
      CardCall assetId brandId log (.insertEntanglement row)

theorem generateVirtualMotherCardWithResult_meets (app : AppState) (draws : Draws)
    (assetId brandId actorId : String) (log : Log) :
    Meets (CardCall assetId brandId) (fun _ _ => True) log
      (generateVirtualMotherCardWithResult app draws assetId brandId actorId) := by
  refine meets_attempt_ask .select (fun r snapshot _ => ?_) fun _ _ _ => trivial
  obtain ⟨uid, epoch⟩ := snapshot
  simp only
  split
  · trivial
  split
  · trivial
  refine meets_attempt_ask (.device fun id => ⟨rfl, rfl⟩) (fun r authorityId hr => ?_)
    fun _ _ _ => trivial
  cases r with
  | error e => cases hr
  | ok a =>
      obtain rfl : a = authorityId := Except.ok.inj hr
      refine meets_attempt_ask (.entangle (List.mem_append_right _ (List.mem_singleton_self _))
        fun id => ⟨rfl, rfl⟩) (fun _ _ _ => trivial) fun _ _ _ => trivial

/-- The calls of an activation between its checks and its transaction. -/
inductive IssueCall (assetId : String) : Op → Prop
  | mapping {productId : String} {name url : Option String} :
      IssueCall assetId (.updateProductMapping assetId productId name url)
  | snapshot : IssueCall assetId (.selectActivationSnapshot assetId)
  | commitment {record : AssetCommitmentRecord} :
      IssueCall assetId (.insertAssetCommitment record)
  | bind {commitmentId : String} : IssueCall assetId (.bindAssetCommitment assetId commitmentId)
  | brand {record : AttestationRecord} : IssueCall assetId (.insertBrandAttestation record)
  | platform {record : AttestationRecord} : IssueCall assetId (.insertPlatformAttestation record)

namespace WriteRequest
variable (q : WriteRequest)

/-- The lookup of a new key, and the fetched record. -/
def start (required : RequiredHeaders) (stored : AssetRecord) : Log :=
  [⟨.selectIdempotencyRecord required.idempotencyKey, .ok none⟩,
    ⟨.selectAssetRecord q.assetId, .ok (some stored)⟩]

/-- The request is good for the fetched record, and this is its transaction. -/
structure Writes (required : RequiredHeaders) (stored : AssetRecord) (w : PersistAction) :
    Prop where
  headers : parseRequiredHeaders q.headers = .ok required
  boundary : (∀ call, q ≠ .action call) → checkBrandBoundary q.actor stored.brandId = .ok ()
  applied : Applied (withPrevious stored q.payload) q.act
    (auditContext q.actor required q.payload.buyerId) q.draws.eventId w.nextRecord w.auditEvent
  hash : w.requestHash = q.requestHash required

/-- The calls of a handler besides its lookup, its fetch and its transaction. -/
def SideCall (stored : AssetRecord) (log : Log) (op : Op) : Prop :=
  match q with
  | .activate assetId .. => IssueCall assetId op
  | _ => q.act = .activateEntangle ∧ CardCall q.assetId stored.brandId log op

inductive Calls : Log → Op → Prop
  | lookup {required : RequiredHeaders} (h : parseRequiredHeaders q.headers = .ok required) :
      Calls [] (.selectIdempotencyRecord required.idempotencyKey)
  | fetch {required : RequiredHeaders} (h : parseRequiredHeaders q.headers = .ok required) :
      Calls [⟨.selectIdempotencyRecord required.idempotencyKey, .ok none⟩]
        (.selectAssetRecord q.assetId)
  | side {required : RequiredHeaders} {stored : AssetRecord} {w : PersistAction} {rest : Log}
      {op : Op} (hw : q.Writes required stored w)
      (hop : q.SideCall stored (q.start required stored ++ rest) op) :
      Calls (q.start required stored ++ rest) op
  | persist {required : RequiredHeaders} {stored : AssetRecord} {w : PersistAction} {rest : Log}
      (hw : q.Writes required stored w) (hrest : ¬Committed rest)
      (haction : (∃ call, q = .action call) → rest = []) :
      Calls (q.start required stored ++ rest) (.persistAction w)

/-- What the handler asks of the body before it reads the headers. -/
def Valid : WriteRequest → Prop
  | .action call => ¬(call.action = .legalSell ∧ call.payload.buyerId.all (· = ""))
  | .activate _ _ _ payload _ => payload.externalProductId ≠ ""
  | .activateEntangle .. => True

inductive Answers : Log → Reply → Prop
  | unasked {reply : Reply} (h : reply.status ≠ 200)
      (hq : ¬q.Valid ∨ ∃ e, parseRequiredHeaders q.headers = .error e) : Answers [] reply
  | lookupFailed {required : RequiredHeaders} {e : String}
      (h : parseRequiredHeaders q.headers = .ok required) :
      Answers [⟨.selectIdempotencyRecord required.idempotencyKey, .error e⟩]
        (protocolErrorResponse (.database e))
  | known {required : RequiredHeaders} {record : IdempotencyRecord}
      (h : parseRequiredHeaders q.headers = .ok required) :
      Answers [⟨.selectIdempotencyRecord required.idempotencyKey, .ok (some record)⟩]
        (if record.requestHash ≠ q.requestHash required then
          protocolErrorResponse .idempotencyConflict
        else .ok (.json record.responseSnapshot))
  | fresh {required : RequiredHeaders} {rest : Log} {reply : Reply}
      (h : parseRequiredHeaders q.headers = .ok required)
      (hok : reply.status = 200 → ∃ w, (⟨.persistAction w, .ok ()⟩ : Event api) ∈ rest) :
      Answers (⟨.selectIdempotencyRecord required.idempotencyKey, .ok none⟩ :: rest) reply

end WriteRequest

namespace WriteRequest
variable {q : WriteRequest} {log : Log} {required : RequiredHeaders} {stored : AssetRecord}
  {w : PersistAction}

theorem sideCall_custody {e : Event api} (h : q.SideCall stored log e.op) :
    custodyWrite e = none := by
  obtain ⟨op, a⟩ := e
  cases q with
  | activate => cases h <;> rfl
  | action | activateEntangle => cases h.2 <;> rfl

/-- A transaction follows the lookup, the fetch and side calls. -/
theorem Calls.persist_inv (h : q.Calls log (.persistAction w)) :
    ∃ required stored rest, log = q.start required stored ++ rest ∧
      q.Writes required stored w ∧ ¬Committed rest := by
  cases h with
  | side hw hop => cases sideCall_custody (e := ⟨.persistAction w, .ok ()⟩) hop
  | persist hw hrest _ => exact ⟨_, _, _, rfl, hw, hrest⟩

theorem Calls.ne_transferred {assetId owner : String} {current previous : AssetState}
    (h : q.Calls log (.updateTransferredAsset assetId current previous owner)) : False := by
  cases h with
  | side hw hop =>
      cases sideCall_custody
        (e := ⟨.updateTransferredAsset assetId current previous owner, .ok ()⟩) hop

/-- The transaction is about the fetched asset. -/
theorem Writes.next_assetId (h : q.Writes required stored w) :
    w.nextRecord.assetId = stored.assetId := by
  rw [h.applied.next_eq, withPrevious]
  split <;> rfl

end WriteRequest

theorem protocolErrorResponse_status (err : RcError) :
    (protocolErrorResponse err).status ≠ 200 := by
  cases err <;> simp [protocolErrorResponse]

section Handlers
variable {app : AppState} {q : WriteRequest} {required : RequiredHeaders} {stored : AssetRecord}

open WriteRequest

/-- After the lookup it is enough to look at the work behind a new key. -/
theorem replayOr_meets {fresh : Service Reply}
    (h : parseRequiredHeaders q.headers = .ok required)
    (hfresh : Meets q.Calls q.Answers
      [⟨.selectIdempotencyRecord required.idempotencyKey, .ok none⟩] fresh) :
    Meets q.Calls q.Answers []
      (replayOr (q.requestHash required) required.idempotencyKey fresh) := by
  refine meets_attempt_ask (.lookup h) (fun r record hr => ?_) fun r e hr => ?_
  · cases r with
    | error e => cases hr
    | ok a =>
        obtain rfl : a = record := Except.ok.inj hr
        cases a with
        | none => exact hfresh
        | some record =>
            have hk := @Answers.known q required record h
            simp only
            split
            · next hne =>
              rw [if_pos hne] at hk
              exact hk
            · next heq =>
              rw [if_neg heq] at hk
              exact hk
  · cases r with
    | ok a => cases hr
    | error e' =>
        obtain rfl : RcError.database e' = e := Except.error.inj hr
        exact .lookupFailed h

theorem fetchAsset_meets {next : AssetRecord → Service Reply}
    (h : parseRequiredHeaders q.headers = .ok required)
    (hnext : ∀ stored, Meets q.Calls q.Answers (q.start required stored) (next stored)) :
    Meets q.Calls q.Answers [⟨.selectIdempotencyRecord required.idempotencyKey, .ok none⟩]
      ((fetchAsset q.assetId).attempt protocolErrorResponse next) := by
  refine meets_attempt_ask (.fetch h) (fun r record hr => ?_) fun r e _ => ?_
  · obtain e | record' := r
    · cases hr
    · cases record' with
      | none => cases hr
      | some record' =>
          obtain rfl : record' = record := Except.ok.inj hr
          exact hnext _
  · exact .fresh h fun h => absurd h (protocolErrorResponse_status _)

theorem start_answers {rest : Log} {err : RcError}
    (h : parseRequiredHeaders q.headers = .ok required) :
    q.Answers (q.start required stored ++ rest) (protocolErrorResponse err) :=
  .fresh h fun h => absurd h (protocolErrorResponse_status _)

theorem fetched_answers {err : RcError} (h : parseRequiredHeaders q.headers = .ok required) :
    q.Answers (q.start required stored) (protocolErrorResponse err) :=
  .fresh h fun h => absurd h (protocolErrorResponse_status _)

theorem committed_answers {rest : Log} {reply : Reply}
    (h : parseRequiredHeaders q.headers = .ok required)
    (hrest : ∃ w, (⟨.persistAction w, .ok ()⟩ : Event api) ∈ rest) :
    q.Answers (q.start required stored ++ rest) reply := by
  obtain ⟨w, hw⟩ := hrest
  exact .fresh h fun _ => ⟨w, List.mem_cons_of_mem _ hw⟩

theorem start_calls_persist {w : PersistAction} (hw : q.Writes required stored w) :
    q.Calls (q.start required stored) (.persistAction w) := by
  have h := Calls.persist hw View.not_wrote_nil fun _ => rfl
  rwa [List.append_nil] at h

/-- Issuing the card is a side call wherever it happens. -/
theorem card_meets {w : PersistAction} {rest : Log} {draws : Draws} {actorId : String}
    (hw : q.Writes required stored w) (hq : ∀ a b c d e, q ≠ .activate a b c d e)
    (hact : q.act = .activateEntangle) :
    Meets q.Calls
      (fun log _ => ∃ rest', log = q.start required stored ++ (rest ++ rest') ∧
        ¬Committed rest')
      (q.start required stored ++ rest)
      (generateVirtualMotherCardWithResult app draws q.assetId stored.brandId actorId) := by
  refine (generateVirtualMotherCardWithResult_meets app draws q.assetId stored.brandId actorId
    _).extends.mono ?_ ?_
  · rintro log op ⟨hop, rest', rfl, -⟩
    rw [List.append_assoc] at hop ⊢
    refine .side hw ?_
    cases q with
    | activate a b c d e => exact absurd rfl (hq a b c d e)
    | action | activateEntangle => exact ⟨hact, hop⟩
  · rintro log - ⟨-, rest', rfl, hrest⟩
    refine ⟨rest', List.append_assoc .., View.not_wrote_iff.mpr fun e he => ?_⟩
    obtain ⟨l, hl⟩ := hrest e he
    obtain ⟨op, a⟩ := e
    cases hl <;> rfl

theorem withPrevious_brandId (payload : AssetActionRequest) :
    (withPrevious stored payload).brandId = stored.brandId := by
  unfold withPrevious
  split <;> rfl

theorem executeAssetAction_meets (call : ActionCall) :
    Meets (WriteRequest.action call).Calls (WriteRequest.action call).Answers []
      (call.handle app) := by
  unfold ActionCall.handle executeAssetAction
  split
  · next hbuyer => exact .unasked (protocolErrorResponse_status _) (.inl (not_not_intro hbuyer))
  split
  · next e he => exact .unasked (protocolErrorResponse_status _) (.inr ⟨e, he⟩)
  next required h =>
  refine replayOr_meets (q := .action call) h (fetchAsset_meets h fun stored => ?_)
  simp only
  split
  · exact fetched_answers h
  next nextRecord event happly =>
  have hw : ∀ response, (WriteRequest.action call).Writes required stored
      ⟨nextRecord, event, (WriteRequest.action call).requestHash required, response, none⟩ :=
    fun _ => ⟨h, fun hn => absurd rfl (hn call), applyAction_ok happly, rfl⟩
  refine meets_attempt_ask (start_calls_persist (hw _)) (fun r _ hr => ?_)
    fun _ _ _ => start_answers h
  obtain e | ⟨⟩ := r
  · cases hr
  split
  · next haction =>
    rw [withPrevious_brandId, meets_attempt]
    refine (card_meets (hw .null) (fun _ _ _ _ _ => nofun) haction).mono (fun _ _ h => h) ?_
    rintro log r ⟨rest, rfl, -⟩
    cases r with
    | error e => exact start_answers h
    | ok card =>
        exact committed_answers h ⟨_, List.mem_append_left _ (List.mem_singleton_self _)⟩
  · exact committed_answers h ⟨_, List.mem_singleton_self _⟩

theorem activateEntangleAsset_meets (assetId : String) (actor : ActorContext)
    (headers : HeaderMap) (payload : AssetActionRequest) (draws : Draws) :
    Meets (WriteRequest.activateEntangle assetId actor headers payload draws).Calls
      (WriteRequest.activateEntangle assetId actor headers payload draws).Answers []
      (activateEntangleAsset app draws assetId actor headers payload) := by
  unfold activateEntangleAsset
  split
  · next e he => exact .unasked (protocolErrorResponse_status _) (.inr ⟨e, he⟩)
  next required h =>
  refine replayOr_meets (q := .activateEntangle assetId actor headers payload draws) h
    (fetchAsset_meets h fun stored => ?_)
  split
  · exact fetched_answers h
  next hboundary =>
  simp only
  split
  · exact fetched_answers h
  next nextRecord event happly =>
  have hw : ∀ response, (WriteRequest.activateEntangle assetId actor headers payload
      draws).Writes required stored
      ⟨nextRecord, event, buildRequestHash assetId .activateEntangle payload actor required,
        response, none⟩ :=
    fun _ => ⟨h, fun _ => hboundary, applyAction_ok happly, rfl⟩
  rw [withPrevious_brandId, meets_attempt]
  have hlog := List.append_nil (WriteRequest.start
    (.activateEntangle assetId actor headers payload draws) required stored)
  rw [← hlog]
  refine (card_meets (hw .null) (fun _ _ _ _ _ => nofun) rfl).mono (fun _ _ h => h) ?_
  rintro log r ⟨rest, rfl, hrest⟩
  cases r with
  | error e => exact start_answers h
  | ok card =>
      rw [List.nil_append]
      refine meets_attempt_ask (.persist (hw _) hrest fun ⟨_, hq⟩ => nomatch hq) (fun r _ hr => ?_)
        fun _ _ _ => ?_
      · obtain e | ⟨⟩ := r
        · cases hr
        · rw [List.append_assoc]
          exact committed_answers h ⟨_, List.mem_append_right _ (List.mem_singleton_self _)⟩
      · rw [List.append_assoc]
        exact start_answers h

/-- One side call, and the work after it. -/
theorem side_meets {β : Type} {w : PersistAction} {rest : Log} {op : Op}
    {f : op.Answer → Except RcError β} {next : β → Service Reply}
    (hw : q.Writes required stored w)
    (hop : q.SideCall stored (q.start required stored ++ rest) op) (hrest : ¬Committed rest)
    (hnext : ∀ r a, f r = .ok a → ¬Committed (rest ++ [⟨op, r⟩]) →
      Meets q.Calls q.Answers (q.start required stored ++ (rest ++ [⟨op, r⟩])) (next a)) :
    Meets q.Calls q.Answers (q.start required stored ++ rest)
      (((ask op).map f).attempt protocolErrorResponse next) := by
  refine meets_attempt_ask (.side hw hop) (fun r a hr => ?_) fun r e _ => ?_
  · rw [List.append_assoc]
    refine hnext r a hr (View.not_wrote_append.mpr ⟨hrest, View.not_wrote_iff.mpr fun e he => ?_⟩)
    obtain rfl := List.mem_singleton.mp he
    exact sideCall_custody (e := ⟨op, r⟩) hop
  · rw [List.append_assoc]
    exact start_answers hw.headers

section Activation
variable {assetId : String} {actor : ActorContext} {headers : HeaderMap}
  {payload : ActivateRequest} {draws : Draws}

theorem issueActivation_meets {nextRecord : AssetRecord} {event : AuditEvent} {rest : Log}
    {uid : String} {snapshot : ActivationSnapshot}
    (hw : ∀ response commitmentId,
      (WriteRequest.activate assetId actor headers payload draws).Writes required stored
        ⟨nextRecord, event, activateRequestHash assetId actor required payload, response,
          commitmentId⟩)
    (hrest : ¬Committed rest) :
    Meets (WriteRequest.activate assetId actor headers payload draws).Calls
      (WriteRequest.activate assetId actor headers payload draws).Answers
      ((WriteRequest.activate assetId actor headers payload draws).start required stored ++ rest)
      (issueActivation app draws assetId stored nextRecord event
        (activateRequestHash assetId actor required payload) uid snapshot payload) := by
  have h := (hw .null none).headers
  unfold issueActivation
  refine side_meets (hw .null none) IssueCall.commitment hrest fun _ _ _ hrest => ?_
  refine side_meets (hw .null none) IssueCall.bind hrest fun _ _ _ hrest => ?_
  split
  · exact start_answers h
  refine side_meets (hw .null none) IssueCall.brand hrest fun _ _ _ hrest => ?_
  split
  · exact start_answers h
  refine side_meets (hw .null none) IssueCall.platform hrest fun _ _ _ hrest => ?_
  refine meets_attempt_ask (.persist (hw _ _) hrest fun ⟨_, hq⟩ => nomatch hq)
    (fun r _ hr => ?_) fun _ _ _ => ?_
  · obtain e | ⟨⟩ := r
    · cases hr
    · rw [List.append_assoc]
      exact committed_answers h ⟨_, List.mem_append_right _ (List.mem_singleton_self _)⟩
  · rw [List.append_assoc]
    exact start_answers h

theorem activateAsset_meets :
    Meets (WriteRequest.activate assetId actor headers payload draws).Calls
      (WriteRequest.activate assetId actor headers payload draws).Answers []
      (activateAsset app draws assetId actor headers payload) := by
  unfold activateAsset
  split
  · next hid => exact .unasked (protocolErrorResponse_status _) (.inl (not_not_intro hid))
  split
  · next e he => exact .unasked (protocolErrorResponse_status _) (.inr ⟨e, he⟩)
  next required h =>
  refine replayOr_meets (q := .activate assetId actor headers payload draws) h
    (fetchAsset_meets h fun stored => ?_)
  have hstart := List.append_nil (WriteRequest.start
    (.activate assetId actor headers payload draws) required stored)
  rw [← hstart]
  split
  · exact start_answers h
  next hboundary =>
  simp only
  split
  · exact start_answers h
  next nextRecord event happly =>
  have hw : ∀ response commitmentId,
      (WriteRequest.activate assetId actor headers payload draws).Writes required stored
        ⟨nextRecord, event, activateRequestHash assetId actor required payload, response,
          commitmentId⟩ :=
    fun _ _ => ⟨h, fun _ => hboundary, applyAction_ok happly, rfl⟩
  refine side_meets (hw .null none) IssueCall.mapping View.not_wrote_nil
    fun _ _ _ hrest => ?_
  refine side_meets (hw .null none) IssueCall.snapshot hrest fun _ _ _ hrest => ?_
  split
  · exact start_answers h
  · exact issueActivation_meets hw hrest

end Activation

/-- What every write handler may call and answer. -/
theorem WriteRequest.handle_meets (app : AppState) (q : WriteRequest) :
    Meets q.Calls q.Answers [] (q.handle app) := by
  cases q with
  | action call => exact executeAssetAction_meets call
  | activate => exact activateAsset_meets
  | activateEntangle => exact activateEntangleAsset_meets ..

end Handlers

end RcProtocol
