import RcProtocol.Api.Envelope
import RcProtocol.Bff.Upstream
import RcProtocol.Gateway.Headers
import RcProtocol.WorkorderActions

/-!
The calls the Go services write to rc-api with, against what its handlers require.
The client of the workorders sends no body, and neither client passes the idempotency
key on, so that every one of these calls is turned away.
-/

namespace RcProtocol
open Library Workorders Bff

inductive WriteCall where
  | freeze
  | recover (approvalID : String)
  | markTampered
  | markCompromised
  | transferAsset (body : RawMessage)

namespace WriteCall

/-- What is sent for an incoming request with this header. -/
def request (workorder : RcApiClient) (bff : UpstreamClient) (header : Header) (assetID : String) :
    WriteCall → OutgoingRequest :=
  let action (name approvalID : String) : OutgoingRequest :=
    RcApiClient.callRequest "POST" (workorder.assetURL assetID name) (header.get "Authorization")
      (header.get "X-Trace-Id") approvalID
  fun
  | freeze => action "freeze" ""
  | recover approvalID => action "recover" approvalID
  | markTampered => action "mark-tampered" ""
  | markCompromised => action "mark-compromised" ""
  | transferAsset body => bff.transferAsset assetID header body

/-- The handler of the call takes the envelope of the request. -/
def accepted (request : OutgoingRequest) : WriteCall → Bool
  | transferAsset _ => (transferEnvelope request).isOk
  | _ => (actionEnvelope request).isOk

end WriteCall

/-- The headers of the protocol that a client sends along, as the gateway forwards them. -/
def ProtocolHeaders (header : Header) : Prop :=
  (Uuid.parseStr (header.get "X-Trace-Id")).isSome = true ∧ header.get "X-Idempotency-Key" ≠ ""

section Envelopes
variable {method url authHeader traceID approvalID : String}

theorem callHeader_untyped :
    (RcApiClient.callHeader authHeader traceID approvalID).values "Content-Type" = [] := by
  dsimp only [RcApiClient.callHeader]
  rw [Header.values_ite_set_other (by decide), Header.values_ite_set_other (by decide),
    Header.values_ite_set_other (by decide)]
  rfl

/-- The client of the workorders sends nothing that could be read as JSON. -/
theorem callRequest_rejected :
    actionEnvelope (RcApiClient.callRequest method url authHeader traceID approvalID) =
      .error .unsupportedMediaType := by
  have huntyped : (RcApiClient.callRequest method url authHeader traceID approvalID).header.values
      "Content-Type" = [] := callHeader_untyped
  simp only [actionEnvelope, extractJson, huntyped]
  rfl

theorem transferAsset_unkeyed (c : UpstreamClient) (assetID : String) (header : Header)
    (body : RawMessage) :
    (c.transferAsset assetID header body).header.values "X-Idempotency-Key" = [] := by
  dsimp only [UpstreamClient.transferAsset, UpstreamClient.rcApiDoWithGatewayAuth, doInternal]
  rw [Header.values_ite_set_other (by decide), Header.values_ite_set_other (by decide),
    Header.values_ite_set_other (by decide), Header.values_ite_set_other (by decide),
    Header.values_ite_set_other (by decide)]
  rfl

/-- A transfer that comes through the BFF lacks its idempotency key. -/
theorem transferAsset_rejected (c : UpstreamClient) (assetID : String) (header : Header)
    (body : RawMessage) : (transferEnvelope (c.transferAsset assetID header body)).isOk = false := by
  have hkey : requiredHeader (.ofHeader (c.transferAsset assetID header body).header)
      "X-Idempotency-Key" = .error (.missingRequiredHeader "X-Idempotency-Key") := by
    simp only [requiredHeader, HeaderMap.ofHeader, transferAsset_unkeyed, List.head?_nil,
      Option.map_none]
  simp only [transferEnvelope, hkey]
  cases extractJson (c.transferAsset assetID header body).header
    (c.transferAsset assetID header body).body with
  | error e => rfl
  | ok payload => rfl

theorem never_accepted (workorder : RcApiClient) (bff : UpstreamClient) (header : Header)
    (assetID : String) (call : WriteCall) :
    call.accepted (call.request workorder bff header assetID) = false := by
  cases call with
  | transferAsset body => exact transferAsset_rejected bff assetID header body
  | freeze | recover _ | markTampered | markCompromised =>
      exact congrArg Except.isOk callRequest_rejected

end Envelopes

namespace Workorders

/-- A call of the workorders succeeds only if rc-api takes its envelope. -/
def answersAsRcApi : Event interface → Bool
  | ⟨.send request, outcome⟩ => !outcome.succeeded || (actionEnvelope request).isOk
  | _ => true

section Runs
variable {ι : Type} [DecidableEq ι] {client : RcApiClient} {asked : ι → Asked} {start : Repo}
  {h : List (Move interface Repo ι)} {c : Pool interface Repo ι Reply} {id : Uuid}

/-- Where rc-api answers the calls, none of them performs anything. -/
theorem nothing_performed (run : Interleaves machine (Asked.pool client asked start) h c)
    (hrcApi : ∀ v ∈ h, answersAsRcApi v.event = true) : ∀ v ∈ h, performedBy v.event = none := by
  intro v hv
  by_contra hsome
  obtain ⟨url, hurl⟩ := Option.ne_none_iff_exists'.mp hsome
  obtain ⟨request, outcome, hevent, hsucceeded, -⟩ := performedBy_eq_some hurl
  obtain ⟨h₁, h₂, hh⟩ := List.append_of_mem hv
  have hcall := pool_calls run hh
  have haccepted := hrcApi v hv
  rw [hevent] at hcall haccepted
  obtain ⟨assetID, action, rfl⟩ := hcall.actionRequest
  simp only [answersAsRcApi, hsucceeded, actionRequest, callRequest_rejected] at haccepted
  cases haccepted

/-- A workorder on an asset is never resolved, or closed, with a conclusion to act on. -/
theorem no_action_concluded (run : Interleaves machine (Asked.pool client asked start) h c)
    (hrcApi : ∀ v ∈ h, answersAsRcApi v.event = true)
    (hstart : ∀ w, start.workorder id = some w → w.named client = none) {w : Workorder}
    (hw : c.state.workorder id = some w) (hasset : w.assetID.isSome = true) {t : ConclusionType}
    (ht : w.conclusionType = some t) (haction : t.action.isSome = true) :
    w.status = .inProgress := by
  by_contra hne
  have hnamed := named_none_stays run hstart
    (fun v hv _ => nothing_performed run hrcApi v hv) w hw
  obtain ⟨assetID, hasset⟩ := Option.isSome_iff_exists.mp hasset
  obtain ⟨action, haction⟩ := Option.isSome_iff_exists.mp haction
  simp [Workorder.named, hne, ht, haction, hasset] at hnamed

end Runs

/-- No call is ever taken; and so a workorder with the conclusion to freeze its asset
never gets past being in progress. -/
theorem downstream_never_accepted (workorder : RcApiClient) (bff : UpstreamClient) :
    (∀ (header : Header) (assetID : String) (call : WriteCall),
      call.accepted (call.request workorder bff header assetID) = false) ∧
    ∀ (ι : Type) (_ : DecidableEq ι) (asked : ι → Asked) (start : Repo)
      (h : List (Move interface Repo ι)) (c : Pool interface Repo ι Reply) (id : Uuid)
      (w : Workorder), Interleaves machine (Asked.pool workorder asked start) h c →
        (∀ v ∈ h, answersAsRcApi v.event = true) →
          (∀ w, start.workorder id = some w → w.named workorder = none) →
            c.state.workorder id = some w → w.assetID.isSome = true →
              w.conclusionType = some .freeze → w.status = .inProgress := by
  refine ⟨never_accepted workorder bff, ?_⟩
  intro ι _ asked start h c id w run hrcApi hstart hw hasset ht
  exact no_action_concluded run hrcApi hstart hw hasset ht rfl

section Sample

/-- The workorder is advanced, and rc-api turns the call away. -/
def refusedRun : List (Move interface Repo Bool) × Pool interface Repo Bool Reply :=
  (Asked.pool deskClient quietDesk deskRepo).schedule machine
    [(false, {}), (false, {}), (true, {}),
      (true, { outcome := .answered 415 ⟨"unsupported media type", none⟩ }), (true, {}), (true, {})]

theorem refusedRun_interleaves :
    Interleaves machine (Asked.pool deskClient quietDesk deskRepo) refusedRun.1 refusedRun.2 :=
  schedule_interleaves _ _

theorem downstream_never_accepted_refused :
    ∃ w, refusedRun.2.state.workorder (.repeated 1) = some w ∧ w.conclusionType = some .freeze ∧
      w.status = .inProgress := by
  have hconcluded : (refusedRun.2.state.workorder (.repeated 1)).map (fun w =>
      (w.conclusionType, w.assetID.isSome)) = some (some .freeze, true) := by decide +kernel
  obtain ⟨w, hw, hconcluded⟩ := Option.map_eq_some_iff.mp hconcluded
  refine ⟨w, hw, congrArg Prod.fst hconcluded, ?_⟩
  exact (downstream_never_accepted deskClient ⟨"http://rc-api"⟩).2 Bool _ quietDesk deskRepo
    refusedRun.1 refusedRun.2 (.repeated 1) w refusedRun_interleaves (by decide +kernel) desk_named
    hw (congrArg Prod.snd hconcluded) (congrArg Prod.fst hconcluded)

def managerClaims : Gateway.Claims :=
  { sub := "22222222-2222-2222-2222-222222222222", role := "Platform"
    orgID := "33333333-3333-3333-3333-333333333333" }

/-- A request with every header of the protocol. -/
def advanceRequest : Gateway.Request where
  path := "/api/workorder/workorders/11111111-1111-1111-1111-111111111111/advance"
  header := .received
    [("authorization", "Bearer t"), ("x-trace-id", "55555555-5555-5555-5555-555555555555"),
      ("x-idempotency-key", "k")]

def serveSample : Except Gateway.Rejection Gateway.Request :=
  Gateway.serve default (fun _ => some managerClaims) "fresh" "POST" advanceRequest

/-- The gateway lets the request pass, and the call to freeze is made for it in vain. -/
theorem freeze_call_rejected :
    ¬∀ (p : Primitives) (parse : String → Option Gateway.Claims) (fresh method : String)
      (r forwarded : Gateway.Request) (workorder : RcApiClient) (bff : UpstreamClient)
      (assetID : String) (call : WriteCall),
      Gateway.serve p parse fresh method r = .ok forwarded → ProtocolHeaders forwarded.header →
        call.accepted (call.request workorder bff forwarded.header assetID) = true := by
  intro hall
  have hheaders : serveSample.map (fun f => ((Uuid.parseStr (f.header.get "X-Trace-Id")).isSome,
      f.header.get "X-Idempotency-Key")) = .ok (true, "k") := by decide +kernel
  have hrejected : serveSample.map (fun f => WriteCall.freeze.accepted
      (WriteCall.freeze.request deskClient ⟨"http://rc-api"⟩ f.header "a")) = .ok false := by
    decide +kernel
  have hserve := hall default (fun _ => some managerClaims) "fresh" "POST" advanceRequest
  cases hforwarded : serveSample with
  | error e =>
      rw [hforwarded] at hheaders
      cases hheaders
  | ok forwarded =>
      rw [hforwarded] at hheaders hrejected
      obtain ⟨htrace, hkey⟩ := Prod.mk.inj (Except.ok.inj hheaders)
      have hprotocol : ProtocolHeaders forwarded.header :=
        ⟨htrace, fun h => absurd (hkey.symm.trans h) (by decide)⟩
      have haccepted := hserve forwarded deskClient ⟨"http://rc-api"⟩ "a" .freeze hforwarded hprotocol
      cases (Except.ok.inj hrejected).symm.trans haccepted

end Sample

end Workorders

end RcProtocol
