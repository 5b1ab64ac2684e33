import RcProtocol.Api.EntangleSpec
import RcProtocol.Ownership
import RcProtocol.PendingTransfers
import RcProtocol.Possession
import RcProtocol.TransferRefinement

/-!
To whom the virtual mother card of an asset is bound. The binding is made when the
card is issued and never moves; the proof of a transfer is compared with it by the
user id the body names, not by the actor's. So the card follows the owner only while
assets go to the user it is bound to, and speaks for the actor only while the body
names them.
-/

namespace RcProtocol
open Library

/-- The type of an asset's mother card, and the user it is bound to. -/
def Db.card (db : Db) (assetId : String) : Option (String × Option String) :=
  (db.selectAuthorityDeviceByAsset assetId).map fun d => (d.authorityType, d.boundUserId)

/-- A counter that moves is no part of the binding. -/
theorem card_updateAuthorityCtr {db : Db} {authorityId : Uuid} {newCtr : Int32} (assetId : String) :
    (db.updateAuthorityCtr authorityId newCtr).2.card assetId = db.card assetId := by
  simp only [Db.card, Db.selectAuthorityDeviceByAsset, Db.updateAuthorityCtr]
  cases db.entanglements.find _ with
  | none => rfl
  | some e =>
      simp only
      rw [Table.find_update, Option.map_map]
      · congr 1
        funext r
        simp only [Function.comp_apply]
        split <;> rfl
      · exact fun _ => rfl

theorem Changes.card {e : Event api} {db db' : Db} (h : Changes e db db')
    (he : issuesCard e = false) (assetId : String) : db'.card assetId = db.card assetId := by
  cases h with
  | insertAuthorityDevice | insertEntanglement => cases he
  | updateAuthorityCtr => exact card_updateAuthorityCtr assetId
  | _ => rfl

theorem trace_card {s s' : Store} {log : Log} (h : machine.Trace s log s')
    (hlog : ∀ e ∈ log, issuesCard e = false) (assetId : String) :
    s'.db.card assetId = s.db.card assetId := by
  refine h.invariant (I := fun t => t.db.card assetId = s.db.card assetId) rfl ?_
  intro env op t he ht
  exact ((machine_changes env op t).card (hlog _ he) assetId).trans ht

/-- Only the request that entangles an asset issues a card. -/
theorem WriteRequest.Calls.issuesCard {q : WriteRequest} {log : Log} {e : Event api}
    (h : q.Calls log e.op) (hq : q.act ≠ .activateEntangle) : issuesCard e = false := by
  obtain ⟨op, r⟩ := e
  cases h with
  | side hw hop =>
      cases q with
      | activate => cases hop <;> rfl
      | action | activateEntangle => exact absurd hop.1 hq
  | _ => rfl

theorem TransferCall.Steps.issuesCard {app : AppState} {call : TransferCall} {log : Log}
    {e : Event api} (h : call.Steps app log e.op) : issuesCard e = false := by
  obtain ⟨op, r⟩ := e
  cases h with
  | authority _ _ hop => cases hop.authorityCall [] <;> rfl
  | _ => rfl

theorem AssetRequest.run_card (app : AppState) (r : AssetRequest) (env : Nat → machine.Env)
    (s : Store) (hr : r.act ≠ .activateEntangle) (assetId : String) :
    (machine.run (r.handle app) env s).state.db.card assetId = s.db.card assetId := by
  refine trace_card (machine.run_trace (r.handle app) env s) (fun e he => ?_) assetId
  obtain ⟨before, after, hlog⟩ := List.append_of_mem he
  cases r with
  | write q => exact (machine.meets_run_calls (q.handle_meets app) env s hlog).issuesCard hr
  | transfer call =>
      exact (machine.meets_run_calls (call.transferHandler_steps app) env s hlog).issuesCard

/-- A sale or a transfer has changed the asset. -/
def HandsOver (e : AssetEntry) : Prop :=
  (e.request.act = .legalSell ∨ e.request.act = .transfer) ∧ Committed e.log

/-- The virtual card is active, and its credential is the one its key gives. -/
structure AuthorityDeviceRow.Intact (app : AppState) (device : AuthorityDeviceRow)
    (token : String) : Prop where
  authorityType : device.authorityType = "VIRTUAL_APP"
  active : device.status = "Active"
  stored : device.virtualCredentialHash = some token
  computed : ∃ kChipMother,
    app.kms.deriveMotherKey device.brandId (utf8 device.authorityUid)
      device.keyEpoch.toUInt32 = .ok kChipMother ∧
    hexEncode (app.crypto.hmacSha256 kChipMother.toList (utf8 device.authorityUid)).toList = token

/-- A request of this actor to transfer an asset onward, with the token of its virtual card
in their own name and a child tag that authenticates. -/
structure TransferCall.Onward (app : AppState) (db : Db) (call : TransferCall)
    (actorId token : String) : Prop where
  keyed : ∃ key, requiredHeader call.headers "X-Idempotency-Key" = .ok key
  actor : call.actor.actorId = actorId
  proof : call.payload.authorityProof = .virtualToken actorId token
  tag : ∀ stored, db.selectAssetRecord call.assetId = some stored → ∃ epoch message,
    db.selectEpochByUid call.payload.childUid = some epoch ∧ call.Presents app stored epoch message

/-- The transfer succeeds, with any id that is free for its record. -/
def TransferCall.Succeeds (app : AppState) (call : TransferCall) (s : Store) : Prop :=
  ∀ id, (∀ row ∈ s.db.transfers.rows, row.transferId ≠ id) →
    ∃ r s', machine.Evaluates (quiet id) (call.handle app) s (.ok (.transfer r)) s'

structure CardFollows (app : AppState) (h : List AssetEntry) : Prop where
  proves : ∀ e ∈ h, ∀ call userId token, e.request = .transfer call →
    call.payload.authorityProof = .virtualToken userId token → e.answer.status = 200 →
      e.before.db.card call.assetId = some ("VIRTUAL_APP", some call.actor.actorId) ∧
        userId = call.actor.actorId ∧
          ∃ c, e.before.db.custody call.assetId = some c ∧ c.ownerId = some call.actor.actorId
  follows : ∀ e ∈ h, HandsOver e → ∀ bound c,
    e.after.db.card e.request.assetId = some ("VIRTUAL_APP", bound) →
      e.after.db.custody e.request.assetId = some c → bound = c.ownerId
  onward : ∀ e ∈ h, HandsOver e → ∀ device c,
    e.after.db.selectAuthorityDeviceByAsset e.request.assetId = some device →
      e.after.db.custody e.request.assetId = some c →
        ∀ userId token, device.GrantsVirtual app userId token → c.ownerId = some userId
  enables : ∀ e ∈ h, HandsOver e → ∀ device token,
    e.after.db.selectAuthorityDeviceByAsset e.request.assetId = some device →
      device.Intact app token → ∃ c owner,
        e.after.db.custody e.request.assetId = some c ∧ c.ownerId = some owner ∧
          device.GrantsVirtual app owner token ∧
            ∀ call : TransferCall, call.assetId = e.request.assetId →
              call.Onward app e.after.db owner token → call.Succeeds app e.after

/-- Whom a sale or a transfer makes the owner. -/
def AssetRequest.recipient : AssetRequest → Option String
  | .transfer call => some call.payload.newOwnerId
  | .write q =>
      match q.act with
      | .legalSell => q.payload.buyerId
      | .transfer => some q.actor.actorId
      | _ => none

/-- The checks of the handler on the stored rows. -/
def AssetRequest.Passes (app : AppState) (db : Db) : AssetRequest → Prop
  | .transfer call => call.Passes app db
  | .write q => ∃ required stored w, q.Writes required stored w ∧
      db.selectAssetRecord q.assetId = some stored

/-- The proof names the actor, and the asset goes to whom its card is bound to. -/
structure KeepsCard (app : AppState) (e : AssetEntry) : Prop where
  named : ∀ call userId token, e.request = .transfer call →
    call.payload.authorityProof = .virtualToken userId token → call.Passes app e.before.db →
      userId = call.actor.actorId
  bound : e.request.act = .legalSell ∨ e.request.act = .transfer →
    e.request.Passes app e.before.db → ∀ bound,
      e.before.db.card e.request.assetId = some ("VIRTUAL_APP", bound) → bound = e.request.recipient

section Runs
variable {app : AppState} {start s : Store} {h : List AssetEntry} {e : AssetEntry}

theorem proves_entry (run : Serves machine (AssetRequest.handle app) start h s) (he : e ∈ h)
    (hkeeps : KeepsCard app e) {call : TransferCall} {userId token : String}
    (hrequest : e.request = .transfer call)
    (hproof : call.payload.authorityProof = .virtualToken userId token)
    (hstatus : e.answer.status = 200) :
    e.before.db.card call.assetId = some ("VIRTUAL_APP", some call.actor.actorId) ∧
      userId = call.actor.actorId ∧
        ∃ c, e.before.db.custody call.assetId = some c ∧ c.ownerId = some call.actor.actorId := by
  obtain ⟨env, -, hanswer, -⟩ := run.entry_run he
  rw [hanswer, hrequest] at hstatus
  obtain ⟨hpasses, -⟩ := TransferCall.accepts_of_run env hstatus
  have huser := hkeeps.named call userId token hrequest hproof hpasses
  obtain ⟨key, stored, owner, device, hchecked⟩ := hpasses
  have hgrants := hchecked.grants
  rw [hproof] at hgrants
  have hgrants : device.GrantsVirtual app userId token := hgrants
  obtain ⟨c, hc, howner⟩ := Db.custody_of_selectOwner hchecked.owned
  refine ⟨?_, huser, c, hc, howner.trans (congrArg some hchecked.owns.actor.symm)⟩
  rw [Db.card, hchecked.guarded, Option.map_some, hgrants.authorityType, hgrants.bound, huser]

theorem nextState_handsOver {current target : AssetState} {action : AssetAction}
    {previous : Option AssetState}
    (h : nextStateForActionWithPrevious current action previous = some target)
    (ha : action = .legalSell ∨ action = .transfer) :
    target = .legallySold ∨ target = .transferred := by
  obtain rfl | rfl := ha
  · cases current <;> cases h
    exact .inl rfl
  · cases current <;> cases h <;> exact .inr rfl

/-- How a sale or a transfer leaves the asset: in a state its owner may transfer it from. -/
structure HandedOver (r : AssetRequest) (c : Custody) : Prop where
  owner : c.ownerId = r.recipient
  owned : r.recipient.isSome = true
  state : c.currentState = .legallySold ∨ c.currentState = .transferred

/-- What a committed sale or transfer was allowed by, and whom it made the owner. -/
theorem handsOver_entry (run : Serves machine (AssetRequest.handle app) start h s) (he : e ∈ h)
    (hhands : HandsOver e) :
    e.request.Passes app e.before.db ∧
      ∃ c, e.after.db.custody e.request.assetId = some c ∧ HandedOver e.request c := by
  obtain ⟨hact, hcommitted⟩ := hhands
  obtain ⟨env, hlog, -, hafter⟩ := run.entry_run he
  rw [hlog] at hcommitted
  obtain ⟨hnot, -⟩ | ⟨f, hfrom, -, hnext⟩ := e.request.run_commit app env e.before
  · exact absurd hcommitted hnot
  have hmade : ∀ {c₀}, e.before.db.custody e.request.assetId = some c₀ →
      e.after.db.custody e.request.assetId = some (f c₀) := by
    intro c₀ hc₀
    rw [hafter, hnext, if_pos rfl, hc₀, Option.map_some]
  generalize e.request = r at *
  cases hfrom with
  | @write q required stored w hw hstored =>
      have hact : q.act = .legalSell ∨ q.act = .transfer := hact
      obtain ⟨c₀, hc₀, -⟩ := Db.custody_of_selectAssetRecord hstored
      refine ⟨⟨required, stored, w, hw, hstored⟩, w.custody c₀, hmade hc₀, ?_, ?_, ?_⟩
      · show w.owner c₀.ownerId = _
        rw [hw.owner, AssetRequest.recipient]
        obtain ha | ha := hact <;> rw [ha]
      · rw [AssetRequest.recipient]
        obtain ha | ha := hact
        · rw [ha]
          exact hw.applied.buyer ha
        · rw [ha]
          rfl
      · exact nextState_handsOver hw.transition hact
  | @transfer call stored owner =>
      have hpasses := TransferCall.passes_of_committed env hcommitted
      obtain ⟨key, stored', owner', device, hchecked⟩ := hpasses
      obtain ⟨c₀, hc₀, -⟩ := Db.custody_of_selectAssetRecord hchecked.fetched
      exact ⟨⟨key, stored', owner', device, hchecked⟩, _, hmade hc₀, rfl, rfl, .inr rfl⟩

/-- A sale or a transfer leaves the card as it was. -/
theorem handsOver_card (run : Serves machine (AssetRequest.handle app) start h s) (he : e ∈ h)
    (hhands : HandsOver e) :
    e.after.db.card e.request.assetId = e.before.db.card e.request.assetId := by
  obtain ⟨env, -, -, hafter⟩ := run.entry_run he
  have hact : e.request.act ≠ .activateEntangle := by
    obtain ha | ha := hhands.1 <;> rw [ha] <;> decide
  rw [hafter]
  exact e.request.run_card app env e.before hact e.request.assetId

theorem follows_entry (run : Serves machine (AssetRequest.handle app) start h s) (he : e ∈ h)
    (hkeeps : KeepsCard app e) (hhands : HandsOver e) {bound : Option String} {c : Custody}
    (hcard : e.after.db.card e.request.assetId = some ("VIRTUAL_APP", bound))
    (hc : e.after.db.custody e.request.assetId = some c) : bound = c.ownerId := by
  obtain ⟨hpasses, c', hc', hhanded⟩ := handsOver_entry run he hhands
  obtain rfl := Option.some.inj (hc.symm.trans hc')
  rw [handsOver_card run he hhands] at hcard
  rw [hhanded.owner]
  exact hkeeps.bound hhands.1 hpasses bound hcard

/-- The owner, to whom the card is bound, passes the checks of a transfer. -/
theorem onward_succeeds {s : Store} {device : AuthorityDeviceRow} {c : Custody}
    {call : TransferCall} {owner token : String}
    (hdevice : s.db.selectAuthorityDeviceByAsset call.assetId = some device)
    (hgrants : device.GrantsVirtual app owner token) (hc : s.db.custody call.assetId = some c)
    (hstate : c.currentState = .legallySold ∨ c.currentState = .transferred)
    (howner : c.ownerId = some owner) (hcall : call.Onward app s.db owner token) :
    call.Succeeds app s := by
  intro id hid
  obtain ⟨key, hkey⟩ := hcall.keyed
  have hstored := @Db.selectAssetRecord_custody s.db call.assetId
  rw [hc, Option.map_some] at hstored
  obtain ⟨epoch, message, hepoch, hpresents⟩ := hcall.tag _ hstored
  have howned : s.db.selectOwner call.assetId = some (some owner) := by
    obtain ⟨r, hr, rfl⟩ := Option.map_eq_some_iff.mp hc
    rw [Db.selectOwner, hr, Option.map_some, ← howner]
    rfl
  have hchecked : call.Checked app s.db key _ owner device := {
    keyed := hkey
    fetched := hstored
    owned := howned
    owns := ⟨hstate, hcall.actor⟩
    tag := ⟨epoch, message, hepoch, hpresents⟩
    guarded := hdevice
    grants := by
      rw [hcall.proof]
      exact hgrants }
  obtain ⟨s', hevaluates⟩ := hchecked.succeeds hid
  exact ⟨_, s', hevaluates⟩

theorem enables_entry (run : Serves machine (AssetRequest.handle app) start h s) (he : e ∈ h)
    (hkeeps : KeepsCard app e) (hhands : HandsOver e) {device : AuthorityDeviceRow}
    {token : String}
    (hdevice : e.after.db.selectAuthorityDeviceByAsset e.request.assetId = some device)
    (hintact : device.Intact app token) : ∃ c owner,
      e.after.db.custody e.request.assetId = some c ∧ c.ownerId = some owner ∧
        device.GrantsVirtual app owner token ∧
          ∀ call : TransferCall, call.assetId = e.request.assetId →
            call.Onward app e.after.db owner token → call.Succeeds app e.after := by
  obtain ⟨-, c, hc, hhanded⟩ := handsOver_entry run he hhands
  obtain ⟨owner, hrecipient⟩ := Option.isSome_iff_exists.mp hhanded.owned
  have howner : c.ownerId = some owner := hhanded.owner.trans hrecipient
  have hcard : e.after.db.card e.request.assetId = some ("VIRTUAL_APP", device.boundUserId) := by
    rw [Db.card, hdevice, Option.map_some, hintact.authorityType]
  have hbound := follows_entry run he hkeeps hhands hcard hc
  have hgrants : device.GrantsVirtual app owner token :=
    ⟨hintact.authorityType, hintact.active, hbound.trans howner, hintact.stored, hintact.computed⟩
  refine ⟨c, owner, hc, howner, hgrants, fun call hasset hcall => ?_⟩
  rw [← hasset] at hdevice hc
  exact onward_succeeds hdevice hgrants hc hhanded.state howner hcall

/-- In a run whose requests keep to the binding of the card, the card follows the owner,
who can transfer the asset onward with it, and proves who the actor is. -/
theorem card_follows (run : Serves machine (AssetRequest.handle app) start h s)
    (hkeeps : ∀ e ∈ h, KeepsCard app e) : CardFollows app h := by
  refine ⟨?_, ?_, ?_, ?_⟩
  · intro e he call userId token hrequest hproof hstatus
    exact proves_entry run he (hkeeps e he) hrequest hproof hstatus
  · intro e he hhands bound c hcard hc
    exact follows_entry run he (hkeeps e he) hhands hcard hc
  · intro e he hhands device c hdevice hc userId token hgrants
    have hcard : e.after.db.card e.request.assetId = some ("VIRTUAL_APP", some userId) := by
      rw [Db.card, hdevice, Option.map_some, hgrants.authorityType, hgrants.bound]
    exact (follows_entry run he (hkeeps e he) hhands hcard hc).symm
  · intro e he hhands device token hdevice hintact
    exact enables_entry run he (hkeeps e he) hhands hdevice hintact

end Runs

section Sample

/-- The buyer, to whom the card is bound, is sold the asset, and transfers it to themselves. -/
def keptRequests : List (AssetRequest × (Nat → machine.Env)) :=
  soldRequests.concat (.transfer (transferTo "owner"), fun _ => {})

theorem card_follows_kept :
    (freshRun keptRequests).map (·.answer.status) = [200, 200, 200, 200] ∧
      CardFollows transferApp (freshRun keptRequests) := by
  obtain ⟨s, run⟩ := freshRun_serves keptRequests
  have hcard : ∀ e ∈ freshRun keptRequests,
      e.before.db.card "a" = some ("VIRTUAL_APP", some "owner") := by decide +kernel
  refine ⟨by decide +kernel, card_follows run fun e he => ?_⟩
  have hrequest : e.request ∈ (freshRun keptRequests).map (·.request) := List.mem_map_of_mem he
  rw [freshRun, serveAll_requests] at hrequest
  simp only [keptRequests, soldRequests, List.concat_cons, List.concat_nil, List.map_cons,
    List.map_nil, List.mem_cons, List.not_mem_nil, or_false] at hrequest
  constructor
  · intro call userId token hcall hproof _
    obtain hq | hq | hq | hq := hrequest
    all_goals
      rw [hq] at hcall
      cases hcall
    cases hproof
    rfl
  · intro hact _ bound hbound
    obtain hq | hq | hq | hq := hrequest
    all_goals
      rw [hq] at hact hbound
      have howner := (hcard e he).symm.trans hbound
    · obtain ha | ha := hact <;> cases ha
    · obtain ha | ha := hact <;> cases ha
    all_goals
      rw [hq]
      cases howner
      rfl

/-- The recipient transfers the asset on, in the name of the first owner. -/
def onwardTransfer : TransferCall :=
  { transferTo "other" with actor := { actorId := "friend", actorRole := .consumer } }

def onwardRun : List AssetEntry :=
  machine.serveAll (AssetRequest.handle transferApp) soldPairStore
    [(.transfer ownTagTransfer, fun _ => ({ uuid := .repeated 7 } : Env)),
      (.transfer onwardTransfer, fun _ => ({ uuid := .repeated 8 } : Env))]

/-- The card stays bound to the first owner, and their id is proof enough. -/
theorem first_owner_stands_in :
    ¬∀ (app : AppState) (start s : Store) (h : List AssetEntry),
      Serves machine (AssetRequest.handle app) start h s → CardFollows app h := by
  intro hall
  have hserves : ∃ s, Serves machine (AssetRequest.handle transferApp) soldPairStore onwardRun s :=
    serveAll_serves ..
  obtain ⟨s, run⟩ := hserves
  have hfollows := hall _ _ _ _ run
  have hrun : onwardRun.map (fun e => (e.answer.status, e.before.db.card "a")) =
      [(200, some ("VIRTUAL_APP", some "owner")), (200, some ("VIRTUAL_APP", some "owner"))] := by
    decide +kernel
  have hrequests : onwardRun.map (·.request) =
      [.transfer ownTagTransfer, .transfer onwardTransfer] := serveAll_requests ..
  obtain ⟨e, f, hef⟩ : ∃ e f, onwardRun = [e, f] := ⟨_, _, rfl⟩
  rw [hef] at hfollows hrun hrequests
  simp only [List.map_cons, List.map_nil, List.cons.injEq, Prod.mk.injEq] at hrun hrequests
  obtain ⟨-, ⟨hstatus, hcard⟩, -⟩ := hrun
  obtain ⟨-, hrequest, -⟩ := hrequests
  obtain ⟨hbound, -⟩ := hfollows.proves f (by simp) onwardTransfer "owner" credential hrequest rfl
    hstatus
  exact absurd (hcard.symm.trans hbound) (by decide)

end Sample

end RcProtocol
