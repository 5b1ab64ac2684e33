import RcProtocol.Api.TransferActions
import RcProtocol.Library.Service
import RcProtocol.TransferRefinement

/-!
Transfers that wait for their recipient. The record is written as pending, but the
asset has changed hands before it is written, and a rejection takes nothing back: a
pending or a rejected transfer is without effect exactly where it changes nothing.
-/

namespace RcProtocol
open Library

/-- A request that concerns an asset or the record of a transfer. -/
inductive HandoverRequest where
  | asset (r : AssetRequest)
  | confirm (call : TransferActionCall)
  | reject (call : TransferActionCall)

def HandoverRequest.handle (app : AppState) : HandoverRequest → Service Reply
  | .asset r => r.handle app
  | .confirm call => confirmTransferHandler call.actor call.payload
  | .reject call => rejectTransferHandler call.actor call.payload

abbrev HandoverEntry := Served api Store HandoverRequest Reply

/-- Somebody owns the asset in a state in which an owner may transfer or consume it. -/
def Db.Able (db : Db) (assetId userId : String) : Prop :=
  ∃ c, db.custody assetId = some c ∧
    (c.currentState = .legallySold ∨ c.currentState = .transferred) ∧ c.ownerId = some userId

def Db.Pending (db : Db) (transferId : Uuid) : Prop :=
  ∃ record, db.selectTransfer transferId = some record ∧ record.isPending = true

/-- The transfer a reply reports. -/
def Reply.made (reply : Reply) : Option TransferResponse :=
  match reply with
  | ⟨200, .transfer r⟩ => some r
  | _ => none

theorem Reply.made_eq {reply : Reply} {r : TransferResponse} (h : reply.made = some r) :
    reply = .ok (.transfer r) := by
  unfold Reply.made at h
  split at h
  · rw [Option.some.inj h]
    rfl
  · cases h

namespace HandoverEntry

structure Makes (e : HandoverEntry) (call : TransferCall) (r : TransferResponse) : Prop where
  request : e.request = .asset (.transfer call)
  answer : e.answer.made = some r

structure Rejects (e : HandoverEntry) (transferId : Uuid) : Prop where
  request : ∃ call, e.request = .reject call ∧ call.payload.transferId = transferId
  answer : e.answer.status = 200

def Moves (e : HandoverEntry) (assetId : String) : Prop :=
  ∃ x ∈ e.log, ∃ f, custodyWrite x = some (assetId, f)

end HandoverEntry

/-- While a record is pending its transfer has not enabled the recipient, and once it
is rejected the asset is as it was before the transfer. -/
structure Provisional (h : List HandoverEntry) : Prop where
  pending : ∀ h₁ e h₂ call r, h = h₁ ++ e :: h₂ → HandoverEntry.Makes e call r →
    ∀ before f after, e :: h₂ = before ++ f :: after → f.after.db.Pending r.transferId →
      f.after.db.Able r.assetId r.toOwnerId →
        e.before.db.Able r.assetId r.toOwnerId ∨
          ∃ g ∈ (before ++ [f]).tail, HandoverEntry.Moves g r.assetId
  rejected : ∀ h₁ e h₂ f h₃ call r, h = h₁ ++ e :: (h₂ ++ f :: h₃) →
    HandoverEntry.Makes e call r → HandoverEntry.Rejects f r.transferId →
      ∀ c, e.before.db.custody r.assetId = some c →
        ∃ c', f.after.db.custody r.assetId = some c' ∧ c'.ownerId = c.ownerId ∧
          c'.currentState = c.currentState

/-- Transfers name their own actor. A recipient rejects a pending record only where the
transfer found the asset transferred, and no request has moved it since. -/
structure Inert (app : AppState) (h : List HandoverEntry) : Prop where
  own : ∀ e ∈ h, ∀ call, e.request = .asset (.transfer call) → call.Accepts app e.before.db →
    call.payload.newOwnerId = call.actor.actorId
  rejected : ∀ h₁ e h₂ f h₃ call r, h = h₁ ++ e :: (h₂ ++ f :: h₃) →
    HandoverEntry.Makes e call r → ∀ call', f.request = .reject call' →
      call'.payload.transferId = r.transferId → ∀ record,
        f.before.db.selectTransfer r.transferId = some record → record.isPending = true →
          call'.actor.actorId = record.toUserId →
            (∀ c, e.before.db.custody r.assetId = some c → c.currentState = .transferred) ∧
              ∀ g ∈ h₂, ¬HandoverEntry.Moves g r.assetId

/-- No transfer that was made names anybody else, and none that was rejected, with the
asset unmoved, has found it sold and not transferred. -/
structure Ineffective (h : List HandoverEntry) : Prop where
  own : ∀ e ∈ h, ∀ call r, HandoverEntry.Makes e call r →
    call.payload.newOwnerId = call.actor.actorId
  rejected : ∀ h₁ e h₂ f h₃ call r, h = h₁ ++ e :: (h₂ ++ f :: h₃) →
    HandoverEntry.Makes e call r → HandoverEntry.Rejects f r.transferId →
      (∀ g ∈ h₂, ¬HandoverEntry.Moves g r.assetId) →
        ∀ c, e.before.db.custody r.assetId = some c → c.currentState = .transferred

/-- A status that was set was pending. -/
theorem updateTransferStatus_pending {db : Db} {transferId : Uuid} {targetStatus : String}
    {record : TransferRecord}
    (h : (db.updateTransferStatus transferId targetStatus).1 = some record) :
    db.Pending transferId := by
  obtain ⟨row, hrow, -⟩ := Option.map_eq_some_iff.mp h
  have hmatched := Table.prop_of_find hrow
  simp only [Bool.and_eq_true, decide_eq_true_eq] at hmatched
  have hfound : db.transfers.find (·.transferId = transferId) = some row := by
    refine Table.find_eq_some (Table.mem_of_find hrow) (by simp [hmatched.1]) fun a _ ha => ?_
    have ha : a.transferId = transferId := by simpa using ha
    exact ha.trans hmatched.1.symm
  refine ⟨row.record, ?_, ?_⟩
  · rw [Db.selectTransfer, hfound, Option.map_some]
  · exact decide_eq_true hmatched.2

section Runs
variable {app : AppState} {start s : Store} {h h₁ h₂ : List HandoverEntry} {e : HandoverEntry}
  {call : TransferCall} {r : TransferResponse} {transferId : Uuid}

/-- A rejection comes from the recipient of a pending record, and leaves the assets
alone. -/
theorem rejection (run : Serves machine (HandoverRequest.handle app) start h s) (he : e ∈ h)
    (hrejects : HandoverEntry.Rejects e transferId) :
    (∃ call record, e.request = .reject call ∧ call.payload.transferId = transferId ∧
      e.before.db.selectTransfer transferId = some record ∧ record.isPending = true ∧
        call.actor.actorId = record.toUserId) ∧
      ∀ id, e.after.db.custody id = e.before.db.custody id := by
  obtain ⟨env, hlog, hanswer, hafter⟩ := run.entry_run he
  obtain ⟨call, hrequest, rfl⟩ := hrejects.request
  have hmeets := call.reject_meets
  have hstatus := hrejects.answer
  rw [hrequest] at hlog hanswer hafter
  have htrace := machine.run_trace (rejectTransferHandler call.actor call.payload) env e.before
  constructor
  · have hset := machine.meets_run_answer hmeets env e.before
    rw [hanswer] at hstatus
    obtain ⟨existing, record, hrecipient, hlog, -⟩ := hset hstatus
    rw [List.nil_append] at hlog
    rw [hlog] at htrace
    obtain ⟨⟨_, hread⟩, htrace⟩ := trace_query htrace fun _ _ => query_state _
    have hfetched : e.before.db.selectTransfer call.payload.transferId = some existing :=
      query_ok hread
    obtain ⟨env', hr, -⟩ := machine.trace_cons.mp htrace
    have hchanges := machine_changes env'
      (.updateTransferStatus call.payload.transferId "rejected") e.before
    rw [hr] at hchanges
    obtain ⟨pending, hfound, hpending⟩ :=
      updateTransferStatus_pending hchanges.updateTransferStatus_answer
    obtain rfl := Option.some.inj (hfetched.symm.trans hfound)
    exact ⟨call, existing, hrequest, rfl, hfetched, hpending, hrecipient⟩
  · intro id
    rw [hafter]
    refine custody_quiet htrace (fun x hx => ?_) id
    obtain ⟨before, after, hsplit⟩ := List.append_of_mem hx
    exact (machine.meets_run_calls hmeets env e.before hsplit).quiet

/-- What a transfer that was made found, and what it has made of it. -/
structure Made (app : AppState) (e : HandoverEntry) (call : TransferCall) (r : TransferResponse) :
    Prop where
  accepts : call.Accepts app e.before.db
  assetId : r.assetId = call.assetId
  recipient : r.toOwnerId = call.payload.newOwnerId
  custody : ∃ stored c, e.before.db.custody r.assetId = some c ∧
    (c.currentState = .legallySold ∨ c.currentState = .transferred) ∧
      c.ownerId = some call.actor.actorId ∧
        e.after.db.custody r.assetId = some (call.custody stored c)
  pending : e.after.db.Pending r.transferId

/-- A transfer is made by the owner of the asset, to whom the record says, and waits. -/
theorem making (run : Serves machine (HandoverRequest.handle app) start h s) (he : e ∈ h)
    (hmakes : HandoverEntry.Makes e call r) : Made app e call r := by
  obtain ⟨env, -, hanswer, hafter⟩ := run.entry_run he
  rw [Reply.made_eq hmakes.answer, hmakes.request] at hanswer
  rw [hmakes.request] at hafter
  have hanswer : (machine.run (call.handle app) env e.before).answer = .ok (.transfer r) :=
    hanswer.symm
  have hstatus := congrArg Reply.status hanswer
  obtain ⟨key, owner, stored, log, id, audited, hcleared, hlog, hreply⟩ :=
    call.run_recorded app env e.before hstatus
  have hbody := congrArg Reply.body (hanswer.symm.trans hreply)
  obtain rfl : r = call.response owner id := Body.transfer.inj hbody
  have htrace := machine.run_trace (call.handle app) env e.before
  rw [hlog] at htrace
  have hrow := TransferCall.recorded_row htrace
  obtain ⟨t, ht, -⟩ := machine.trace_append.mp htrace
  obtain ⟨hstored, howner⟩ := hcleared.reads ht
  obtain ⟨c, hc, -, hstate, -⟩ := Db.custody_of_selectAssetRecord hstored
  obtain ⟨c', hc', hid⟩ := Db.custody_of_selectOwner howner
  obtain rfl := Option.some.inj (hc.symm.trans hc')
  have hquiet : ∀ x ∈ [call.recorded key owner (.ok id), call.audited key stored audited],
      custodyWrite x = none := by
    intro x hx
    simp only [List.mem_cons, List.not_mem_nil, or_false] at hx
    obtain rfl | rfl := hx <;> rfl
  have hone := custody_one htrace hcleared.quiet hquiet rfl call.assetId
  rw [if_pos rfl, hc, Option.map_some] at hone
  constructor
  · exact TransferCall.accepts_of_run env hstatus
  · rfl
  · rfl
  · refine ⟨stored, c, hc, ?_, ?_, ?_⟩
    · rw [hstate]
      exact hcleared.owns.state
    · rw [hid, hcleared.owns.actor]
    · rw [hafter]
      exact hone
  · refine ⟨(call.row key owner id).record, ?_, rfl⟩
    rw [Db.selectTransfer, hafter]
    exact congrArg (Option.map TransferRow.record) hrow

/-- An asset that no request of a run moves stays as it is. -/
theorem unmoved (run : Serves machine (HandoverRequest.handle app) start h s) {id : String}
    (hquiet : ∀ g ∈ h, ¬HandoverEntry.Moves g id) :
    s.db.custody id = start.db.custody id := by
  apply run.invariant (I := fun s => s.db.custody id = start.db.custody id) rfl
  intro g hg hbefore
  obtain ⟨env, hlog, -, hafter⟩ := run.entry_run hg
  have hsame := custodyView.get_trace_other (k := id)
    (machine.run_trace (g.request.handle app) env g.before) ?_
  · rw [hafter]
    exact hsame.trans hbefore
  · intro x hx key f hf hkey
    rw [← hlog] at hx
    exact hquiet g hg ⟨x, hx, f, hkey ▸ hf⟩

/-- While the asset is unmoved, a rejection finds and leaves it as the transfer has. -/
theorem rejected_custody (run : Serves machine (HandoverRequest.handle app) start h s)
    {f : HandoverEntry} {h₃ : List HandoverEntry} (hh : h = h₁ ++ e :: (h₂ ++ f :: h₃))
    (hrejects : HandoverEntry.Rejects f transferId) {id : String}
    (hquiet : ∀ g ∈ h₂, ¬HandoverEntry.Moves g id) :
    f.after.db.custody id = e.after.db.custody id := by
  have hf : f ∈ h := by
    rw [hh]
    simp
  have hbefore := unmoved ((run.after hh).split rfl) hquiet
  exact ((rejection run hf hrejects).2 id).trans hbefore

theorem provisional_of_inert (run : Serves machine (HandoverRequest.handle app) start h s)
    (hinert : Inert app h) : Provisional h := by
  constructor
  · intro h₁ e h₂ call r hh hmakes _ _ _ _ _ _
    have he : e ∈ h := by
      rw [hh]
      exact List.mem_append_right _ (List.mem_cons_self ..)
    have hmade := making run he hmakes
    obtain ⟨stored, c, hc, hstate, howner, -⟩ := hmade.custody
    left
    refine ⟨c, hc, hstate, ?_⟩
    rw [howner, hmade.recipient, hinert.own e he call hmakes.request hmade.accepts]
  · intro h₁ e h₂ f h₃ call r hh hmakes hrejects c hc
    have he : e ∈ h := by
      rw [hh]
      simp
    have hf : f ∈ h := by
      rw [hh]
      simp
    have hmade := making run he hmakes
    obtain ⟨stored, c₀, hc₀, -, howner, hafter⟩ := hmade.custody
    obtain rfl := Option.some.inj (hc₀.symm.trans hc)
    obtain ⟨⟨call', record, hrequest, hid, hfound, hpending, hrecipient⟩, -⟩ :=
      rejection run hf hrejects
    obtain ⟨hstate, hquiet⟩ := hinert.rejected h₁ e h₂ f h₃ call r hh hmakes call' hrequest hid
      record hfound hpending hrecipient
    refine ⟨call.custody stored c₀, ?_, ?_, (hstate c₀ hc).symm⟩
    · rw [rejected_custody run hh hrejects hquiet, hafter]
    · rw [howner, ← hinert.own e he call hmakes.request hmade.accepts]
      rfl

/-- A pending record of a transfer to somebody else has enabled them at once. -/
theorem own_of_provisional (run : Serves machine (HandoverRequest.handle app) start h s)
    (hprovisional : Provisional h) (he : e ∈ h) (hmakes : HandoverEntry.Makes e call r) :
    call.payload.newOwnerId = call.actor.actorId := by
  obtain ⟨h₁, h₂, hh⟩ := List.append_of_mem he
  have hmade := making run he hmakes
  obtain ⟨stored, c, hc, -, howner, hafter⟩ := hmade.custody
  have hable : e.after.db.Able r.assetId r.toOwnerId := by
    refine ⟨call.custody stored c, hafter, .inr rfl, ?_⟩
    rw [hmade.recipient]
    rfl
  obtain ⟨c', hc', -, howner'⟩ | ⟨g, hg, -⟩ :=
    hprovisional.pending h₁ e h₂ call r hh hmakes [] e h₂ rfl hmade.pending hable
  · obtain rfl := Option.some.inj (hc.symm.trans hc')
    rw [howner, Option.some.injEq, hmade.recipient] at howner'
    exact howner'.symm
  · exact absurd hg List.not_mem_nil

/-- A run is provisional where its transfers change nothing; and where it is, they name
their own actors, and those that are rejected have changed no state. -/
theorem inert_provisional (run : Serves machine (HandoverRequest.handle app) start h s) :
    (Inert app h → Provisional h) ∧ (Provisional h → Ineffective h) := by
  refine ⟨provisional_of_inert run, fun hprovisional => ⟨?_, ?_⟩⟩
  · intro e he call r hmakes
    exact own_of_provisional run hprovisional he hmakes
  · intro h₁ e h₂ f h₃ call r hh hmakes hrejects hquiet c hc
    have he : e ∈ h := by
      rw [hh]
      simp
    obtain ⟨stored, c₀, hc₀, -, -, hafter⟩ := (making run he hmakes).custody
    obtain rfl := Option.some.inj (hc₀.symm.trans hc)
    obtain ⟨c', hc', -, hstate⟩ :=
      hprovisional.rejected h₁ e h₂ f h₃ call r hh hmakes hrejects c₀ hc
    rw [rejected_custody run hh hrejects hquiet, hafter, Option.some.injEq] at hc'
    rw [← hstate, ← hc']
    rfl

end Runs

section Sample

def transferTo (newOwnerId : String) : TransferCall :=
  { ownTagTransfer with payload := { ownTagTransfer.payload with newOwnerId := newOwnerId } }

/-- A transfer to this person, and their rejection of it. -/
def rejectedTransfer (newOwnerId : String) : List (HandoverRequest × (Nat → machine.Env)) :=
  [(.asset (.transfer (transferTo newOwnerId)), fun _ => ({ uuid := .repeated 7 } : Env)),
    (.reject { actor := { actorId := newOwnerId, actorRole := .consumer }
               payload := ⟨.repeated 7⟩ }, fun _ => ({} : Env))]

def rejectedRun (start : Store) (newOwnerId : String) : List HandoverEntry :=
  machine.serveAll (HandoverRequest.handle transferApp) start (rejectedTransfer newOwnerId)

theorem rejectedRun_serves (start : Store) (newOwnerId : String) :
    ∃ s, Serves machine (HandoverRequest.handle transferApp) start (rejectedRun start newOwnerId) s :=
  serveAll_serves ..

theorem rejectedRun_call {start : Store} {newOwnerId : String} {e : HandoverEntry}
    (he : e ∈ rejectedRun start newOwnerId) {call : TransferCall}
    (h : e.request = .asset (.transfer call)) : call = transferTo newOwnerId := by
  have hrequest : e.request ∈ (rejectedRun start newOwnerId).map (·.request) :=
    List.mem_map_of_mem he
  rw [rejectedRun, serveAll_requests, h] at hrequest
  obtain hfirst | hsecond := List.mem_cons.mp hrequest
  · injection hfirst with hasset
    injection hasset
  · cases List.mem_singleton.mp hsecond

/-- The first asset has been transferred before. -/
def transferredStore : Store where
  db :=
    { soldPairStore.db with
      assets := .single
          { assetId := "a", brandId := "brand", uid := some "04A31B2C3D4E5F",
            currentState := .transferred, ownerId := some "owner" } }

theorem inert_provisional_self :
    (rejectedRun transferredStore "owner").map (·.answer.status) = [200, 200] ∧
      Provisional (rejectedRun transferredStore "owner") := by
  obtain ⟨s, run⟩ := rejectedRun_serves transferredStore "owner"
  have hheld : ∀ e ∈ rejectedRun transferredStore "owner",
      (e.before.db.custody "a").any (fun c => c.currentState = .transferred) = true := by
    decide +kernel
  refine ⟨by decide +kernel, (inert_provisional run).1 ⟨?_, ?_⟩⟩
  · intro e he call hrequest _
    rw [rejectedRun_call he hrequest]
    rfl
  · intro h₁ e h₂ f h₃ call r hh hmakes call' _ _ _ _ _ _
    have he : e ∈ rejectedRun transferredStore "owner" := by simp [hh]
    have hlength := congrArg List.length hh
    have htwo : (rejectedRun transferredStore "owner").length = 2 := by decide +kernel
    have hasset := (making run he hmakes).assetId
    obtain rfl := rejectedRun_call he hmakes.request
    rw [hasset]
    constructor
    · intro c hc
      have hstate := hheld e he
      rw [show (transferTo "owner").assetId = "a" from rfl] at hc
      rw [hc, Option.any_some, decide_eq_true_eq] at hstate
      exact hstate
    · intro g hg
      simp only [htwo, List.length_append, List.length_cons] at hlength
      have hpos := List.length_pos_of_mem hg
      omega

/-- A rejection leaves the asset with the recipient. -/
theorem rejection_returns_nothing :
    ¬∀ (app : AppState) (start s : Store) (h : List HandoverEntry),
      Serves machine (HandoverRequest.handle app) start h s → Provisional h := by
  intro hall
  obtain ⟨s, run⟩ := rejectedRun_serves soldPairStore "friend"
  have hprovisional := hall _ _ _ _ run
  have hanswers : (rejectedRun soldPairStore "friend").map (fun e => (e.answer.status,
      e.answer.made, e.before.db.custody "a", e.after.db.custody "a")) =
      [(200, some ⟨.repeated 7, "a", "owner", "friend", "Transferred"⟩,
        some ⟨"brand", .legallySold, none, some "owner"⟩,
        some ⟨"brand", .transferred, some .legallySold, some "friend"⟩),
       (200, none, some ⟨"brand", .transferred, some .legallySold, some "friend"⟩,
        some ⟨"brand", .transferred, some .legallySold, some "friend"⟩)] := by decide +kernel
  have hrequests : (rejectedRun soldPairStore "friend").map (·.request) =
      (rejectedTransfer "friend").map (·.1) := serveAll_requests ..
  obtain ⟨e, f, hrun⟩ : ∃ e f, rejectedRun soldPairStore "friend" = [e, f] := ⟨_, _, rfl⟩
  rw [hrun] at hprovisional hanswers hrequests
  simp only [rejectedTransfer, List.map_cons, List.map_nil, List.cons.injEq, Prod.mk.injEq]
    at hanswers hrequests
  obtain ⟨⟨-, hmade, hbefore, -⟩, ⟨hrejected, -, -, hafter⟩, -⟩ := hanswers
  obtain ⟨htransfer, hreject, -⟩ := hrequests
  obtain ⟨c', hc', howner, -⟩ := hprovisional.rejected [] e [] f [] _ _ rfl ⟨htransfer, hmade⟩
    ⟨⟨_, hreject, rfl⟩, hrejected⟩ _ hbefore
  obtain rfl := Option.some.inj (hafter.symm.trans hc')
  exact absurd howner (by decide)

end Sample

end RcProtocol
