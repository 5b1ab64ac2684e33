import RcProtocol.Ownership

/-!
A frozen asset. From the freeze to the recovery or the risk mark that ends it no
request changes what the asset is or whose, no business action gets past the core
rule, and only the platform and the moderators end it.
-/

namespace RcProtocol
open Library

/-- What a freeze holds still: the state, the owner, the product mapping and the
commitment of an asset. -/
structure Holding where
  currentState : AssetState
  ownerId : Option String
  externalProductId : Option String
  externalProductName : Option String
  externalProductUrl : Option String
  assetCommitmentId : Option String
  deriving DecidableEq

def AssetRow.holding (r : AssetRow) : Holding :=
  ⟨r.currentState, r.ownerId, r.externalProductId, r.externalProductName, r.externalProductUrl,
    r.assetCommitmentId⟩

def Db.holding (db : Db) (assetId : String) : Option Holding :=
  (db.asset assetId).map AssetRow.holding

def Db.Frozen (db : Db) (assetId : String) : Prop :=
  ∃ row, db.asset assetId = some row ∧ row.currentState = .disputed

/-- The request was refused, or answered with the response stored under its key, and
the database is as it was. -/
structure WithoutEffect (e : AssetEntry) : Prop where
  unchanged : e.after.db = e.before.db
  answer : e.answer.status ≠ 200 ∨ ∃ required record,
    parseRequiredHeaders e.request.headers = .ok required ∧
      e.before.db.selectIdempotencyRecord required.idempotencyKey = some record ∧
        e.answer = .ok (.json record.responseSnapshot)

/-- Who ended the freeze, and how. -/
structure Released (id : String) (e : AssetEntry) : Prop where
  asset : e.request.assetId = id
  action : e.request.act = .recover ∨ e.request.act = .markTampered ∨
    e.request.act = .markCompromised ∨ e.request.act = .markDestructed
  role : e.request.actor.actorRole = .platform ∨ e.request.actor.actorRole = .moderator

structure FreezePriority (h : List AssetEntry) (id : String) : Prop where
  steady : ∀ h₁ e h₂ h₃, h = h₁ ++ e :: (h₂ ++ h₃) → e.after.db.Frozen id →
    (∀ f ∈ h₂, f.after.db.Frozen id) → ∀ f ∈ h₂, f.after.db.holding id = e.after.db.holding id
  business : ∀ e ∈ h, e.before.db.Frozen id → e.request.assetId = id →
    e.request.act.isBusiness = true → WithoutEffect e
  released : ∀ e ∈ h, e.before.db.Frozen id → ¬e.after.db.Frozen id → Released id e

theorem Db.Frozen.custody {db : Db} {id : String} (h : db.Frozen id) :
    ∃ c, db.custody id = some c ∧ c.currentState = .disputed := by
  obtain ⟨row, hrow, hd⟩ := h
  exact ⟨row.custody, by rw [Db.custody, hrow, Option.map_some], hd⟩

theorem Db.Frozen.fetched {db : Db} {id : String} {stored : AssetRecord} (h : db.Frozen id)
    (hs : db.selectAssetRecord id = some stored) : stored.currentState = .disputed := by
  obtain ⟨c, hc, hd⟩ := h.custody
  obtain ⟨c', hc', -, hcurrent, -⟩ := Db.custody_of_selectAssetRecord hs
  obtain rfl := Option.some.inj (hc'.symm.trans hc)
  exact hcurrent.symm.trans hd

/-- Beside the platform only moderators act on a frozen asset. -/
theorem canRoleInitiate_disputed {role : ActorRole} {action : AssetAction}
    (h : canRoleInitiate role .disputed action = true) : role = .platform ∨ role = .moderator := by
  cases role <;> first | exact .inl rfl | exact .inr rfl | (cases action <;> cases h)

section Writes
variable {app : AppState} {q : WriteRequest} {required : RequiredHeaders} {stored : AssetRecord}
  {w : PersistAction} {log : Log} {e : Event api} {s s' : Store}

/-- A transaction on a frozen asset ends the freeze. -/
theorem WriteRequest.Writes.release (hw : q.Writes required stored w)
    (hd : stored.currentState = .disputed) :
    (q.act = .recover ∨ q.act = .markTampered ∨ q.act = .markCompromised ∨
        q.act = .markDestructed) ∧
      (q.actor.actorRole = .platform ∨ q.actor.actorRole = .moderator) ∧
      w.nextRecord.currentState ≠ .disputed := by
  have ht := hw.transition
  have hrole := hw.applied.role
  rw [currentState_withPrevious, hd] at hrole
  rw [hd] at ht
  refine ⟨nextState_of_disputed ht, canRoleInitiate_disputed hrole, fun hn => ?_⟩
  rw [hn] at ht
  exact (nextState_disputed.mp ht).2.2 rfl

/-- Of a frozen asset a write request touches nothing but in that transaction. -/
theorem WriteRequest.Calls.unwritten (h : q.Calls log e.op) (ht : machine.Trace s log s')
    (hd : s.db.Frozen q.assetId) (hc : custodyWrite e = none) : isWrite e = false := by
  obtain ⟨op, r⟩ := e
  have hnot : ∀ {required stored w rest}, log = q.start required stored ++ rest →
      q.Writes required stored w → ∀ l, ¬q.SideCall stored l op := by
    intro required stored w rest hlog hw l hop
    rw [hlog] at ht
    have hact := (hw.release (hd.fetched (trace_start ht))).1
    cases q with
    | activate => simp [act] at hact
    | action | activateEntangle =>
        rw [hop.1] at hact
        simp at hact
  cases h with
  | lookup => cases r <;> rfl
  | fetch => cases r <;> rfl
  | side hw hop => exact (hnot rfl hw _ hop).elim
  | persist => cases r <;> first | rfl | cases hc

/-- A write request writes no other asset than its own. -/
theorem WriteRequest.Calls.asset_key {key : String} {f : AssetRow → AssetRow}
    (h : q.Calls log e.op) (ht : machine.Trace s log s') (hf : assetWrite e = some (key, f)) :
    key = q.assetId := by
  obtain ⟨op, r⟩ := e
  cases h with
  | lookup => cases hf
  | fetch => cases hf
  | side hw hop =>
      cases q with
      | activate => cases hop <;> cases r <;> cases hf <;> rfl
      | action | activateEntangle => cases hop.2 <;> cases hf
  | persist hw =>
      cases r with
      | error e => cases hf
      | ok a =>
          cases hf
          exact hw.next_assetId.trans (Db.selectAssetRecord_assetId (trace_start ht))

end Writes

section Transfers
variable {app : AppState} {call : TransferCall} {log : Log} {e : Event api} {s s' : Store}

theorem TransferCall.Steps.asset_key {key : String} {f : AssetRow → AssetRow}
    (h : call.Steps app log e.op) (hf : assetWrite e = some (key, f)) : key = call.assetId := by
  obtain ⟨op, r⟩ := e
  cases h with
  | authority h ht hop => cases hop.authorityCall [] <;> cases hf
  | update h =>
      cases r with
      | error e => cases hf
      | ok a =>
          cases hf
          rfl
  | _ => cases hf

/-- A transfer has found its asset sold or transferred before it writes anything. -/
theorem TransferCall.Steps.found (h : call.Steps app log e.op) (ht : machine.Trace s log s')
    (hw : isWrite e = true) :
    ∃ stored owner, s.db.selectAssetRecord call.assetId = some stored ∧ call.Owns stored owner := by
  obtain ⟨op, r⟩ := e
  cases h with
  | fetch | owner | epoch => cases r <;> cases hw
  | authority h htag hop => exact ⟨_, _, (trace_checked ht).1, h⟩
  | update h => exact ⟨_, _, (h.reads ht).1, h.owns⟩
  | record h =>
      obtain ⟨t, ht, -⟩ := machine.trace_append.mp ht
      exact ⟨_, _, (h.reads ht).1, h.owns⟩
  | event h =>
      obtain ⟨t, ht, -⟩ := machine.trace_append.mp ht
      exact ⟨_, _, (h.reads ht).1, h.owns⟩

end Transfers

section Entries
variable {app : AppState} {start s : Store} {h : List AssetEntry} {e : AssetEntry} {id : String}

/-- A request on a frozen asset that commits has ended the freeze. -/
theorem frozen_committed (run : Serves machine (AssetRequest.handle app) start h s) (he : e ∈ h)
    (hd : e.before.db.Frozen id) (hid : e.request.assetId = id) (hc : Committed e.log) :
    Released id e ∧ ¬e.after.db.Frozen id := by
  obtain ⟨env, hlog, -, hafter⟩ := run.entry_run he
  obtain ⟨hnot, -⟩ | ⟨f, hf, -, hnext⟩ := e.request.run_commit app env e.before
  · exact absurd (hlog ▸ hc) hnot
  have hnext := hnext id
  rw [← hafter, if_pos hid] at hnext
  obtain ⟨c, hcustody, hdisputed⟩ := hd.custody
  cases hq : e.request with
  | transfer call =>
      rw [hq] at hf hid
      cases hf with
      | transfer howns _ hstored _ _ =>
          rw [show call.assetId = id from hid] at hstored
          have hstate := howns.state
          rw [hd.fetched hstored] at hstate
          simp at hstate
  | write q =>
      rw [hq] at hf hid
      cases hf with
      | @write _ required stored w hw hstored =>
          rw [show q.assetId = id from hid] at hstored
          obtain ⟨haction, hrole, hnot⟩ := hw.release (hd.fetched hstored)
          refine ⟨⟨hq ▸ hid, hq ▸ haction, hq ▸ hrole⟩, fun hfrozen => ?_⟩
          obtain ⟨c', hc', hd'⟩ := hfrozen.custody
          rw [hcustody, hc', Option.map_some] at hnext
          obtain rfl := Option.some.inj hnext
          exact hnot hd'

/-- One that does not commit writes nothing at all. -/
theorem frozen_unchanged (run : Serves machine (AssetRequest.handle app) start h s) (he : e ∈ h)
    (hd : e.before.db.Frozen id) (hid : e.request.assetId = id) (hc : ¬Committed e.log) :
    e.after.db = e.before.db := by
  obtain ⟨env, hlog, -, hafter⟩ := run.entry_run he
  have htrace := machine.run_trace (e.request.handle app) env e.before
  rw [View.not_wrote_iff] at hc
  rw [← hlog, ← hafter] at htrace
  refine trace_unwritten htrace fun x hx => ?_
  obtain ⟨before, after, hsplit⟩ := List.append_of_mem hx
  rw [hsplit] at htrace
  obtain ⟨t, ht, -⟩ := machine.trace_append.mp htrace
  cases hq : e.request with
  | write q =>
      rw [hq] at hlog hid
      have hcall := machine.meets_run_calls (q.handle_meets app) env e.before
        (hlog.symm.trans hsplit)
      rw [← show q.assetId = id from hid] at hd
      exact WriteRequest.Calls.unwritten hcall ht hd (hc x hx)
  | transfer call =>
      rw [hq] at hlog hid
      have hcall := machine.meets_run_calls (call.transferHandler_steps app) env e.before
        (hlog.symm.trans hsplit)
      by_contra hw
      rw [Bool.not_eq_false] at hw
      obtain ⟨stored, owner, hstored, howns⟩ := TransferCall.Steps.found hcall ht hw
      rw [show call.assetId = id from hid] at hstored
      have hstate := howns.state
      rw [hd.fetched hstored] at hstate
      simp at hstate

/-- A request on another asset leaves the row alone. -/
theorem other_asset (run : Serves machine (AssetRequest.handle app) start h s) (he : e ∈ h)
    (hid : e.request.assetId ≠ id) : e.after.db.asset id = e.before.db.asset id := by
  obtain ⟨env, hlog, -, hafter⟩ := run.entry_run he
  have htrace := machine.run_trace (e.request.handle app) env e.before
  rw [← hlog, ← hafter] at htrace
  refine assetView.get_trace_other htrace fun x hx key f hf hkey => hid ?_
  obtain ⟨before, after, hsplit⟩ := List.append_of_mem hx
  rw [hsplit] at htrace
  obtain ⟨t, ht, -⟩ := machine.trace_append.mp htrace
  rw [← hkey]
  cases hq : e.request with
  | write q =>
      rw [hq] at hlog
      have hcall := machine.meets_run_calls (q.handle_meets app) env e.before
        (hlog.symm.trans hsplit)
      exact (WriteRequest.Calls.asset_key hcall ht hf).symm
  | transfer call =>
      rw [hq] at hlog
      have hcall := machine.meets_run_calls (call.transferHandler_steps app) env e.before
        (hlog.symm.trans hsplit)
      exact (TransferCall.Steps.asset_key hcall hf).symm

/-- What is answered without a commit: a refusal, or the stored response. -/
theorem uncommitted_answer (run : Serves machine (AssetRequest.handle app) start h s) (he : e ∈ h)
    (hc : ¬Committed e.log) :
    e.answer.status ≠ 200 ∨ ∃ required record,
      parseRequiredHeaders e.request.headers = .ok required ∧
        e.before.db.selectIdempotencyRecord required.idempotencyKey = some record ∧
          e.answer = .ok (.json record.responseSnapshot) := by
  obtain ⟨env, hlog, hreply, -⟩ := run.entry_run he
  have htrace := machine.run_trace (e.request.handle app) env e.before
  rw [← hlog] at htrace
  cases hq : e.request with
  | write q =>
      rw [hq] at hlog hreply
      have hanswer := machine.meets_run_answer (q.handle_meets app) env e.before
      rw [List.nil_append] at hanswer
      change e.log = (machine.run (q.handle app) env e.before).log at hlog
      change e.answer = (machine.run (q.handle app) env e.before).answer at hreply
      rw [← hlog, ← hreply] at hanswer
      generalize e.answer = reply at *
      generalize e.log = log at *
      cases hanswer with
      | unasked h => exact .inl h
      | lookupFailed => exact .inl (protocolErrorResponse_status _)
      | @known required record hrequired =>
          split
          · exact .inl (protocolErrorResponse_status _)
          · obtain ⟨⟨env', hr⟩, -⟩ := trace_query htrace fun _ _ => query_state _
            exact .inr ⟨required, record, hrequired, query_ok hr, rfl⟩
      | fresh _ hok =>
          refine .inl fun hstatus => hc ?_
          obtain ⟨w, hw⟩ := hok hstatus
          exact View.wrote_of_mem (List.mem_cons_of_mem _ hw) rfl
  | transfer call =>
      rw [hq] at hlog hreply
      have hanswer := machine.meets_run_answer (call.transferHandler_steps app) env e.before
      rw [List.nil_append] at hanswer
      change e.log = (machine.run (call.handle app) env e.before).log at hlog
      change e.answer = (machine.run (call.handle app) env e.before).answer at hreply
      rw [← hlog, ← hreply] at hanswer
      generalize e.answer = reply at *
      generalize e.log = log at *
      cases hanswer with
      | refused => exact .inl (errorResponse_status _)
      | unrecorded => exact .inl (errorResponse_status _)
      | @recorded key owner stored before transferId r hcleared =>
          refine absurd (View.wrote_of_mem (e := call.updated stored (.ok ())) ?_ rfl) hc
          exact List.mem_append_right _ (List.mem_cons_self ..)

end Entries

/-- In every run of requests on the assets a freeze comes before everything else. -/
theorem freeze_priority {app : AppState} {start s : Store} {h : List AssetEntry}
    (run : Serves machine (AssetRequest.handle app) start h s) (id : String) :
    FreezePriority h id := by
  have hstep : ∀ e ∈ h, e.before.db.Frozen id → e.after.db.Frozen id →
      e.after.db.holding id = e.before.db.holding id := by
    intro e he hbefore hafter
    unfold Db.holding
    by_cases hid : e.request.assetId = id
    · by_cases hc : Committed e.log
      · exact absurd hafter (frozen_committed run he hbefore hid hc).2
      · rw [frozen_unchanged run he hbefore hid hc]
    · rw [other_asset run he hid]
  refine ⟨?_, fun e he hd hid hbusiness => ?_, fun e he hd hnot => ?_⟩
  · intro h₁ e h₂ h₃ hh hfrozen hall f hf
    have hmem : ∀ g ∈ h₂, g ∈ h := fun g hg => by simp [hh, hg]
    obtain ⟨before, after, rfl⟩ := List.append_of_mem hf
    rw [List.append_assoc, List.cons_append] at hh
    have hbefore : f.before.db.Frozen id ∧ f.before.db.holding id = e.after.db.holding id := by
      refine ((run.after hh).split rfl).invariant
        (I := fun s => s.db.Frozen id ∧ s.db.holding id = e.after.db.holding id) ⟨hfrozen, rfl⟩ ?_
      intro g hg hbefore
      have hg := List.mem_append_left (f :: after) hg
      exact ⟨hall g hg, (hstep g (hmem g hg) hbefore.1 (hall g hg)).trans hbefore.2⟩
    exact (hstep f (hmem f hf) hbefore.1 (hall f hf)).trans hbefore.2
  · have hc : ¬Committed e.log := by
      intro hc
      obtain ha | ha | ha | ha := (frozen_committed run he hd hid hc).1.action <;>
        rw [ha] at hbusiness <;> cases hbusiness
    exact ⟨frozen_unchanged run he hd hid hc, uncommitted_answer run he hc⟩
  · have hid : e.request.assetId = id := by
      by_contra hid
      obtain ⟨row, hrow, hdisputed⟩ := hd
      exact hnot ⟨row, (other_asset run he hid).trans hrow, hdisputed⟩
    have hc : Committed e.log := by
      by_contra hc
      exact hnot (frozen_unchanged run he hd hid hc ▸ hd)
    exact (frozen_committed run he hd hid hc).1

/-- The owner tries to consume the asset between its freeze and its recovery. -/
def frozenRun : List AssetEntry :=
  machine.serveAll (AssetRequest.handle default) ownedStore
    [(.write (.action (moderatorCall .freeze "k1" 2 {})), fun _ => {}),
      (consumeRequest "owner", fun _ => {}),
      (.write (.action (moderatorCall .recover "k2" 3 {})), fun _ => {})]

theorem frozenRun_serves :
    ∃ s, Serves machine (AssetRequest.handle default) ownedStore frozenRun s :=
  serveAll_serves ..

theorem freeze_priority_consumed :
    frozenRun.map (fun e =>
        (e.answer.status, decide (e.after.db.holding "a" = ownedStore.db.holding "a"))) =
        [(200, false), (400, false), (200, true)] ∧
      FreezePriority frozenRun "a" := by
  obtain ⟨s, run⟩ := frozenRun_serves
  exact ⟨by decide, freeze_priority run "a"⟩

end RcProtocol
