import RcProtocol.Api.TransferSpec

/-!
The requests that may write the custody of an asset, protocol writes and
transfers, under one specification: each runs at most one of the two operations
that do, on the asset it names, and from the row it has read.
-/

namespace RcProtocol
open Library

namespace WriteRequest.Writes
variable {q : WriteRequest} {required : RequiredHeaders} {stored : AssetRecord} {w : PersistAction}

theorem currentState_withPrevious (payload : AssetActionRequest) :
    (withPrevious stored payload).currentState = stored.currentState := by
  unfold withPrevious
  split <;> rfl

theorem transition (h : q.Writes required stored w) :
    nextStateForActionWithPrevious stored.currentState q.act
      (withPrevious stored q.payload).previousState = some w.nextRecord.currentState := by
  have ht := h.applied.transition
  rwa [currentState_withPrevious] at ht

theorem previousState (h : q.Writes required stored w) :
    w.nextRecord.previousState =
      if w.nextRecord.currentState = .disputed then some stored.currentState else none := by
  have hp := h.applied.previousState
  rwa [currentState_withPrevious] at hp

end WriteRequest.Writes

/-- What a handler fetched is what was stored when it began. -/
theorem WriteRequest.trace_start {q : WriteRequest} {required : RequiredHeaders}
    {stored : AssetRecord} {log : Log} {s t : Store}
    (ht : machine.Trace s (q.start required stored ++ log) t) :
    s.db.selectAssetRecord q.assetId = some stored := by
  obtain ⟨-, ht⟩ := trace_query ht fun _ _ => query_state _
  obtain ⟨⟨env, hr⟩, -⟩ := trace_query ht fun _ _ => query_state _
  exact query_ok hr

/-- A request that may write the custody of an asset. -/
inductive AssetRequest where
  | write (q : WriteRequest)
  | transfer (call : TransferCall)

/-- What a transfer makes of the asset it read as `stored`. -/
def TransferCall.custody (call : TransferCall) (stored : AssetRecord) (c : Custody) : Custody :=
  { c with
    currentState := .transferred
    previousState := some stored.currentState
    ownerId := some call.payload.newOwnerId }

namespace AssetRequest

def handle (app : AppState) : AssetRequest → Service Reply
  | write q => q.handle app
  | transfer call => call.handle app

def assetId : AssetRequest → String
  | write q => q.assetId
  | transfer call => call.assetId

def act : AssetRequest → AssetAction
  | write q => q.act
  | transfer _ => .transfer

def actor : AssetRequest → ActorContext
  | write q => q.actor
  | transfer call => call.actor

def headers : AssetRequest → HeaderMap
  | write q => q.headers
  | transfer call => call.headers

def Calls (app : AppState) : AssetRequest → Log → Op → Prop
  | write q => q.Calls
  | transfer call => call.Calls app

def Answers : AssetRequest → Log → Reply → Prop
  | write q => q.Answers
  | transfer call => call.Answers

theorem handle_meets (app : AppState) (r : AssetRequest) :
    Meets (r.Calls app) r.Answers [] (r.handle app) := by
  cases r with
  | write q => exact q.handle_meets app
  | transfer call => exact call.transferHandler_meets app

/-- How a request writes custody: what it read and checked before, and what it
makes of the row. -/
inductive Commit (app : AppState) : AssetRequest → Log → String → (Custody → Custody) → Prop
  | write {q : WriteRequest} {required : RequiredHeaders} {stored : AssetRecord}
      {w : PersistAction} {rest : Log} (hw : q.Writes required stored w)
      (hrest : ¬Committed rest) :
      Commit app (.write q) (q.start required stored ++ rest) stored.assetId w.custody
  | transfer {call : TransferCall} {stored : AssetRecord} {owner : String} {epoch : Int32}
      {message : SunMessage} {rest : Log} (h : call.Owns stored owner)
      (ht : call.Presents app stored epoch message)
      (hrest : ∀ e ∈ rest, ∃ log, AuthorityCall call.assetId log e.op) :
      Commit app (.transfer call) (call.checked stored owner epoch ++ rest) call.assetId
        (call.custody stored)

variable {app : AppState} {r : AssetRequest} {log : Log} {e : Event api} {id : String}
  {f : Custody → Custody}

theorem commit_of_calls (h : r.Calls app log e.op) (hf : custodyWrite e = some (id, f)) :
    Commit app r log id f := by
  obtain ⟨op, a⟩ := e
  cases r with
  | write q =>
      have h : q.Calls log op := h
      cases op <;> first | cases hf | skip
      · cases a with
        | error e => cases hf
        | ok a =>
            cases hf
            obtain ⟨required, stored, rest, rfl, hw, hrest⟩ := h.persist_inv
            rw [hw.next_assetId]
            exact .write hw hrest
      · exact h.ne_transferred.elim
  | transfer call =>
      have h : call.Calls app log op := h
      cases h with
      | update howns ht hrest =>
          cases a with
          | error e => cases hf
          | ok a =>
              cases hf
              exact .transfer howns ht hrest
      | authority h ht hop => cases hop <;> cases hf
      | _ => cases hf

theorem Commit.not_committed (h : Commit app r log id f) : ¬Committed log := by
  cases h with
  | write hw hrest =>
      exact View.not_wrote_append.mpr
        ⟨by simp [WriteRequest.start, View.Wrote, custodyView, custodyWrite], hrest⟩
  | transfer h ht hrest =>
      refine View.not_wrote_append.mpr
        ⟨by simp [TransferCall.checked, TransferCall.start, View.Wrote, custodyView, custodyWrite], ?_⟩
      rw [View.not_wrote_iff]
      intro e he
      obtain ⟨log, hcall⟩ := hrest e he
      exact authorityCall_custody hcall

/-- What a committing request had read, when it ran alone from the state. -/
inductive CommitsFrom (app : AppState) (db : Db) : AssetRequest → (Custody → Custody) → Prop
  | write {q : WriteRequest} {required : RequiredHeaders} {stored : AssetRecord}
      {w : PersistAction} (hw : q.Writes required stored w)
      (hstored : db.selectAssetRecord q.assetId = some stored) :
      CommitsFrom app db (.write q) w.custody
  | transfer {call : TransferCall} {stored : AssetRecord} {owner : String} {epoch : Int32}
      {message : SunMessage} (h : call.Owns stored owner)
      (ht : call.Presents app stored epoch message)
      (hstored : db.selectAssetRecord call.assetId = some stored)
      (howner : db.selectOwner call.assetId = some (some owner))
      (hepoch : db.selectEpochByUid call.payload.childUid = some epoch) :
      CommitsFrom app db (.transfer call) (call.custody stored)

theorem Commit.from {s t : Store} (h : Commit app r log id f) (ht : machine.Trace s log t) :
    r.assetId = id ∧ CommitsFrom app s.db r f := by
  cases h with
  | write hw hrest =>
      have hstored := WriteRequest.trace_start ht
      exact ⟨(Db.selectAssetRecord_assetId hstored).symm, .write hw hstored⟩
  | transfer h htag hrest =>
      obtain ⟨⟨env, hr⟩, ht⟩ := trace_query ht fun _ _ => query_state _
      obtain ⟨⟨env', hr'⟩, ht⟩ := trace_query ht fun _ _ => query_state _
      obtain ⟨⟨env'', hr''⟩, -⟩ := trace_query ht fun _ _ => query_state _
      exact ⟨rfl, .transfer h htag (query_ok hr) (query_ok hr') (query_ok hr'')⟩

/-- One request alone: it leaves the custody of every asset as it was, or writes
that of its own asset once, from what was stored when it began. -/
theorem run_commit (app : AppState) (r : AssetRequest) (env : Nat → machine.Env) (s : Store) :
    (¬Committed (machine.run (r.handle app) env s).log ∧
      ∀ id, (machine.run (r.handle app) env s).state.db.custody id = s.db.custody id) ∨
    ∃ f, CommitsFrom app s.db r f ∧ Committed (machine.run (r.handle app) env s).log ∧
      ∀ id, (machine.run (r.handle app) env s).state.db.custody id =
        if r.assetId = id then (s.db.custody id).map f else s.db.custody id := by
  obtain h | ⟨before, e, after, id, f, t, hlog, hcall, hf, ht, hnext⟩ :=
    custodyView.run_once (r.handle_meets app)
      (fun log e id f hcall hf => (commit_of_calls hcall hf).not_committed) env s
  · exact .inl h
  · right
    obtain ⟨rfl, hfrom⟩ := (commit_of_calls hcall hf).from ht
    refine ⟨f, hfrom, ?_, hnext⟩
    rw [hlog]
    exact View.wrote_of_mem (List.mem_append_right _ (List.mem_cons_self ..)) hf

end AssetRequest

end RcProtocol
