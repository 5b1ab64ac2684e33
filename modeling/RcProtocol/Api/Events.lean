import RcProtocol.Api.AssetRequest

/-!
The audit events of an asset, in the order they were written. A protocol write
adds its event in the transaction that moves the asset; a transfer adds it in a
statement of its own, the last of three.
-/

namespace RcProtocol
open Library

def Db.eventsOf (db : Db) (assetId : String) : List EventRow :=
  db.events.rows.filter (·.assetId = assetId)

/-- The asset whose events grow, and by which event. -/
def eventWrite : Event api → Option (String × (List EventRow → List EventRow))
  | ⟨.persistAction w, .ok _⟩ => some (w.eventRow.assetId, fun events => events ++ [w.eventRow])
  | ⟨.insertTransferEvent row, .ok _⟩ => some (row.assetId, fun events => events ++ [row])
  | _ => none

theorem eventsOf_insert {db : Db} {events : Table EventRow} {row : EventRow}
    (h : db.events.insert row = some events) (assetId : String) :
    some (events.rows.filter (·.assetId = assetId)) =
      written (some (row.assetId, fun events => events ++ [row])) assetId
        (some (db.eventsOf assetId)) := by
  rw [Table.rows_filter_insert h]
  by_cases hid : row.assetId = assetId
  · simp [written, Db.eventsOf, hid]
  · simp [written, Db.eventsOf, hid]

theorem Changes.eventsOf {e : Event api} {db db' : Db} (h : Changes e db db') (assetId : String) :
    some (db'.eventsOf assetId) = written (eventWrite e) assetId (some (db.eventsOf assetId)) := by
  cases h with
  | persistAction hevents _ => exact eventsOf_insert hevents assetId
  | insertTransferEvent hevents => exact eventsOf_insert hevents assetId
  | read h =>
      obtain ⟨op, r⟩ := e
      cases op <;> first | rfl | (cases r <;> first | rfl | cases h)
  | _ => rfl

/-- The events of each asset, as a view of the state. -/
def eventView : View machine String (List EventRow) where
  get s assetId := some (s.db.eventsOf assetId)
  write := eventWrite
  step env op s := (machine_changes env op s).eventsOf

/-- A write of the record or of the event of a transfer that failed. -/
def trailFailed : Event api → Bool
  | ⟨.insertTransfer _, .error _⟩ | ⟨.insertTransferEvent _, .error _⟩ => true
  | _ => false

/-- The event of a request that makes `f c` of an asset that stands at `c`. -/
structure AssetRequest.Audits (r : AssetRequest) (f : Custody → Custody) (c : Custody)
    (row : EventRow) : Prop where
  assetId : row.assetId = r.assetId
  action : row.action = r.act
  fromState : row.fromState = some c.currentState
  toState : row.toState = (f c).currentState

section Views
variable {log : Log} {s s' : Store}

theorem eventsOf_quiet (h : machine.Trace s log s') (hlog : ∀ e ∈ log, eventWrite e = none)
    (assetId : String) : s'.db.eventsOf assetId = s.db.eventsOf assetId :=
  Option.some.inj (eventView.get_trace h hlog assetId)

theorem custody_quiet (h : machine.Trace s log s') (hlog : ∀ e ∈ log, custodyWrite e = none)
    (assetId : String) : s'.db.custody assetId = s.db.custody assetId :=
  custodyView.get_trace h hlog assetId

/-- What a trace does to the events is what its only event row does. -/
theorem eventsOf_one {before after : Log} {e : Event api} {row : EventRow}
    (h : machine.Trace s (before ++ e :: after) s') (hbefore : ∀ e ∈ before, eventWrite e = none)
    (hafter : ∀ e ∈ after, eventWrite e = none)
    (he : eventWrite e = some (row.assetId, fun events => events ++ [row])) (assetId : String) :
    s'.db.eventsOf assetId =
      if row.assetId = assetId then s.db.eventsOf assetId ++ [row] else s.db.eventsOf assetId := by
  have hone := eventView.get_trace_one h (View.not_wrote_iff.mpr hbefore)
    (View.not_wrote_iff.mpr hafter) assetId
  rw [show eventView.write e = _ from he] at hone
  simp only [written] at hone
  by_cases hid : row.assetId = assetId
  · rw [if_pos hid] at hone ⊢
    exact Option.some.inj hone
  · rw [if_neg hid] at hone ⊢
    exact Option.some.inj hone

end Views

namespace WriteRequest
variable {q : WriteRequest} {log : Log} {e : Event api}

/-- The only event rows of a protocol write are those of its transaction. -/
theorem Calls.eventWrite (h : q.Calls log e.op) (hc : custodyWrite e = none) :
    eventWrite e = none := by
  obtain ⟨op, r⟩ := e
  cases op <;> first | rfl | (cases r <;> first | rfl | cases hc)
  cases h with
  | side hw hop =>
      cases q with
      | activate => cases hop
      | action | activateEntangle => cases hop.2

/-- A protocol write that commits does so in its transaction. -/
theorem Calls.custodyWrite_eq {id : String} {f : Custody → Custody} (h : q.Calls log e.op)
    (hf : custodyWrite e = some (id, f)) :
    ∃ w, e = ⟨.persistAction w, .ok ()⟩ ∧ f = w.custody := by
  obtain ⟨op, a⟩ := e
  cases op <;> first | cases hf | skip
  · cases a with
    | error e => cases hf
    | ok a =>
        cases hf
        exact ⟨_, rfl, rfl⟩
  · exact (Calls.ne_transferred h).elim

/-- The event row of a transaction is about the asset as it was fetched. -/
theorem Writes.audits {required : RequiredHeaders} {stored : AssetRecord} {w : PersistAction}
    {c : Custody} (h : q.Writes required stored w) (hid : stored.assetId = q.assetId)
    (hc : c.currentState = stored.currentState) :
    (AssetRequest.write q).Audits w.custody c w.eventRow := by
  have hevent := h.applied.event_eq
  have hasset : (withPrevious stored q.payload).assetId = stored.assetId := by
    unfold withPrevious
    split <;> rfl
  constructor
  · show w.auditEvent.assetId = q.assetId
    rw [hevent, ← hid, ← hasset]
  · show w.auditEvent.action = q.act
    rw [hevent]
  · show w.auditEvent.fromState = some c.currentState
    rw [hevent]
    exact congrArg some ((currentState_withPrevious q.payload).trans hc.symm)
  · show w.auditEvent.toState = w.nextRecord.currentState
    rw [hevent]

end WriteRequest

section Runs
variable {log : Log} {s s' : Store} {app : AppState}

def Untouched (s s' : Store) : Prop :=
  ∀ id, s'.db.custody id = s.db.custody id ∧ s'.db.eventsOf id = s.db.eventsOf id

/-- The request moved its asset, and left the event of the move. -/
def AssetRequest.Moved (app : AppState) (r : AssetRequest) (s s' : Store) : Prop :=
  ∃ f c row, CommitsFrom app s.db r f ∧ s.db.custody r.assetId = some c ∧ r.Audits f c row ∧
    ∀ id,
      s'.db.custody id =
        (if r.assetId = id then (s.db.custody id).map f else s.db.custody id) ∧
      s'.db.eventsOf id =
        if r.assetId = id then s.db.eventsOf id ++ [row] else s.db.eventsOf id

theorem untouched_quiet (h : machine.Trace s log s')
    (hcustody : ∀ e ∈ log, custodyWrite e = none) (hevents : ∀ e ∈ log, eventWrite e = none) :
    Untouched s s' :=
  fun id => ⟨custody_quiet h hcustody id, eventsOf_quiet h hevents id⟩

/-- What a trace does to custody is what its only write does. -/
theorem custody_one {before after : Log} {e : Event api} {key : String} {f : Custody → Custody}
    (h : machine.Trace s (before ++ e :: after) s')
    (hbefore : ∀ e ∈ before, custodyWrite e = none) (hafter : ∀ e ∈ after, custodyWrite e = none)
    (he : custodyWrite e = some (key, f)) (id : String) :
    s'.db.custody id = if key = id then (s.db.custody id).map f else s.db.custody id := by
  have hone := custodyView.get_trace_one h (View.not_wrote_iff.mpr hbefore)
    (View.not_wrote_iff.mpr hafter) id
  rw [show custodyView.write e = _ from he] at hone
  exact hone

/-- A protocol write moves its asset and adds the event of the move, or neither. -/
theorem WriteRequest.run_trail (app : AppState) (q : WriteRequest) (env : Nat → machine.Env)
    (s : Store) :
    Untouched s (machine.run (q.handle app) env s).state ∨
      (AssetRequest.write q).Moved app s (machine.run (q.handle app) env s).state := by
  have htrace := machine.run_trace (q.handle app) env s
  have hevent : ∀ e ∈ (machine.run (q.handle app) env s).log, custodyWrite e = none →
      eventWrite e = none := by
    intro e he hc
    obtain ⟨before, after, hlog⟩ := List.append_of_mem he
    have hcall := machine.meets_run_calls (q.handle_meets app) env s hlog
    exact Calls.eventWrite hcall hc
  obtain hquiet | ⟨before, e, after, id, f, hlog, hcall, hf, hbefore, hafter⟩ :=
    custodyView.run_split (q.handle_meets app) (fun log e id f hcall hf =>
      (@AssetRequest.commit_of_calls app (.write q) log e id f hcall hf).not_committed) env s
  · rw [View.not_wrote_iff] at hquiet
    exact .inl (untouched_quiet htrace hquiet fun e he => hevent e he (hquiet e he))
  · right
    rw [View.not_wrote_iff] at hbefore hafter
    rw [hlog] at htrace hevent
    obtain ⟨w, rfl, rfl⟩ := Calls.custodyWrite_eq hcall hf
    obtain ⟨required, stored, rest, rfl, hw, -⟩ := Calls.persist_inv hcall
    have hstored := trace_start (by rwa [List.append_assoc] at htrace)
    have hid := Db.selectAssetRecord_assetId hstored
    obtain ⟨c, hc, -, hcurrent, -⟩ := Db.custody_of_selectAssetRecord hstored
    have haudits := hw.audits hid hcurrent
    refine ⟨w.custody, c, w.eventRow, .write hw hstored, hc, haudits, fun id => ⟨?_, ?_⟩⟩
    · have hone := custody_one htrace hbefore hafter rfl id
      rwa [hw.next_assetId, hid] at hone
    · have hone := eventsOf_one htrace
        (fun e he => hevent e (List.mem_append_left _ he) (hbefore e he))
        (fun e he => hevent e (List.mem_append_right _ (List.mem_cons_of_mem _ he)) (hafter e he))
        rfl id
      rwa [haudits.assetId] at hone

namespace TransferCall
variable {call : TransferCall} {key owner : String} {stored : AssetRecord} {e : Event api}

/-- Before the asset has changed hands a transfer writes no event. -/
theorem Steps.eventWrite (h : call.Steps app log e.op)
    (hlog : ∀ e ∈ log, custodyWrite e = none) : eventWrite e = none := by
  obtain ⟨op, r⟩ := e
  cases h with
  | authority h ht hop => cases hop.authorityCall [] <;> rfl
  | @event _ _ stored log id h =>
      have hupdated := hlog (call.updated stored (.ok ()))
        (List.mem_append_right _ (List.mem_cons_self ..))
      cases hupdated
  | _ => rfl

theorem Cleared.eventWrite (h : call.Cleared app key stored owner log) :
    ∀ e ∈ log, eventWrite e = none := by
  intro e he
  have hcall := h.checks e he
  obtain ⟨op, r⟩ := e
  cases hcall <;> rfl

/-- A transfer whose record and event are written moves the asset and adds the event
of the move, or neither. -/
theorem run_trail (app : AppState) (call : TransferCall) (env : Nat → machine.Env) (s : Store)
    (hkeeps : ∀ e ∈ (machine.run (call.handle app) env s).log, trailFailed e = false) :
    Untouched s (machine.run (call.handle app) env s).state ∨
      (AssetRequest.transfer call).Moved app s (machine.run (call.handle app) env s).state := by
  have htrace := machine.run_trace (call.handle app) env s
  have hsteps : ∀ {before after : Log} {e : Event api},
      (machine.run (call.handle app) env s).log = before ++ e :: after →
        call.Steps app before e.op :=
    fun hlog => machine.meets_run_calls (call.transferHandler_steps app) env s hlog
  have houtcome := machine.meets_run_answer (call.transferHandler_steps app) env s
  rw [List.nil_append] at houtcome
  generalize (machine.run (call.handle app) env s).answer = reply at *
  generalize (machine.run (call.handle app) env s).log = log at *
  generalize (machine.run (call.handle app) env s).state = s' at *
  cases houtcome with
  | refused hquiet =>
      refine .inl (untouched_quiet htrace hquiet fun e he => ?_)
      obtain ⟨before, after, rfl⟩ := List.append_of_mem he
      exact (hsteps rfl).eventWrite fun e he => hquiet e (List.mem_append_left _ he)
  | @unrecorded key owner error stored before h =>
      have hfailed := hkeeps (call.recorded key owner (.error error)) (by simp)
      cases hfailed
  | @recorded key owner stored before id r h =>
      cases r with
      | error error =>
          have hfailed := hkeeps (call.audited key stored (.error error)) (by simp)
          cases hfailed
      | ok _ =>
          right
          obtain ⟨t, ht, -⟩ := machine.trace_append.mp htrace
          obtain ⟨hstored, howner⟩ := h.reads ht
          obtain ⟨c, hc, -, hcurrent, -⟩ := Db.custody_of_selectAssetRecord hstored
          obtain ⟨epoch, message, rest, rfl, hpresents, hauthorized⟩ := h.read
          have hcommit := AssetRequest.Commit.transfer h.owns hpresents hauthorized.authorityCall
          obtain ⟨-, hfrom⟩ := hcommit.from ht
          refine ⟨call.custody stored, c, call.eventRow key stored, hfrom, hc,
            ⟨rfl, rfl, congrArg some hcurrent.symm, rfl⟩, fun id => ⟨?_, ?_⟩⟩
          · refine custody_one htrace h.quiet (fun e he => ?_) rfl id
            simp only [List.mem_cons, List.not_mem_nil, or_false] at he
            obtain rfl | rfl := he <;> rfl
          · rw [List.append_cons, List.append_cons] at htrace
            refine eventsOf_one (e := call.audited key stored (.ok ())) htrace (fun e he => ?_)
              (fun e he => absurd he List.not_mem_nil) rfl id
            obtain he | he := List.mem_append.mp he
            · obtain he | he := List.mem_append.mp he
              · exact h.eventWrite e he
              · obtain rfl := List.mem_singleton.mp he
                rfl
            · obtain rfl := List.mem_singleton.mp he
              rfl

end TransferCall

/-- What any request makes of the trail, as long as no write of it fails. -/
theorem AssetRequest.run_trail (app : AppState) (r : AssetRequest) (env : Nat → machine.Env)
    (s : Store)
    (hkeeps : ∀ e ∈ (machine.run (r.handle app) env s).log, trailFailed e = false) :
    Untouched s (machine.run (r.handle app) env s).state ∨
      r.Moved app s (machine.run (r.handle app) env s).state := by
  cases r with
  | write q => exact q.run_trail app env s
  | transfer call => exact call.run_trail app env s hkeeps

end Runs

end RcProtocol
