import RcProtocol.Workorders.Handler

/-!
What a request about a workorder may call after the answers it has had, and which
replies stand for which updates.
-/

namespace RcProtocol.Workorders
open Library

/-- The protocol action a conclusion names. -/
def ConclusionType.action : ConclusionType → Option String
  | .freeze => some "freeze"
  | .recover => some "recover"
  | .markTampered => some "mark-tampered"
  | .markCompromised => some "mark-compromised"
  | .dismiss => none

/-- The request an action is asked for with. -/
def actionRequest (client : RcApiClient) (r : Request) (assetID action : String) :
    OutgoingRequest :=
  RcApiClient.callRequest "POST" (client.assetURL assetID action) (r.header.get "Authorization")
    (r.header.get "X-Trace-Id") ""

abbrev Log := List (Event interface)

/-- The workorder was read and may be advanced. -/
def readLog (r : Request) (wo : Workorder) : Log := [⟨.getByID r.workorderID, .ok (some wo)⟩]

section
variable (client : RcApiClient) (r : Request)

/-- The conclusion after these calls, with the result of its own call if it has one. -/
inductive Concluded (wo : Workorder) : ConclusionType → Log → Option ExecuteResult → Prop
  | dismissed {t : ConclusionType} (ht : t.action = none) : Concluded wo t (readLog r wo) none
  | unsent {t : ConclusionType} {action : String} (ht : t.action = some action) :
      Concluded wo t (readLog r wo) (some ⟨false, errorJSON "invalid asset_id" 0⟩)
  | sent {t : ConclusionType} {action assetID : String} (ht : t.action = some action)
      (hasset : wo.assetID = some assetID) (outcome : HttpOutcome) :
      Concluded wo t
        (readLog r wo ++ [⟨.send (actionRequest client r assetID action), outcome⟩])
        (some (.of outcome))

def concludedStatus (result : Option ExecuteResult) : Status :=
  if result.all (·.success) then .resolved else .inProgress

inductive Issues : Command → Log → Update → Prop
  | assign (body : AssignBody) :
      Issues (.assign (some body)) []
        (.assign [.opened, .assigned] body.assigneeID body.assigneeRole)
  | advance {wo : Workorder} {req : AdvanceBody} {t : ConclusionType} {log : Log}
      {result : Option ExecuteResult} (h : Concluded client r wo t log result) :
      Issues (.advance (some req)) log
        (.advance (concludedStatus result) req.conclusion t none (result.map (·.body)))
  | close : Issues .close [] (.status .resolved .closed)
  | cancelOpened : Issues .cancel [] (.status .opened .cancelled)
  | cancelAssigned :
      Issues .cancel [⟨.update r.workorderID (.status .opened .cancelled), .ok false⟩]
        (.status .assigned .cancelled)

inductive Calls : Command → Log → Op → Prop
  | getByID (cmd : Command) (log : Log) : Calls cmd log (.getByID r.workorderID)
  | update {cmd : Command} {log : Log} {u : Update} (h : Issues client r cmd log u) :
      Calls cmd log (.update r.workorderID u)
  | send {wo : Workorder} {req : AdvanceBody} {t : ConclusionType} {action assetID : String}
      (ht : t.action = some action) (hasset : wo.assetID = some assetID) :
      Calls (.advance (some req)) (readLog r wo) (.send (actionRequest client r assetID action))

/-- After a call to rc-api there is an update. -/
def Recorded (log : Log) : Prop :=
  ∀ request outcome, ⟨.send request, outcome⟩ ∈ log → ∃ text u answer, ⟨.update text u, answer⟩ ∈ log

/-- A success stands for an update that affected the workorder, a conflict for
updates none of which did. -/
structure Answers (cmd : Command) (log : Log) (reply : Reply) : Prop where
  success : reply.statusCode = 200 → ∃ u, ⟨.update r.workorderID u, .ok true⟩ ∈ log
  conflict : reply.statusCode = 409 →
    ∀ id u answer, ⟨.update id u, answer⟩ ∈ log → answer = .ok false
  cancel : reply.statusCode = 409 → cmd = .cancel →
    log = [⟨.update r.workorderID (.status .opened .cancelled), .ok false⟩,
      ⟨.update r.workorderID (.status .assigned .cancelled), .ok false⟩]
  recorded : Recorded log

end

section Handlers
variable {client : RcApiClient} {r : Request} {cmd : Command} {log : Log} {reply : Reply}
  {calls : Log → Op → Prop} {answers : Log → Reply → Prop}

theorem recorded_nil : Recorded [] := fun _ _ h => absurd h List.not_mem_nil

theorem recorded_getByID {text : String} {answer : (Op.getByID text).Answer} :
    Recorded [⟨.getByID text, answer⟩] := by
  intro request outcome h
  cases List.mem_singleton.mp h

theorem recorded_update {text : String} {u : Update} {answer : (Op.update text u).Answer}
    (h : ⟨.update text u, answer⟩ ∈ log) : Recorded log :=
  fun _ _ _ => ⟨text, u, answer, h⟩

theorem recorded_concat {text : String} {u : Update} {answer : (Op.update text u).Answer} :
    Recorded (log ++ [⟨.update text u, answer⟩]) :=
  recorded_update (List.mem_append_right _ (.head _))

/-- A reply that is neither a success nor a conflict stands for nothing. -/
theorem answers_error {statusCode : Nat} {code message : String} (hlog : Recorded log)
    (h : statusCode ≠ 200 ∧ statusCode ≠ 409) :
    Answers r cmd log (.error statusCode code message) where
  recorded := hlog
  success h' := absurd h' h.1
  conflict h' := absurd h' h.2
  cancel h' := absurd h' h.2

theorem Calls.issues {text : String} {u : Update} (h : Calls client r cmd log (.update text u)) :
    text = r.workorderID ∧ Issues client r cmd log u := by
  cases h with
  | update h => exact ⟨rfl, h⟩

theorem Calls.actionRequest {request : OutgoingRequest}
    (h : Calls client r cmd log (.send request)) :
    ∃ assetID action, request = Workorders.actionRequest client r assetID action := by
  cases h with
  | send _ _ => exact ⟨_, _, rfl⟩

/-- No update comes before a call to rc-api. -/
theorem Calls.not_updated {request : OutgoingRequest} {text : String} {u : Update}
    {answer : (Op.update text u).Answer} (h : Calls client r cmd log (.send request)) :
    (⟨.update text u, answer⟩ : Event interface) ∉ log := by
  cases h with
  | send _ _ =>
      intro hmem
      cases List.mem_singleton.mp hmem

theorem answers_success {u : Update} (hreply : reply.statusCode = 200)
    (hu : ⟨.update r.workorderID u, .ok true⟩ ∈ log) : Answers r cmd log reply where
  recorded := recorded_update hu
  success _ := ⟨u, hu⟩
  conflict h := absurd (h.symm.trans hreply) (by decide)
  cancel h := absurd (h.symm.trans hreply) (by decide)

theorem meets_ask {op : Op} {answers : Log → op.Answer → Prop} :
    Meets calls answers log (ask op) ↔
      calls log op ∧ ∀ answer, answers (log ++ [⟨op, answer⟩]) answer := Iff.rfl

theorem meets_updateOr {u : Update} {failed : String} {conflict next : Program interface Reply} :
    Meets calls answers log (updateOr r u failed conflict next) ↔
      calls log (.update r.workorderID u) ∧
        (∀ e, answers (log ++ [⟨.update r.workorderID u, .error e⟩]) (internalError failed)) ∧
          Meets calls answers (log ++ [⟨.update r.workorderID u, .ok false⟩]) conflict ∧
            Meets calls answers (log ++ [⟨.update r.workorderID u, .ok true⟩]) next := by
  rw [updateOr, meets_bind, meets_ask]
  constructor
  · intro h
    exact ⟨h.1, fun e => h.2 (.error e), h.2 (.ok false), h.2 (.ok true)⟩
  · intro ⟨hcall, herror, hconflict, hnext⟩
    refine ⟨hcall, fun answer => ?_⟩
    match answer with
    | .error e => exact herror e
    | .ok false => exact hconflict
    | .ok true => exact hnext

theorem meets_showWorkorder (hcall : calls log (.getByID r.workorderID))
    (h : ∀ answer reply, reply.statusCode = 200 →
      answers (log ++ [⟨.getByID r.workorderID, answer⟩]) reply) :
    Meets calls answers log (showWorkorder r) := by
  rw [showWorkorder, meets_map, meets_ask]
  refine ⟨hcall, fun answer => ?_⟩
  cases answer with
  | error e => exact h _ _ rfl
  | ok w => exact h _ _ rfl

/-- The update that is the last a request issues: a conflict is where no update affected a row. -/
theorem meets_lastUpdate {u : Update} {failed message : String} (hcall : Issues client r cmd log u)
    (hcmd : cmd = .cancel → u = .status .assigned .cancelled ∧
      log = [⟨.update r.workorderID (.status .opened .cancelled), .ok false⟩])
    (hlog : ∀ id u answer, ⟨.update id u, answer⟩ ∈ log → answer = .ok false) :
    Meets (Calls client r cmd) (Answers r cmd) log
      (updateOr r u failed (.done (statusConflict message)) (showWorkorder r)) := by
  apply meets_updateOr.mpr
  refine ⟨.update hcall, fun e => answers_error recorded_concat (by decide), ?_, ?_⟩
  · refine ⟨?_, ?_, ?_, recorded_concat⟩
    · exact fun h => absurd (show 409 = 200 from h) (by decide)
    · intro _ id u' answer he
      obtain he | he := List.mem_append.mp he
      · exact hlog id u' answer he
      · cases List.mem_singleton.mp he
        rfl
    · intro _ h
      obtain ⟨rfl, rfl⟩ := hcmd h
      rfl
  · apply meets_showWorkorder (.getByID cmd _)
    intro answer reply hreply
    exact answers_success hreply (List.mem_append_left _ (List.mem_append_right _ (.head _)))

theorem meets_assign (body : Option AssignBody) :
    Meets (Calls client r (.assign body)) (Answers r (.assign body)) [] (assign r body) := by
  dsimp only [assign]
  split
  · exact answers_error recorded_nil (by decide)
  split
  · exact answers_error recorded_nil (by decide)
  cases body with
  | none => exact answers_error recorded_nil (by decide)
  | some req =>
      dsimp only
      split
      · exact answers_error recorded_nil (by decide)
      apply meets_updateOr.mpr
      refine ⟨.update (.assign req), fun e => answers_error recorded_concat (by decide), ?_, ?_⟩
      · refine ⟨?_, ?_, ?_, recorded_concat⟩
        · exact fun h => absurd (show 409 = 200 from h) (by decide)
        · intro _ id u answer he
          cases List.mem_singleton.mp he
          rfl
        · exact fun _ h => by cases h
      · rw [meets_map]
        apply meets_ask.mpr
        refine ⟨.getByID _ _, fun answer => ?_⟩
        match answer with
        | .error e => exact answers_error (recorded_update (.head _)) (by decide)
        | .ok none => exact answers_error (recorded_update (.head _)) (by decide)
        | .ok (some w) => exact answers_success rfl (.head _)

theorem meets_close : Meets (Calls client r .close) (Answers r .close) [] (close r) := by
  dsimp only [close]
  split
  · exact answers_error recorded_nil (by decide)
  split
  · exact answers_error recorded_nil (by decide)
  exact meets_lastUpdate .close (fun h => by cases h) fun _ _ _ h => absurd h List.not_mem_nil

theorem meets_cancel : Meets (Calls client r .cancel) (Answers r .cancel) [] (cancel r) := by
  dsimp only [cancel]
  split
  · exact answers_error recorded_nil (by decide)
  split
  · exact answers_error recorded_nil (by decide)
  apply meets_updateOr.mpr
  refine ⟨.update .cancelOpened, fun e => answers_error recorded_concat (by decide), ?_, ?_⟩
  · apply meets_lastUpdate .cancelAssigned fun _ => ⟨rfl, rfl⟩
    intro id u answer he
    cases List.mem_singleton.mp he
    rfl
  · apply meets_showWorkorder (.getByID _ _)
    intro answer reply hreply
    exact answers_success hreply (.head _)

theorem action_of_conclusionCall {t : ConclusionType} {assetID authHeader traceID : String}
    {call : Program interface ExecuteResult}
    (h : conclusionCall client assetID authHeader traceID t = some call) :
    ∃ action, t.action = some action ∧
      call = client.assetCall action assetID authHeader traceID "" := by
  cases t with
  | dismiss => cases h
  | freeze => exact ⟨_, rfl, (Option.some.inj h).symm⟩
  | recover => exact ⟨_, rfl, (Option.some.inj h).symm⟩
  | markTampered => exact ⟨_, rfl, (Option.some.inj h).symm⟩
  | markCompromised => exact ⟨_, rfl, (Option.some.inj h).symm⟩

theorem action_of_no_call {t : ConclusionType} {assetID authHeader traceID : String}
    (h : conclusionCall client assetID authHeader traceID t = none) : t.action = none := by
  cases t <;> first | rfl | cases h

theorem meets_conclude {wo : Workorder} {req : AdvanceBody} {t : ConclusionType}
    {result : Option ExecuteResult} (h : Concluded client r wo t log result) :
    Meets (Calls client r (.advance (some req))) (Answers r (.advance (some req))) log
      (conclude r req t result) := by
  apply meets_lastUpdate (.advance h) fun h => by cases h
  intro id u answer he
  cases h <;> simp [readLog] at he

theorem meets_advanceRead (wo : Workorder) (req : AdvanceBody) (t : ConclusionType) :
    Meets (Calls client r (.advance (some req))) (Answers r (.advance (some req))) (readLog r wo)
      (advanceRead client r wo req t) := by
  dsimp only [advanceRead]
  split
  · next hcall => exact meets_conclude (.dismissed (action_of_no_call hcall))
  · next call hcall =>
    obtain ⟨action, ht, rfl⟩ := action_of_conclusionCall hcall
    split
    · exact answers_error recorded_getByID (by decide)
    · next hne =>
      obtain ⟨assetID, hasset⟩ : ∃ assetID, wo.assetID = some assetID := by
        cases hnone : wo.assetID with
        | none => exact absurd (by rw [hnone]; rfl) hne
        | some assetID => exact ⟨assetID, rfl⟩
      rw [meets_bind, hasset, Option.getD_some, RcApiClient.assetCall]
      split
      · rw [RcApiClient.call, meets_map]
        apply meets_ask.mpr
        refine ⟨.send ht hasset, fun outcome => ?_⟩
        exact meets_conclude (.sent ht hasset outcome)
      · exact meets_conclude (.unsent ht)

theorem meets_advance (body : Option AdvanceBody) :
    Meets (Calls client r (.advance body)) (Answers r (.advance body)) [] (advance client r body) := by
  dsimp only [advance]
  split
  · exact answers_error recorded_nil (by decide)
  rw [meets_bind]
  apply meets_ask.mpr
  refine ⟨.getByID _ _, fun answer => ?_⟩
  match answer with
  | .error e => exact answers_error recorded_getByID (by decide)
  | .ok none => exact answers_error recorded_getByID (by decide)
  | .ok (some wo) =>
      dsimp only
      split
      · exact answers_error recorded_getByID (by decide)
      split
      · refine ⟨?_, ?_, ?_, recorded_getByID⟩
        · exact fun h => absurd (show 409 = 200 from h) (by decide)
        · intro _ id u answer he
          cases List.mem_singleton.mp he
        · exact fun _ h => by cases h
      cases body with
      | none => exact answers_error recorded_getByID (by decide)
      | some req =>
          dsimp only
          split
          · exact answers_error recorded_getByID (by decide)
          split
          · exact answers_error recorded_getByID (by decide)
          · next t ht => exact meets_advanceRead wo req t

theorem meets_handle (client : RcApiClient) (r : Request) (cmd : Command) :
    Meets (Calls client r cmd) (Answers r cmd) [] (handle client r cmd) := by
  cases cmd with
  | assign body => exact meets_assign body
  | advance body => exact meets_advance body
  | close => exact meets_close
  | cancel => exact meets_cancel

end Handlers

end RcProtocol.Workorders
