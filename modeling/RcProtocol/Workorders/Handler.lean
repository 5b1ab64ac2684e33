import RcProtocol.Workorders.Repo

/-!
The handlers of go-workorder that change a workorder (handler/workorder.go), and the
client they call rc-api with (downstream/rcapi.go).
-/

namespace RcProtocol.Workorders
open Library

structure ExecuteResult where
  success : Bool
  body : RawMessage

def errorJSON (msg : String) (statusCode : Nat) : RawMessage :=
  let value := Json.obj [("error", .str msg), ("upstream_status", .num statusCode)]
  ⟨value.render, some value⟩

def isValidID (id : String) : Bool :=
  id ≠ "" && id.toList.all fun c => c.isAlphanum || c = '-' || c = '_'

/-- What a call came to. -/
def ExecuteResult.of : HttpOutcome → ExecuteResult
  | .notCreated => ⟨false, errorJSON "create request failed" 0⟩
  | .unavailable => ⟨false, errorJSON "backend service unavailable" 0⟩
  | .answered statusCode body =>
      if 200 ≤ statusCode && statusCode < 300 then ⟨true, body⟩
      else ⟨false, errorJSON body.text statusCode⟩

structure RcApiClient where
  baseURL : String

namespace RcApiClient
variable (c : RcApiClient)

/-- The headers a call carries: those of its arguments that are not empty. -/
def callHeader (authHeader traceID approvalID : String) : Header :=
  let h : Header := {}
  let h := if authHeader ≠ "" then h.set "Authorization" authHeader else h
  let h := if traceID ≠ "" then h.set "X-Trace-Id" traceID else h
  if approvalID ≠ "" then h.set "X-Approval-Id" approvalID else h

def callRequest (method url authHeader traceID approvalID : String) : OutgoingRequest where
  method := method
  url := url
  header := callHeader authHeader traceID approvalID

def call (method url authHeader traceID approvalID : String) : Program interface ExecuteResult :=
  (ask (.send (callRequest method url authHeader traceID approvalID))).map ExecuteResult.of

def assetURL (assetID action : String) : String :=
  c.baseURL ++ "/assets/" ++ assetID ++ "/" ++ action

/-- A call about an asset. An id that is no path segment is not sent. -/
def assetCall (action assetID authHeader traceID approvalID : String) :
    Program interface ExecuteResult :=
  if isValidID assetID then
    call "POST" (c.assetURL assetID action) authHeader traceID approvalID
  else .done ⟨false, errorJSON "invalid asset_id" 0⟩

def freeze (assetID authHeader traceID : String) : Program interface ExecuteResult :=
  c.assetCall "freeze" assetID authHeader traceID ""

def markTampered (assetID authHeader traceID : String) : Program interface ExecuteResult :=
  c.assetCall "mark-tampered" assetID authHeader traceID ""

def markCompromised (assetID authHeader traceID : String) : Program interface ExecuteResult :=
  c.assetCall "mark-compromised" assetID authHeader traceID ""

def recover (assetID authHeader traceID approvalID : String) : Program interface ExecuteResult :=
  c.assetCall "recover" assetID authHeader traceID approvalID

end RcApiClient

/-- The identity of the caller, from the headers the gateway sets. -/
structure Claims where
  sub : String
  role : String
  orgID : String

def Claims.fromRequest (header : Header) : Claims :=
  ⟨header.get "X-Claims-Sub", header.get "X-Claims-Role", header.get "X-Claims-Org-Id"⟩

def Claims.valid (c : Claims) : Bool :=
  c.sub ≠ "" && c.role ≠ "" && c.orgID ≠ "" &&
    ["Platform", "Brand", "Factory", "Consumer", "Moderator"].contains c.role

def managerRoles : List String := ["Platform", "Moderator"]

def advancableStatuses : List Status := [.assigned, .inProgress]

/-- `blank` shows the workorder that a read leaves behind when it fails. -/
inductive Reply where
  | workorder (w : Option Workorder)
  | blank
  | error (statusCode : Nat) (code message : String)

def Reply.statusCode : Reply → Nat
  | .workorder _ | .blank => 200
  | .error statusCode _ _ => statusCode

structure AssignBody where
  assigneeID : String := ""
  assigneeRole : String := ""

structure AdvanceBody where
  conclusion : String := ""
  conclusionType : String := ""

/-- A request about one workorder; a body that does not decode is none. -/
structure Request where
  header : Header
  workorderID : String

inductive Command where
  | assign (body : Option AssignBody)
  | advance (body : Option AdvanceBody)
  | close
  | cancel

def authRequired : Reply := .error 401 "AUTH_REQUIRED" "missing claims headers"
def forbidden (message : String) : Reply := .error 403 "FORBIDDEN" message
def invalidInput (message : String) : Reply := .error 400 "INVALID_INPUT" message
def internalError (message : String) : Reply := .error 500 "INTERNAL_ERROR" message
def statusConflict (message : String) : Reply := .error 409 "STATUS_CONFLICT" message

section Handlers
variable (client : RcApiClient) (r : Request)

/-- Run an update and go on by its outcome. -/
def updateOr (u : Update) (failed : String) (conflict next : Program interface Reply) :
    Program interface Reply :=
  (ask (.update r.workorderID u)).bind fun
    | .error _ => .done (internalError failed)
    | .ok false => conflict
    | .ok true => next

/-- The workorder as it is now; whether it could be read is not asked. -/
def showWorkorder : Program interface Reply :=
  (ask (.getByID r.workorderID)).map fun
    | .error _ => .blank
    | .ok w => .workorder w

def assign (body : Option AssignBody) : Program interface Reply :=
  let c := Claims.fromRequest r.header
  if !c.valid then .done authRequired
  else if c.role ∉ managerRoles then .done (forbidden "only Platform/Moderator can assign")
  else
    match body with
    | none => .done (invalidInput "invalid request body")
    | some req =>
        if req.assigneeID = "" ∨ req.assigneeRole = "" then
          .done (invalidInput "assignee_id and assignee_role are required")
        else
          updateOr r (.assign [.opened, .assigned] req.assigneeID req.assigneeRole)
            "assign workorder failed"
            (.done (statusConflict "workorder not found or status does not allow assign"))
            ((ask (.getByID r.workorderID)).map fun
              | .ok (some w) => .workorder (some w)
              | _ => internalError "fetch workorder after assign failed")

/-- The call a conclusion asks for. -/
def conclusionCall (assetID authHeader traceID : String) :
    ConclusionType → Option (Program interface ExecuteResult)
  | .freeze => some (client.freeze assetID authHeader traceID)
  | .recover => some (client.recover assetID authHeader traceID "")
  | .markTampered => some (client.markTampered assetID authHeader traceID)
  | .markCompromised => some (client.markCompromised assetID authHeader traceID)
  | .dismiss => none

/-- Record the conclusion, with the result of its call if it has one. -/
def conclude (req : AdvanceBody) (t : ConclusionType) (result : Option ExecuteResult) :
    Program interface Reply :=
  let newStatus := if result.all (·.success) then .resolved else .inProgress
  updateOr r (.advance newStatus req.conclusion t none (result.map (·.body)))
    "advance workorder failed"
    (.done (statusConflict "advance failed, status may have changed")) (showWorkorder r)

/-- The conclusion of a workorder that was read: rc-api is called before it is recorded. -/
def advanceRead (wo : Workorder) (req : AdvanceBody) (t : ConclusionType) :
    Program interface Reply :=
  let assetID := wo.assetID.getD ""
  match conclusionCall client assetID (r.header.get "Authorization") (r.header.get "X-Trace-Id") t with
  | none => conclude r req t none
  | some call =>
      if assetID = "" then .done (invalidInput ("asset_id is required for " ++ t.name))
      else call.bind fun result => conclude r req t (some result)

def advance (body : Option AdvanceBody) : Program interface Reply :=
  let c := Claims.fromRequest r.header
  if !c.valid then .done authRequired
  else
    (ask (.getByID r.workorderID)).bind fun
      | .error _ => .done (internalError "query workorder failed")
      | .ok none => .done (.error 404 "NOT_FOUND" "workorder not found")
      | .ok (some wo) =>
          if ¬(wo.assigneeID.map Uuid.display = some c.sub) ∧ c.role ≠ "Platform" then
            .done (forbidden "only assignee or Platform can advance")
          else if wo.status ∉ advancableStatuses then
            .done (statusConflict "workorder status does not allow advance")
          else
            match body with
            | none => .done (invalidInput "invalid request body")
            | some req =>
                if req.conclusion = "" ∨ req.conclusionType = "" then
                  .done (invalidInput "conclusion and conclusion_type are required")
                else
                  match ConclusionType.ofName? req.conclusionType with
                  | none => .done (invalidInput "invalid conclusion_type")
                  | some t => advanceRead client r wo req t

def close : Program interface Reply :=
  let c := Claims.fromRequest r.header
  if !c.valid then .done authRequired
  else if c.role ∉ managerRoles then .done (forbidden "only Platform/Moderator can close")
  else
    updateOr r (.status .resolved .closed) "close workorder failed"
      (.done (statusConflict "workorder not found or not in resolved status")) (showWorkorder r)

/-- Two updates in a row: the second is tried where the first matched no row. -/
def cancel : Program interface Reply :=
  let c := Claims.fromRequest r.header
  if !c.valid then .done authRequired
  else if c.role ∉ managerRoles then .done (forbidden "only Platform/Moderator can cancel")
  else
    updateOr r (.status .opened .cancelled) "cancel workorder failed"
      (updateOr r (.status .assigned .cancelled) "cancel workorder failed"
        (.done (statusConflict "workorder not found or status does not allow cancel"))
        (showWorkorder r))
      (showWorkorder r)

def handle : Command → Program interface Reply
  | .assign body => assign r body
  | .advance body => advance client r body
  | .close => close r
  | .cancel => cancel r

end Handlers

end RcProtocol.Workorders
