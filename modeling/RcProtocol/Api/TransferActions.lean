import RcProtocol.Api.Transfers

/-!
The answer of the recipient to a transfer (routes/transfer.rs): a confirmation or a
rejection sets the status of a pending record, once. Neither looks at the asset.
-/

namespace RcProtocol
open Library

structure TransferActionRequest where
  transferId : Uuid
  deriving DecidableEq

def TransferRecord.isPending (record : TransferRecord) : Bool := record.status = "pending"

def fetchTransfer (transferId : Uuid) : Service (Except RcError TransferRecord) :=
  (ask (.selectTransfer transferId)).map (found (.notFound "transfer not found"))

def updateTransferStatus (transferId : Uuid) (targetStatus : String) :
    Service (Except RcError TransferRecord) :=
  ((ask (.updateTransferStatus transferId targetStatus)).map orDatabase).attempt .error fun row =>
  match row with
  | some record => .done (.ok record)
  | none =>
      (fetchTransfer transferId).attempt .error fun existing =>
      if !existing.isPending then .done (.error (.conflict "transfer already processed"))
      else .done (.error (.conflict "transfer status update failed"))

def confirmTransfer (transferId : Uuid) : Service (Except RcError TransferRecord) :=
  updateTransferStatus transferId "confirmed"

def rejectTransfer (transferId : Uuid) : Service (Except RcError TransferRecord) :=
  updateTransferStatus transferId "rejected"

def toTransferDetailResponse (transfer : TransferRecord) : TransferDetailResponse where
  transferId := transfer.transferId
  assetId := transfer.assetId
  fromUserId := transfer.fromUserId
  toUserId := transfer.toUserId
  fromOwnerId := transfer.fromOwnerId
  toOwnerId := transfer.toOwnerId
  transferType := transfer.transferType
  status := transfer.status

/-- The two handlers, but for what they do and what they say to anybody else. -/
def transferActionHandler (act : Uuid → Service (Except RcError TransferRecord))
    (refusal : String) (actor : ActorContext) (payload : TransferActionRequest) : Service Reply :=
  (fetchTransfer payload.transferId).attempt errorResponse fun existing =>
  if actor.actorId ≠ existing.toUserId then .done (errorResponse (.forbidden refusal))
  else
    (act payload.transferId).attempt errorResponse fun transfer =>
    .done (.ok (.transferDetail (toTransferDetailResponse transfer)))

def confirmTransferHandler (actor : ActorContext) (payload : TransferActionRequest) :
    Service Reply :=
  transferActionHandler confirmTransfer "only target owner can confirm transfer" actor payload

def rejectTransferHandler (actor : ActorContext) (payload : TransferActionRequest) :
    Service Reply :=
  transferActionHandler rejectTransfer "only target owner can reject transfer" actor payload

/-- A request to one of the two. -/
structure TransferActionCall where
  actor : ActorContext
  payload : TransferActionRequest

namespace TransferActionCall
variable (targetStatus : String) (call : TransferActionCall)

def fetched (record : TransferRecord) : Event api :=
  ⟨.selectTransfer call.payload.transferId, .ok (some record)⟩

def set (r : Except String (Option TransferRecord)) : Event api :=
  ⟨.updateTransferStatus call.payload.transferId targetStatus, r⟩

inductive Calls : Log → Op → Prop
  | fetch : Calls [] (.selectTransfer call.payload.transferId)
  | set {existing : TransferRecord} (h : call.actor.actorId = existing.toUserId) :
      Calls [call.fetched existing] (.updateTransferStatus call.payload.transferId targetStatus)
  | refetch {existing : TransferRecord} :
      Calls [call.fetched existing, call.set targetStatus (.ok none)]
        (.selectTransfer call.payload.transferId)

/-- It succeeds where the record was the recipient's, and was set. -/
def Answers (log : Log) (reply : Reply) : Prop :=
  reply.status = 200 → ∃ existing record, call.actor.actorId = existing.toUserId ∧
    log = [call.fetched existing, call.set targetStatus (.ok (some record))] ∧
      reply = .ok (.transferDetail (toTransferDetailResponse record))

/-- The record an event has set, as it was written. -/
def statusSet : Event api → Option TransferRecord
  | ⟨.updateTransferStatus _ _, .ok (some record)⟩ => some record
  | _ => none

/-- How a request ends: refused, with no record set, or with the record it has set. -/
inductive Outcome : Log → Reply → Prop
  | refused {log : Log} {err : RcError} (h : ∀ e ∈ log, statusSet e = none) :
      Outcome log (errorResponse err)
  | set {existing record : TransferRecord} (h : call.actor.actorId = existing.toUserId) :
      Outcome [call.fetched existing, call.set targetStatus (.ok (some record))]
        (.ok (.transferDetail (toTransferDetailResponse record)))

variable {targetStatus : String} {call : TransferActionCall}

theorem fetchTransfer_meets {β : Type} {answers : Log → β → Prop} {refuse : RcError → β}
    {next : TransferRecord → Service β} {log : Log}
    (hcall : call.Calls targetStatus log (.selectTransfer call.payload.transferId))
    (hrefuse : ∀ r err, answers (log ++ [⟨.selectTransfer call.payload.transferId, r⟩]) (refuse err))
    (hnext : ∀ record, Meets (call.Calls targetStatus) answers (log ++ [call.fetched record])
      (next record)) :
    Meets (call.Calls targetStatus) answers log
      ((fetchTransfer call.payload.transferId).attempt refuse next) := by
  refine meets_attempt_ask hcall (fun r record hr => ?_) fun r e _ => hrefuse r e
  obtain e | _ | record' := r
  · cases hr
  · cases hr
  · obtain rfl : record' = record := Except.ok.inj hr
    exact hnext record'

/-- A status that is returned was set by the one statement. -/
theorem updateTransferStatus_meets {existing : TransferRecord}
    (h : call.actor.actorId = existing.toUserId) :
    Meets (call.Calls targetStatus)
      (fun log (r : Except RcError TransferRecord) =>
        match r with
        | .ok record => log = [call.fetched existing, call.set targetStatus (.ok (some record))]
        | .error _ => ∀ e ∈ log, statusSet e = none)
      [call.fetched existing] (updateTransferStatus call.payload.transferId targetStatus) := by
  refine meets_attempt_ask (.set h) (fun r row hr => ?_) fun r err hr => ?_
  · obtain e | row' := r
    · cases hr
    obtain rfl : row' = row := Except.ok.inj hr
    cases row' with
    | some record => exact rfl
    | none =>
        refine fetchTransfer_meets .refetch (fun r err => ?_) fun record => ?_
        · simp [fetched, statusSet]
        · split <;> simp [fetched, statusSet]
  · cases r with
    | ok row => cases hr
    | error e => simp [fetched, statusSet]

theorem transferActionHandler_outcome {act : Uuid → Service (Except RcError TransferRecord)}
    (hact : ∀ id, act id = updateTransferStatus id targetStatus) (refusal : String) :
    Meets (call.Calls targetStatus) (call.Outcome targetStatus) []
      (transferActionHandler act refusal call.actor call.payload) := by
  refine fetchTransfer_meets .fetch (fun r err => .refused ?_) fun existing => ?_
  · simp [statusSet]
  split
  · exact .refused (by simp [fetched, statusSet])
  next hrecipient =>
  have h : call.actor.actorId = existing.toUserId := not_not.mp hrecipient
  rw [hact, meets_attempt]
  refine (updateTransferStatus_meets h).mono (fun _ _ hcall => hcall) fun log r hanswer => ?_
  cases r with
  | error e => exact .refused hanswer
  | ok record =>
      dsimp only at hanswer
      rw [hanswer]
      exact .set h

theorem transferActionHandler_meets {act : Uuid → Service (Except RcError TransferRecord)}
    (hact : ∀ id, act id = updateTransferStatus id targetStatus) (refusal : String) :
    Meets (call.Calls targetStatus) (call.Answers targetStatus) []
      (transferActionHandler act refusal call.actor call.payload) := by
  refine (transferActionHandler_outcome hact refusal).mono (fun _ _ h => h) ?_
  intro log reply h hstatus
  cases h with
  | refused => exact absurd hstatus (errorResponse_status _)
  | set h => exact ⟨_, _, h, rfl, rfl⟩

theorem reject_meets (call : TransferActionCall) :
    Meets (call.Calls "rejected") (call.Answers "rejected") []
      (rejectTransferHandler call.actor call.payload) :=
  transferActionHandler_meets (fun _ => rfl) _

/-- Whatever the recipient answers, the asset stays as it is. -/
theorem Calls.quiet {log : Log} {e : Event api} (h : call.Calls targetStatus log e.op) :
    custodyWrite e = none := by
  obtain ⟨op, r⟩ := e
  cases h <;> rfl

end TransferActionCall

end RcProtocol
