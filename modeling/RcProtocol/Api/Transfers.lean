import RcProtocol.Api.TransferSpec

/-!
The records of transfers, in the order they were written. Only the transfer route
adds one, and only the confirm and reject routes set the status of one.
-/

namespace RcProtocol
open Library

/-- The records of an asset, oldest first. -/
def Db.transfersOf (db : Db) (assetId : String) : List TransferRow :=
  db.transfers.rows.filter fun r => r.assetId = assetId

def writesTransfers : Event api → Bool
  | ⟨.insertTransfer _, .ok _⟩ | ⟨.updateTransferStatus _ _, .ok _⟩ => true
  | _ => false

section Changes
variable {db db' : Db}

theorem Changes.transfers_eq {e : Event api} (h : Changes e db db')
    (hw : writesTransfers e = false) : db'.transfers = db.transfers := by
  cases h with
  | insertTransfer | updateTransferStatus => cases hw
  | _ => rfl

/-- A new record is the last of its asset, under an id no record had. -/
theorem Changes.transfers_insert {row : Uuid → TransferRow} {answer : Uuid}
    (h : Changes ⟨.insertTransfer row, .ok answer⟩ db db') :
    ∃ id transfers, answer = (row id).transferId ∧
      db.transfers.insert (row id) = some transfers ∧ db' = { db with transfers := transfers } := by
  cases h with
  | read h => cases h
  | insertTransfer h hanswer => exact ⟨_, _, hanswer, h, rfl⟩

theorem Changes.updateTransferStatus_answer {transferId : Uuid} {targetStatus : String}
    {answer : Option TransferRecord}
    (h : Changes ⟨.updateTransferStatus transferId targetStatus, .ok answer⟩ db db') :
    (db.updateTransferStatus transferId targetStatus).1 = answer := by
  cases h with
  | read h => cases h
  | updateTransferStatus => rfl

/-- A trace without a new record and without a new status leaves the records alone. -/
theorem trace_transfers {s s' : Store} {log : Log} (h : machine.Trace s log s')
    (hlog : ∀ e ∈ log, writesTransfers e = false) : s'.db.transfers = s.db.transfers := by
  refine h.invariant (I := fun t => t.db.transfers = s.db.transfers) rfl ?_
  intro env op t he ht
  exact ((machine_changes env op t).transfers_eq (hlog _ he)).trans ht

theorem transfersOf_insert {transfers : Table TransferRow} {row : TransferRow}
    (h : db.transfers.insert row = some transfers) (assetId : String) :
    ({ db with transfers := transfers } : Db).transfersOf assetId =
      if row.assetId = assetId then db.transfersOf assetId ++ [row] else db.transfersOf assetId := by
  simp [Db.transfersOf, Table.rows_filter_insert h]

end Changes

namespace TransferCall
variable {app : AppState} {call : TransferCall} {key owner : String} {stored : AssetRecord}
    {log : Log}

theorem Cleared.writesTransfers (h : call.Cleared app key stored owner log) :
    ∀ e ∈ log, writesTransfers e = false := by
  intro e he
  have hcall := h.checks e he
  obtain ⟨op, r⟩ := e
  cases hcall <;> rfl

/-- How a transfer that succeeds has run. -/
theorem run_recorded (app : AppState) (call : TransferCall) (env : Nat → machine.Env) (s : Store)
    (h : (machine.run (call.handle app) env s).answer.status = 200) :
    ∃ key owner stored log id r, call.Cleared app key stored owner log ∧
      (machine.run (call.handle app) env s).log = log ++ [call.updated stored (.ok ()),
        call.recorded key owner (.ok id), call.audited key stored r] ∧
      (machine.run (call.handle app) env s).answer = .ok (.transfer (call.response owner id)) := by
  have houtcome := machine.meets_run_answer (call.transferHandler_steps app) env s
  rw [List.nil_append] at houtcome
  generalize (machine.run (call.handle app) env s).answer = reply at *
  generalize (machine.run (call.handle app) env s).log = log at *
  cases houtcome with
  | refused _ => exact absurd h (errorResponse_status _)
  | unrecorded _ => exact absurd h (errorResponse_status _)
  | recorded hcleared => exact ⟨_, _, _, _, _, _, hcleared, rfl, rfl⟩

/-- The record of a transfer stands in the table once it has been written. -/
theorem recorded_row {s s' : Store} {id : Uuid} {r : Except String Unit}
    (h : machine.Trace s (log ++ [call.updated stored (.ok ()), call.recorded key owner (.ok id),
      call.audited key stored r]) s') :
    s'.db.transfers.find (·.transferId = id) = some (call.row key owner id) := by
  rw [List.append_cons] at h
  obtain ⟨t, env, -, hanswer, h⟩ := machine.trace_split h
  have hchanges := machine_changes env (call.recorded key owner (.ok id)).op t
  rw [hanswer] at hchanges
  obtain ⟨id', transfers, hid, hinsert, hdb⟩ := hchanges.transfers_insert
  obtain rfl : id = id' := hid
  have hkept : s'.db.transfers = transfers := by
    rw [trace_transfers h fun e he => ?_, hdb]
    obtain rfl := List.mem_singleton.mp he
    rfl
  rw [hkept]
  refine Table.find_eq_some ((Table.mem_insert hinsert).mpr (.inr rfl)) (by simp [row]) ?_
  intro a _ ha
  exact of_decide_eq_true ha

end TransferCall

end RcProtocol
