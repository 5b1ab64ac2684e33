import RcProtocol.Api.Counter
import RcProtocol.Api.TransferSpec

/-!
A transfer that runs alone: the rows its checks read are those of the state it
starts from, and it writes no counter.
-/

namespace RcProtocol
open Library

namespace TransferCall
variable {app : AppState} {call : TransferCall} {s s' : Store} {log : Log}

/-- The child tag of the request authenticates, in a state, under the brand of the
asset and the epoch of the tag. -/
def Authentic (app : AppState) (call : TransferCall) (db : Db) (message : SunMessage) : Prop :=
  ∃ stored epoch, db.selectAssetRecord call.assetId = some stored ∧
    db.selectEpochByUid call.payload.childUid = some epoch ∧
      call.Presents app stored epoch message

theorem run_transferred (app : AppState) (call : TransferCall) (env : Nat → machine.Env)
    (s : Store) (h : (machine.run (call.handle app) env s).answer.status = 200) :
    ∃ stored owner epoch message, s.db.selectAssetRecord call.assetId = some stored ∧
      s.db.selectOwner call.assetId = some (some owner) ∧
      s.db.selectEpochByUid call.payload.childUid = some epoch ∧
      call.Owns stored owner ∧ call.Presents app stored epoch message := by
  have hanswer := machine.meets_run_answer (call.transferHandler_meets app) env s
  rw [List.nil_append] at hanswer
  obtain ⟨current, previous, newOwner, hmem⟩ := hanswer h
  obtain ⟨before, after, hlog⟩ := List.append_of_mem hmem
  have hcall := machine.meets_run_calls (call.transferHandler_meets app) env s hlog
  have htrace := machine.run_trace (call.handle app) env s
  rw [hlog] at htrace
  rw [List.nil_append] at hcall
  cases hcall with
  | authority _ _ hop => cases hop
  | update howns hpresents _ =>
      rw [List.append_assoc] at htrace
      obtain ⟨hstored, howner, hepoch⟩ := trace_checked htrace
      exact ⟨_, _, _, _, hstored, howner, hepoch, howns, hpresents⟩

theorem run_storedCtr (app : AppState) (call : TransferCall) (env : Nat → machine.Env) (s : Store)
    (id : String) :
    (machine.run (call.handle app) env s).state.db.storedCtr id = s.db.storedCtr id := by
  refine counterView.get_trace (machine.run_trace (call.handle app) env s) (fun e he => ?_) id
  obtain ⟨before, after, hlog⟩ := List.append_of_mem he
  have hcall := machine.meets_run_calls (call.transferHandler_meets app) env s hlog
  obtain ⟨op, r⟩ := e
  cases hcall with
  | authority _ _ hop => cases hop <;> rfl
  | _ => rfl

end TransferCall

end RcProtocol
