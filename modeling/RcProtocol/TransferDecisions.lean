import RcProtocol.Api.Effects
import RcProtocol.Api.TransferActions
import RcProtocol.Library.Interleaving
import RcProtocol.Library.Json
import RcProtocol.PendingTransfers

/-!
Confirmations and rejections of one transfer, any number of them at once. Each looks who
the recipient is and then updates the status if it is still pending; only the update
decides. The status is a member of the column `metadata`, and pending where it is missing.
-/

namespace RcProtocol
open Library

namespace TransferMetadata

def setMember (name : String) (value : Json) (members : List (String × Json)) :
    List (String × Json) :=
  members.filter (·.1 ≠ name) ++ [(name, value)]

/-- `COALESCE(metadata->>'status', 'pending')`. -/
def status : Option Json → String
  | some (.obj members) =>
      match members.find? (·.1 = "status") with
      | some (_, .str s) => s
      | some (_, .null) | none => "pending"
      | some (_, value) => value.render
  | _ => "pending"

/-- `jsonb_set` of the status, which takes an object or no metadata at all. -/
def setStatus (targetStatus : String) : Option Json → Except String Json
  | none => .ok (.obj [("status", .str targetStatus)])
  | some (.obj members) => .ok (.obj (setMember "status" (.str targetStatus) members))
  | some (.arr _) => .error "path element at position 1 is not an integer: \"status\""
  | some _ => .error "cannot set path in scalar"

/-- The update of one row, if it matches. -/
def update (targetStatus : String) (metadata : Option Json) : Except String (Option Json) :=
  if status metadata = "pending" then (setStatus targetStatus metadata).map some
  else .ok metadata

theorem find_setMember {name : String} {value : Json} {members : List (String × Json)} :
    (setMember name value members).find? (·.1 = name) = some (name, value) := by
  have hnone : (members.filter (·.1 ≠ name)).find? (·.1 = name) = none := by
    simp [List.find?_eq_none]
  rw [setMember, List.find?_append, hnone]
  simp

theorem status_setStatus {targetStatus : String} {metadata : Option Json} {value : Json}
    (h : setStatus targetStatus metadata = .ok value) : status (some value) = targetStatus := by
  unfold setStatus at h
  split at h
  · cases h
    rfl
  · cases h
    simp only [status, find_setMember]
  · cases h
  · cases h

/-- The statement on the metadata is the one on the status, or it fails. -/
theorem status_update {targetStatus : String} {metadata metadata' : Option Json}
    (h : update targetStatus metadata = .ok metadata') :
    status metadata' = if status metadata = "pending" then targetStatus else status metadata := by
  unfold update at h
  by_cases hpending : status metadata = "pending"
  · rw [if_pos hpending] at h ⊢
    cases hset : setStatus targetStatus metadata with
    | error e => simp [hset, Except.map] at h
    | ok value =>
        rw [hset] at h
        cases h
        exact status_setStatus hset
  · rw [if_neg hpending] at h ⊢
    cases h
    rfl

end TransferMetadata

/-- A request of the recipient, or of somebody else. -/
inductive TransferDecision where
  | confirm (call : TransferActionCall)
  | reject (call : TransferActionCall)

namespace TransferDecision

def call : TransferDecision → TransferActionCall
  | confirm call | reject call => call

def transferId (d : TransferDecision) : Uuid := d.call.payload.transferId

def targetStatus : TransferDecision → String
  | confirm _ => "confirmed"
  | reject _ => "rejected"

def handle : TransferDecision → Service Reply
  | confirm call => confirmTransferHandler call.actor call.payload
  | reject call => rejectTransferHandler call.actor call.payload

def pool {ι : Type} (decisions : ι → TransferDecision) (start : Store) : Pool api Store ι Reply :=
  ⟨start, fun i => (decisions i).handle⟩

theorem handle_outcome (d : TransferDecision) :
    Meets (d.call.Calls d.targetStatus) (d.call.Outcome d.targetStatus) [] d.handle := by
  cases d with
  | confirm call => exact TransferActionCall.transferActionHandler_outcome (fun _ => rfl) _
  | reject call => exact TransferActionCall.transferActionHandler_outcome (fun _ => rfl) _

end TransferDecision

/-- The request has been answered, with success. -/
def Succeeded : Service Reply → Prop
  | .done reply => reply.status = 200
  | _ => False

section Histories
variable {ι : Type} (decisions : ι → TransferDecision)
  (h : List (Move api Store ι)) (c : Pool api Store ι Reply) (id : Uuid) (record : TransferRecord)

/-- The record has been decided by one request, or by none yet. -/
structure DecidedOnce : Prop where
  once : ∀ i j, (decisions i).transferId = id → (decisions j).transferId = id →
    Succeeded (c.threads i) → Succeeded (c.threads j) → i = j
  undecided : (∀ i, (decisions i).transferId = id → ¬Succeeded (c.threads i)) →
    c.state.db.selectTransfer id = some record
  decided : ∀ i, (decisions i).transferId = id → Succeeded (c.threads i) →
    record.isPending = true ∧ (decisions i).call.actor.actorId = record.toUserId ∧
      c.state.db.selectTransfer id = some { record with status := (decisions i).targetStatus }
  refused : ∀ v ∈ h, ¬Succeeded (c.threads v.thread) → v.after = v.before
  answered : ∀ i reply, c.threads i = .done reply → ¬Succeeded (c.threads i) →
    ∃ err, reply = errorResponse err

end Histories

namespace Db
variable {db : Db} {transferId id : Uuid} {targetStatus : String} {record : TransferRecord}

theorem updateTransferStatus_none
    (h : (db.updateTransferStatus transferId targetStatus).1 = none) :
    (db.updateTransferStatus transferId targetStatus).2 = db := by
  have hnone := Table.find_eq_none.mp (Option.map_eq_none_iff.mp h)
  have hsame := @Table.update_eq_self _ _ db.transfers
    (fun r => r.transferId = transferId && r.status = "pending")
    (fun r => { r with status := targetStatus }) (fun _ => rfl) fun r hr hp => by
      rw [hnone r hr] at hp
      cases hp
  show { db with transfers := _ } = db
  rw [hsame]

/-- The record that is set was pending, and keeps its other columns. -/
theorem updateTransferStatus_some
    (h : (db.updateTransferStatus transferId targetStatus).1 = some record) :
    ∃ old, db.selectTransfer transferId = some old ∧ old.isPending = true ∧
      record = { old with status := targetStatus } ∧
        (db.updateTransferStatus transferId targetStatus).2.selectTransfer transferId =
          some record := by
  obtain ⟨row, hrow, rfl⟩ := Option.map_eq_some_iff.mp h
  have hmatched := Table.prop_of_find hrow
  simp only [Bool.and_eq_true, decide_eq_true_eq] at hmatched
  have hfound : db.transfers.find (·.transferId = transferId) = some row :=
    Table.find_eq_some (Table.mem_of_find hrow) (by simp [hmatched.1]) fun a _ ha =>
      (of_decide_eq_true ha).trans hmatched.1.symm
  refine ⟨row.record, ?_, decide_eq_true hmatched.2, rfl, ?_⟩
  · rw [selectTransfer, hfound, Option.map_some]
  · simp only [selectTransfer, updateTransferStatus]
    rw [Table.find_update, hfound]
    · simp [hmatched]
    · exact fun _ => rfl

theorem updateTransferStatus_other (h : id ≠ transferId) :
    (db.updateTransferStatus transferId targetStatus).2.selectTransfer id =
      db.selectTransfer id := by
  simp only [selectTransfer, updateTransferStatus]
  rw [Table.find_update]
  · cases hr : db.transfers.find (·.transferId = id) with
    | none => rfl
    | some row =>
        have hid : row.transferId = id := by simpa using Table.prop_of_find hr
        simp [hid, h]
  · exact fun _ => rfl

end Db

section Calls
variable {targetStatus status : String} {call : TransferActionCall} {log : Log} {op : Op}
  {env : machine.Env} {s : Store} {id : Uuid} {record : TransferRecord}

/-- Only an update that finds the record pending writes. -/
theorem TransferActionCall.Calls.exec_none (hop : call.Calls targetStatus log op)
    (env : machine.Env) (s : Store)
    (h : TransferActionCall.statusSet ⟨op, (machine.exec env op s).1⟩ = none) :
    (machine.exec env op s).2 = s := by
  cases hop with
  | fetch | refetch => exact query_state _
  | set =>
      simp only [machine, exec, command] at h ⊢
      cases hfails : env.fails with
      | some e => rfl
      | none =>
          simp only [hfails] at h
          cases hset : (s.db.updateTransferStatus call.payload.transferId targetStatus).1 with
          | some record =>
              rw [hset] at h
              cases h
          | none => simp only [Db.updateTransferStatus_none hset]

theorem exec_statusSet
    (h : TransferActionCall.statusSet ⟨op, (machine.exec env op s).1⟩ = some record) :
    ∃ id status, op = .updateTransferStatus id status ∧
      (s.db.updateTransferStatus id status).1 = some record ∧
        (machine.exec env op s).2.db = (s.db.updateTransferStatus id status).2 := by
  cases op with
  | updateTransferStatus id status =>
      simp only [machine, exec, command] at h ⊢
      cases hfails : env.fails with
      | some e =>
          simp only [hfails] at h
          cases h
      | none =>
          simp only [hfails] at h ⊢
          cases hset : (s.db.updateTransferStatus id status).1 with
          | none =>
              rw [hset] at h
              cases h
          | some record' =>
              rw [hset] at h
              cases h
              exact ⟨id, status, rfl, hset, rfl⟩
  | _ => cases h

/-- A request that has set the record makes no call. -/
theorem TransferActionCall.Calls.unset (hop : call.Calls targetStatus log op) :
    ∀ e ∈ log, TransferActionCall.statusSet e = none := by
  cases hop with
  | fetch => exact fun e he => absurd he List.not_mem_nil
  | set => simp [TransferActionCall.fetched, TransferActionCall.statusSet]
  | refetch => simp [TransferActionCall.fetched, TransferActionCall.set, TransferActionCall.statusSet]

/-- The update comes after the recipient was looked up. -/
theorem TransferActionCall.Calls.update
    (hop : call.Calls targetStatus log (.updateTransferStatus id status)) :
    id = call.payload.transferId ∧ status = targetStatus ∧
      ∃ existing, log = [call.fetched existing] ∧ call.actor.actorId = existing.toUserId := by
  cases hop with
  | set h => exact ⟨rfl, rfl, _, rfl, h⟩

end Calls

section Runs
variable {ι : Type} [DecidableEq ι] {decisions : ι → TransferDecision} {start : Store}
  {h h₁ h₂ : List (Move api Store ι)} {c : Pool api Store ι Reply} {id : Uuid}
  {record : TransferRecord} {i : ι} {v : Move api Store ι}
  (run : Interleaves machine (TransferDecision.pool decisions start) h c)

/-- The request has set a record. -/
def HasSet (h : List (Move api Store ι)) (i : ι) : Prop :=
  ∃ e ∈ eventsOf i h, (TransferActionCall.statusSet e).isSome = true

theorem hasSet_append : HasSet (h ++ [v]) i ↔
    HasSet h i ∨ v.thread = i ∧ (TransferActionCall.statusSet v.event).isSome = true := by
  simp only [HasSet, mem_eventsOf, List.mem_append, List.mem_singleton]
  constructor
  · rintro ⟨_, ⟨w, hw | rfl, hi, rfl⟩, hset⟩
    · exact .inl ⟨_, ⟨w, hw, hi, rfl⟩, hset⟩
    · exact .inr ⟨hi, hset⟩
  · rintro (⟨_, ⟨w, hw, hi, rfl⟩, hset⟩ | ⟨hi, hset⟩)
    · exact ⟨_, ⟨w, .inl hw, hi, rfl⟩, hset⟩
    · exact ⟨_, ⟨v, .inr rfl, hi, rfl⟩, hset⟩

include run

theorem decisions_outcome (i : ι) :
    Meets ((decisions i).call.Calls (decisions i).targetStatus)
      ((decisions i).call.Outcome (decisions i).targetStatus) (eventsOf i h) (c.threads i) := by
  have hstart : ∀ j, Meets ((decisions j).call.Calls (decisions j).targetStatus)
      ((decisions j).call.Outcome (decisions j).targetStatus) []
        ((TransferDecision.pool decisions start).threads j) :=
    fun j => (decisions j).handle_outcome
  exact run.meets hstart i

/-- A request succeeds exactly when it has set the record. -/
theorem succeeded_iff : Succeeded (c.threads i) ↔ HasSet h i := by
  have hmeets := decisions_outcome run i
  unfold HasSet
  cases hthread : c.threads i with
  | call op next =>
      rw [hthread] at hmeets
      constructor
      · exact False.elim
      · rintro ⟨e, he, hset⟩
        rw [hmeets.1.unset e he] at hset
        cases hset
  | done reply =>
      rw [hthread, meets_done] at hmeets
      generalize eventsOf i h = log at hmeets
      cases hmeets with
      | @refused log err hlog =>
          constructor
          · intro hstatus
            exact absurd hstatus (errorResponse_status err)
          · rintro ⟨e, he, hset⟩
            rw [hlog e he] at hset
            cases hset
      | set hrecipient =>
          simp [Succeeded, Reply.ok, TransferActionCall.set, TransferActionCall.statusSet]

theorem decisions_answered {reply : Reply} (hi : c.threads i = .done reply)
    (hnot : ¬Succeeded (c.threads i)) : ∃ err, reply = errorResponse err := by
  have hmeets := decisions_outcome run i
  rw [hi, meets_done] at hmeets
  rw [hi] at hnot
  generalize eventsOf i h = log at hmeets
  cases hmeets with
  | refused => exact ⟨_, rfl⟩
  | set => exact absurd rfl hnot

theorem decisions_call (hh : h = h₁ ++ v :: h₂) :
    (decisions v.thread).call.Calls (decisions v.thread).targetStatus (eventsOf v.thread h₁)
      v.event.op := by
  obtain ⟨c₁, next, run₁, _, hv⟩ := run.split hh
  have hmeets := decisions_outcome run₁ v.thread
  rw [hv] at hmeets
  exact hmeets.1

theorem decisions_unset (hh : h = h₁ ++ v :: h₂)
    (hnone : TransferActionCall.statusSet v.event = none) : v.after = v.before := by
  obtain ⟨env, hexec⟩ := run.move (v := v) (hh ▸ List.mem_append_right _ (List.mem_cons_self ..))
  have hstate := (decisions_call run hh).exec_none env v.before
  rw [hexec] at hstate
  exact hstate hnone

/-- A move that sets a record: what it found, and what its request had read. -/
theorem decisions_set {new : TransferRecord} (hh : h = h₁ ++ v :: h₂)
    (hset : TransferActionCall.statusSet v.event = some new) :
    (v.before.db.updateTransferStatus (decisions v.thread).transferId
        (decisions v.thread).targetStatus).1 = some new ∧
      v.after.db = (v.before.db.updateTransferStatus (decisions v.thread).transferId
        (decisions v.thread).targetStatus).2 ∧
      ∃ existing, eventsOf v.thread h₁ = [(decisions v.thread).call.fetched existing] ∧
        (decisions v.thread).call.actor.actorId = existing.toUserId := by
  obtain ⟨env, hexec⟩ := run.move (v := v) (hh ▸ List.mem_append_right _ (List.mem_cons_self ..))
  have hcall := decisions_call run hh
  have hevent : (⟨v.event.op, (machine.exec env v.event.op v.before).1⟩ : Event api) = v.event := by
    rw [hexec]
  obtain ⟨id, status, hop, hnew, hafter⟩ := exec_statusSet (hevent ▸ hset)
  rw [hop] at hcall
  rw [hexec] at hafter
  obtain ⟨rfl, rfl, hread⟩ := hcall.update
  exact ⟨hnew, hafter, hread⟩

theorem decisions_refused (hv : v ∈ h) (hnot : ¬Succeeded (c.threads v.thread)) :
    v.after = v.before := by
  obtain ⟨h₁, h₂, hh⟩ := List.append_of_mem hv
  apply decisions_unset run hh
  by_contra hset
  apply hnot
  rw [succeeded_iff run]
  exact ⟨v.event, mem_eventsOf.mpr ⟨v, hv, rfl, rfl⟩, Option.isSome_iff_ne_none.mpr hset⟩

/-- The recipient of a record stays who it is. -/
theorem decisions_recipient (id : Uuid) :
    (c.state.db.selectTransfer id).map (·.toUserId) =
      (start.db.selectTransfer id).map (·.toUserId) := by
  refine run.relates (R := fun s s' => (s'.db.selectTransfer id).map (·.toUserId) =
    (s.db.selectTransfer id).map (·.toUserId)) (fun _ => rfl) ?_ fun v hv => ?_
  · intro _ _ _ h h'
    exact Eq.trans h' h
  · obtain ⟨h₁, h₂, hh⟩ := List.append_of_mem hv
    cases hset : TransferActionCall.statusSet v.event with
    | none => rw [decisions_unset run hh hset]
    | some new =>
        obtain ⟨hnew, hafter, _⟩ := decisions_set run hh hset
        obtain ⟨old, hold, _, hrecord, hnow⟩ := Db.updateTransferStatus_some hnew
        rw [hafter]
        by_cases hid : id = (decisions v.thread).transferId
        · rw [hid, hnow, hold, hrecord]
          rfl
        · rw [Db.updateTransferStatus_other hid]

/-- Whom a request reads as the recipient. -/
theorem decisions_fetched {existing : TransferRecord}
    (he : (decisions i).call.fetched existing ∈ eventsOf i h) :
    (start.db.selectTransfer (decisions i).transferId).map (·.toUserId) =
      some existing.toUserId := by
  obtain ⟨w, hw, rfl, hevent⟩ := mem_eventsOf.mp he
  obtain ⟨h₁, h₂, hh⟩ := List.append_of_mem hw
  obtain ⟨c₁, next, run₁, hstate, _⟩ := run.split hh
  obtain ⟨env, hexec⟩ := run.move hw
  rw [hevent] at hexec
  have hread : w.before.db.selectTransfer (decisions w.thread).transferId = some existing :=
    query_ok (congrArg Prod.fst hexec)
  rw [← decisions_recipient run₁, hstate, hread, Option.map_some]

/-- Nobody has set the record yet, or one request has, and it is as that one set it. -/
theorem decisions_state (hrecord : start.db.selectTransfer id = some record) :
    ((∀ i, HasSet h i → (decisions i).transferId ≠ id) ∧
      c.state.db.selectTransfer id = some record) ∨
    ∃ i, HasSet h i ∧ (decisions i).transferId = id ∧
      (∀ j, HasSet h j → (decisions j).transferId = id → j = i) ∧ record.isPending = true ∧
        (decisions i).call.actor.actorId = record.toUserId ∧
          c.state.db.selectTransfer id =
            some { record with status := (decisions i).targetStatus } := by
  have hrun := run
  induction run with
  | start => exact .inl ⟨fun i ⟨e, he, _⟩ => absurd he List.not_mem_nil, hrecord⟩
  | @step h c run k op next hk env ih =>
      have ih := ih run
      simp only [hasSet_append]
      cases hset : TransferActionCall.statusSet ⟨op, (machine.exec env op c.state).1⟩ with
      | none =>
          have hsame : (machine.exec env op c.state).2 = c.state := decisions_unset hrun rfl hset
          simpa [hsame] using ih
      | some new =>
          obtain ⟨hnew, hafter, existing, hlog, hactor⟩ := decisions_set hrun rfl hset
          dsimp only at hnew hafter hlog hactor
          obtain ⟨old, hold, hpending, hwritten, hnow⟩ := Db.updateTransferStatus_some hnew
          rw [hafter]
          by_cases hid : (decisions k).transferId = id
          · rw [hid] at hold hnow
            rcases ih with ⟨hnobody, hstored⟩ | ⟨i, _, _, _, _, _, hstored⟩
            · obtain rfl : old = record := Option.some.inj (hold.symm.trans hstored)
              right
              refine ⟨k, .inr ⟨rfl, rfl⟩, hid, ?_, hpending, ?_, by rw [hid, hnow, hwritten]⟩
              · rintro j (hj | ⟨hj, _⟩) hjid
                · exact absurd hjid (hnobody j hj)
                · exact hj.symm
              · have hread := decisions_fetched run (hlog ▸ List.mem_singleton_self _)
                rw [hid, hrecord, Option.map_some] at hread
                exact hactor.trans (Option.some.inj hread).symm
            · obtain rfl := Option.some.inj (hold.symm.trans hstored)
              cases hi : decisions i <;> simp [TransferRecord.isPending, hi,
                TransferDecision.targetStatus] at hpending
          · rw [Db.updateTransferStatus_other (Ne.symm hid)]
            rcases ih with ⟨hnobody, hstored⟩ | ⟨i, hi, hiid, honly, hrest⟩
            · left
              refine ⟨?_, hstored⟩
              rintro j (hj | ⟨rfl, _⟩)
              · exact hnobody j hj
              · exact hid
            · right
              refine ⟨i, .inl hi, hiid, ?_, hrest⟩
              rintro j (hj | ⟨rfl, _⟩) hjid
              · exact honly j hj hjid
              · exact absurd hjid hid

end Runs

/-- Whoever answers a transfer and however often, one answer of the recipient's decides. -/
theorem transfer_decided_once {ι : Type} [DecidableEq ι] (decisions : ι → TransferDecision)
    (start : Store) (h : List (Move api Store ι)) (c : Pool api Store ι Reply) (id : Uuid)
    (record : TransferRecord)
    (run : Interleaves machine (TransferDecision.pool decisions start) h c)
    (hrecord : start.db.selectTransfer id = some record) :
    DecidedOnce decisions h c id record := by
  have hanswered : ∀ i reply, c.threads i = .done reply → ¬Succeeded (c.threads i) →
      ∃ err, reply = errorResponse err := fun i reply => decisions_answered run
  have hrefused : ∀ v ∈ h, ¬Succeeded (c.threads v.thread) → v.after = v.before :=
    fun v => decisions_refused run
  rcases decisions_state run hrecord with
    ⟨hnobody, hstored⟩ | ⟨i, hi, hid, honly, hpending, hactor, hstored⟩
  · have hnone : ∀ i, (decisions i).transferId = id → ¬Succeeded (c.threads i) := by
      intro i hid hi
      exact hnobody i ((succeeded_iff run).mp hi) hid
    exact
      { once := fun i _ hid _ hi => absurd hi (hnone i hid)
        undecided := fun _ => hstored
        decided := fun i hid hi => absurd hi (hnone i hid)
        refused := hrefused
        answered := hanswered }
  · have heq : ∀ j, (decisions j).transferId = id → Succeeded (c.threads j) → j = i :=
      fun j hjid hj => honly j ((succeeded_iff run).mp hj) hjid
    exact
      { once := fun j k hjid hkid hj hk => (heq j hjid hj).trans (heq k hkid hk).symm
        undecided := fun hnone => absurd ((succeeded_iff run).mpr hi) (hnone i hid)
        decided := by
          intro j hjid hj
          obtain rfl := heq j hjid hj
          exact ⟨hpending, hactor, hstored⟩
        refused := hrefused
        answered := hanswered }

section Sample

def decisionCall (actorId : String) : TransferActionCall :=
  ⟨{ actorId := actorId, actorRole := .consumer }, ⟨.repeated 7⟩⟩

/-- The recipient confirms and rejects at once, and somebody else rejects. -/
def sampleDecision (i : Nat) : TransferDecision :=
  if i = 0 then .confirm (decisionCall "friend")
  else if i = 1 then .reject (decisionCall "friend")
  else .reject (decisionCall "stranger")

def waitingRow : TransferRow :=
  ⟨.repeated 7, "a", "owner", "friend", "owner", "friend", "CONSUMER_TO_CONSUMER", "k", "t",
    "pending"⟩

def waitingStore : Store where
  db := { soldPairStore.db with transfers := .single waitingRow }

def decisionsRun : List (Move api Store Nat) × Pool api Store Nat Reply :=
  (TransferDecision.pool sampleDecision waitingStore).schedule machine
    ([0, 1, 2, 1, 0, 0].map fun i => (i, {}))

theorem decisionsRun_interleaves :
    Interleaves machine (TransferDecision.pool sampleDecision waitingStore)
      decisionsRun.1 decisionsRun.2 :=
  schedule_interleaves ..

theorem transfer_decided_once_rejected :
    (decisionsRun.2.state.db.selectTransfer (.repeated 7)).map (·.status) = some "rejected" ∧
      DecidedOnce sampleDecision decisionsRun.1 decisionsRun.2 (.repeated 7) waitingRow.record :=
  ⟨by decide +kernel,
    transfer_decided_once _ _ _ _ _ _ decisionsRun_interleaves (by decide +kernel)⟩

end Sample

end RcProtocol
