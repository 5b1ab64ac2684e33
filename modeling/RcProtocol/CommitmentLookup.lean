import RcProtocol.ActivationAtomicity
import RcProtocol.Authenticity

/-!
What a verification resolves for an asset that was activated. The commitment is stored
under the normalised UID and the key epoch; the lookup takes the UID and the epoch of the
row as they are.
-/

namespace RcProtocol
open Library

/-- The columns of an asset a verification finds its commitment by. -/
structure Binding where
  uid : Option String
  epoch : Int32
  assetCommitmentId : Option String
  deriving DecidableEq

def AssetRow.binding (r : AssetRow) : Binding := ⟨r.uid, r.epoch, r.assetCommitmentId⟩

def Db.binding (db : Db) (assetId : String) : Option Binding :=
  (db.asset assetId).map AssetRow.binding

/-- The asset an event binds, and what it makes of the columns. -/
def bindingWrite : Event api → Option (String × (Binding → Binding))
  | ⟨.bindAssetCommitment assetId id, .ok _⟩ =>
      some (assetId, fun b => { b with assetCommitmentId := some id })
  | _ => none

/-- The commitment an event issues. -/
def commitmentIssued : Event api → Option AssetCommitmentRecord
  | ⟨.insertAssetCommitment record, .ok _⟩ => some record
  | _ => none

theorem commitmentIssued_of_not_isWrite {e : Event api} (h : isWrite e = false) :
    commitmentIssued e = none := by
  obtain ⟨op, r⟩ := e
  cases op <;> first | rfl | (cases r <;> first | rfl | cases h)

namespace Changes
variable {e : Event api} {db db' : Db}

theorem binding (h : Changes e db db') (assetId : String) :
    db'.binding assetId = written (bindingWrite e) assetId (db.binding assetId) := by
  have hasset := h.asset assetId
  obtain ⟨op, r⟩ := e
  simp only [Db.binding, hasset]
  cases op <;> first | rfl | (cases r <;> first | rfl | skip)
  all_goals
    simp only [assetWrite, bindingWrite, written]
    split
    · cases db.asset assetId <;> rfl
    · rfl

theorem commitments_issued {record : AssetCommitmentRecord} (h : Changes e db db')
    (he : commitmentIssued e = some record) :
    db'.commitments = (db.commitments.insert record).getD db.commitments := by
  cases h with
  | insertAssetCommitment =>
      obtain rfl := Option.some.inj he
      rfl
  | read hr =>
      rw [commitmentIssued_of_not_isWrite hr] at he
      cases he
  | _ => cases he

theorem commitments_same (h : Changes e db db') (he : commitmentIssued e = none) :
    db'.commitments = db.commitments := by
  cases h with
  | insertAssetCommitment => cases he
  | _ => rfl

end Changes

/-- The columns of each asset, as a view of the state. -/
def bindingView : View machine String Binding where
  get s := s.db.binding
  write := bindingWrite
  step env op s := (machine_changes env op s).binding

/-- The events bind the asset to nothing and issue no commitment under its UID and epoch. -/
structure KeepsLookup (assetId uid : String) (epoch : Int32) (log : Log) : Prop where
  issued : ∀ e ∈ log, ∀ record, commitmentIssued e = some record →
    ¬(record.assetUid = uid ∧ record.epoch = epoch)
  bound : ∀ e ∈ log, ∀ id f, bindingWrite e = some (id, f) → id ≠ assetId

theorem Db.selectCommitment_insert {db db' : Db} {record : AssetCommitmentRecord} {uid : String}
    {epoch : Int32} {commitments : Table AssetCommitmentRecord}
    (h : db.commitments.insert record = some commitments) (hdb : db'.commitments = commitments) :
    db'.selectCommitmentByUidEpoch uid epoch =
      if record.assetUid = uid ∧ record.epoch = epoch then some record
      else db.selectCommitmentByUidEpoch uid epoch := by
  rw [Db.selectCommitmentByUidEpoch, hdb, Table.newest_insert h]
  simp only [decide_eq_true_eq, Db.selectCommitmentByUidEpoch]

theorem Db.selectCommitment_congr {db db' : Db} (h : db'.commitments = db.commitments)
    (uid : String) (epoch : Int32) :
    db'.selectCommitmentByUidEpoch uid epoch = db.selectCommitmentByUidEpoch uid epoch := by
  rw [Db.selectCommitmentByUidEpoch, h, Db.selectCommitmentByUidEpoch]

namespace KeepsLookup
variable {assetId uid : String} {epoch : Int32} {log : Log} {s t : Store}

theorem binding (h : KeepsLookup assetId uid epoch log) (htrace : machine.Trace s log t) :
    t.db.binding assetId = s.db.binding assetId := by
  have hget : bindingView.get t assetId = bindingView.get s assetId :=
    View.get_trace_other htrace h.bound
  exact hget

theorem lookup (h : KeepsLookup assetId uid epoch log) (htrace : machine.Trace s log t) :
    t.db.selectCommitmentByUidEpoch uid epoch = s.db.selectCommitmentByUidEpoch uid epoch := by
  refine htrace.invariant
    (I := fun t => t.db.selectCommitmentByUidEpoch uid epoch =
      s.db.selectCommitmentByUidEpoch uid epoch) rfl ?_
  intro env op t he ht
  rw [← ht]
  have hchanges := machine_changes env op t
  cases hissued : commitmentIssued ⟨op, (machine.exec env op t).1⟩ with
  | none => exact Db.selectCommitment_congr (hchanges.commitments_same hissued) uid epoch
  | some record =>
      have hdb := hchanges.commitments_issued hissued
      cases hi : t.db.commitments.insert record with
      | none =>
          rw [hi] at hdb
          exact Db.selectCommitment_congr hdb uid epoch
      | some commitments =>
          rw [hi] at hdb
          rw [Db.selectCommitment_insert hi hdb, if_neg (h.issued _ he record hissued)]

end KeepsLookup

/-- No verification issues a commitment or binds one. -/
theorem VerifyCall.run_keepsLookup (app : AppState) (call : VerifyCall) (env : Nat → machine.Env)
    (s : Store) (assetId uid : String) (epoch : Int32) :
    KeepsLookup assetId uid epoch (machine.run (call.handle app) env s).log := by
  constructor
  · intro e he record hissued
    obtain ⟨op, r⟩ := e
    obtain hop | ⟨id, ctr, hop⟩ := VerifyCall.run_calls _ he
    · cases hop <;> cases hissued
    · obtain rfl : op = _ := hop
      cases hissued
  · intro e he id f hbound
    obtain ⟨op, r⟩ := e
    obtain hop | ⟨id, ctr, hop⟩ := VerifyCall.run_calls _ he
    · cases hop <;> cases hbound
    · obtain rfl : op = _ := hop
      cases hbound

/-- A run that commits ends in a database with the property. -/
def EndsIn (Q : Db → Prop) (env : Nat → machine.Env) (s : Store) (p : Service Reply) : Prop :=
  Committed (machine.run p env s).log → Q (machine.run p env s).state.db

/-- What is looked up, and what an activation computes its commitment from, is as it was. -/
structure SameLookup (db db' : Db) : Prop where
  commitments : db'.commitments = db.commitments
  binding : ∀ assetId, db'.binding assetId = db.binding assetId
  inputs : ∀ assetId, (db'.asset assetId).map AssetRow.issueInputs =
    (db.asset assetId).map AssetRow.issueInputs

theorem SameLookup.trans {a b c : Db} (h : SameLookup a b) (h' : SameLookup b c) :
    SameLookup a c where
  commitments := h'.commitments.trans h.commitments
  binding id := (h'.binding id).trans (h.binding id)
  inputs id := (h'.inputs id).trans (h.inputs id)

theorem Changes.issueInputs {e : Event api} {db db' : Db} (h : Changes e db db')
    (assetId : String) : (db'.asset assetId).map AssetRow.issueInputs =
      (db.asset assetId).map AssetRow.issueInputs := by
  rw [h.asset assetId]
  obtain ⟨op, r⟩ := e
  cases op <;> first | rfl | (cases r <;> first | rfl | skip)
  all_goals
    simp only [assetWrite]
    split
    · cases db.asset assetId <;> rfl
    · rfl

/-- A statement that issues no commitment and binds none. -/
structure Aside (op : Op) : Prop where
  issued : ∀ r, commitmentIssued ⟨op, r⟩ = none
  bound : ∀ r, bindingWrite ⟨op, r⟩ = none

theorem Aside.sameLookup {op : Op} (h : Aside op) (env : machine.Env) (s : Store) :
    SameLookup s.db (machine.exec env op s).2.db := by
  have hchanges := machine_changes env op s
  refine ⟨hchanges.commitments_same (h.issued _), fun id => ?_, hchanges.issueInputs⟩
  rw [hchanges.binding id, h.bound]
  rfl

section Steps
variable {Q : Db → Prop} {env : Nat → machine.Env} {s : Store} {op : Op} {β : Type}
  {f : op.Answer → Except RcError β} {next : β → Service Reply} {reply : Reply}

theorem endsIn_done : EndsIn Q env s (.done reply) := fun h => absurd h View.not_wrote_nil

/-- A statement that does not commit: the run goes on with its answer. -/
theorem endsIn_next (hop : ∀ r, custodyWrite ⟨op, r⟩ = none)
    (h : ∀ b, f (machine.exec (env 0) op s).1 = .ok b →
      EndsIn Q (fun n => env (n + 1)) (machine.exec (env 0) op s).2 (next b)) :
    EndsIn Q env s (((ask op).map f).attempt protocolErrorResponse next) := by
  intro hc
  have hlog : ∀ log : Log, Committed (⟨op, (machine.exec (env 0) op s).1⟩ :: log) →
      Committed log := by
    intro log hc
    by_contra hn
    rw [← List.singleton_append] at hc
    refine View.not_wrote_append.mpr ⟨View.not_wrote_iff.mpr fun e he => ?_, hn⟩ hc
    obtain rfl := List.mem_singleton.mp he
    exact hop _
  cases hf : f (machine.exec (env 0) op s).1 with
  | error err =>
      simp only [Program.attempt, Program.map, ask, perform, Program.bind, Machine.run, hf] at hc
      exact absurd (hlog _ hc) View.not_wrote_nil
  | ok b =>
      simp only [Program.attempt, Program.map, ask, perform, Program.bind, Machine.run, hf] at hc ⊢
      exact h b hf (hlog _ hc)

theorem endsIn_aside (hop : ∀ r, custodyWrite ⟨op, r⟩ = none) (haside : Aside op)
    (h : ∀ b s', f (machine.exec (env 0) op s).1 = .ok b → SameLookup s.db s'.db →
      EndsIn Q (fun n => env (n + 1)) s' (next b)) :
    EndsIn Q env s (((ask op).map f).attempt protocolErrorResponse next) :=
  endsIn_next hop fun b hb => h b _ hb (haside.sameLookup _ s)

/-- The last statement. -/
theorem endsIn_last (haside : Aside op) (h : ∀ s' : Store, SameLookup s.db s'.db → Q s'.db) :
    EndsIn Q env s (((ask op).map f).attempt protocolErrorResponse fun _ => .done reply) := by
  intro _
  simp only [Program.attempt, Program.map, ask, perform, Program.bind, Machine.run]
  split <;> exact h _ (haside.sameLookup _ s)

end Steps

namespace ActivateCall
variable (app : AppState) (call : ActivateCall)

/-- The commitment the activation issues for the row. -/
def commitment (row : AssetRow) (uid : String) : AssetCommitmentRecord :=
  buildAssetCommitmentRecord app.crypto row.brandId uid row.keyEpoch.toUInt32
    call.payload.externalProductId call.payload.externalProductName
    call.payload.externalProductUrl row.batchId

/-- The commitment is issued and the asset bound to it. -/
structure Issued (record : AssetCommitmentRecord) (db db' : Db) : Prop where
  commitments : db'.commitments = (db.commitments.insert record).getD db.commitments
  binding : db'.binding call.assetId =
    (db.binding call.assetId).map fun b => { b with assetCommitmentId := some record.commitmentId }

variable {app call} {env : Nat → machine.Env} {s : Store} {record : AssetCommitmentRecord}
  {a b c : Db}

theorem Issued.after (h : call.Issued record a b) (hsame : SameLookup b c) :
    call.Issued record a c :=
  ⟨hsame.commitments.trans h.commitments, (hsame.binding _).trans h.binding⟩

theorem Issued.before (hsame : SameLookup a b) (h : call.Issued record b c) :
    call.Issued record a c := by
  refine ⟨?_, ?_⟩
  · rw [h.commitments, hsame.commitments]
  · rw [h.binding, hsame.binding]

theorem issued_of_answers {env env' : machine.Env} {a b : Unit}
    (hinsert : orDatabase (machine.exec env (.insertAssetCommitment record) s).1 = .ok a)
    (hbind : orDatabase (machine.exec env' (.bindAssetCommitment call.assetId record.commitmentId)
      (machine.exec env (.insertAssetCommitment record) s).2).1 = .ok b) :
    call.Issued record s.db (machine.exec env'
      (.bindAssetCommitment call.assetId record.commitmentId)
      (machine.exec env (.insertAssetCommitment record) s).2).2.db := by
  have hinserted := machine_changes env (.insertAssetCommitment record) s
  rw [orDatabase_ok hinsert] at hinserted
  have hbound := machine_changes env' (.bindAssetCommitment call.assetId record.commitmentId)
    (machine.exec env (.insertAssetCommitment record) s).2
  rw [orDatabase_ok hbind] at hbound
  constructor
  · rw [hbound.commitments_same rfl]
    exact hinserted.commitments_issued rfl
  · rw [hbound.binding, hinserted.binding]
    exact if_pos rfl

theorem issueActivation_issues {stored nextRecord : AssetRecord} {event : AuditEvent}
    {requestHash uid : String} {snapshot : ActivationSnapshot}
    (hrecord : buildAssetCommitmentRecord app.crypto stored.brandId uid snapshot.keyEpoch.toUInt32
      call.payload.externalProductId call.payload.externalProductName
      call.payload.externalProductUrl snapshot.batchId = record) :
    EndsIn (call.Issued record s.db) env s (issueActivation app call.draws call.assetId stored
      nextRecord event requestHash uid snapshot call.payload) := by
  unfold issueActivation
  dsimp only
  rw [hrecord]
  refine endsIn_next (fun _ => rfl) fun _ hinsert => endsIn_next (fun _ => rfl) fun _ hbind => ?_
  have hissued := issued_of_answers hinsert hbind
  split
  · exact endsIn_done
  refine endsIn_aside (fun _ => rfl) ⟨fun _ => rfl, fun _ => rfl⟩ fun _ s₃ _ hbrand => ?_
  split
  · exact endsIn_done
  refine endsIn_aside (fun _ => rfl) ⟨fun _ => rfl, fun _ => rfl⟩ fun _ s₄ _ hplatform => ?_
  refine endsIn_last ⟨fun _ => rfl, fun _ => rfl⟩ fun s₅ hpersist => ?_
  exact ((hissued.after hbrand).after hplatform).after hpersist

theorem stored_inputs {row : AssetRow} {stored : AssetRecord}
    (h : (a.asset call.assetId).map AssetRow.issueInputs = some row.issueInputs)
    (hstored : a.selectAssetRecord call.assetId = some stored) : stored.brandId = row.brandId := by
  obtain ⟨row', hrow', rfl⟩ := Option.map_eq_some_iff.mp hstored
  rw [hrow'] at h
  exact congrArg Prod.fst (Option.some.inj h)

theorem snapshot_inputs {row : AssetRow} {snapshot : ActivationSnapshot}
    (h : (a.asset call.assetId).map AssetRow.issueInputs = some row.issueInputs)
    (hread : a.selectActivationSnapshot call.assetId = some snapshot) :
    snapshot.uid = row.uid ∧ snapshot.keyEpoch = row.keyEpoch ∧ snapshot.batchId = row.batchId := by
  obtain ⟨row', hrow', rfl⟩ := Option.map_eq_some_iff.mp hread
  rw [hrow'] at h
  have h := congrArg Prod.snd (Option.some.inj h)
  exact ⟨congrArg Prod.fst h, congrArg (fun i => i.2.1) h, congrArg (fun i => i.2.2) h⟩

/-- An activation that is carried out issues the commitment to the row it found. -/
theorem handle_issues {row : AssetRow} {uid : String} (hrow : s.db.asset call.assetId = some row)
    (huid : row.uid = some uid) :
    EndsIn (call.Issued (call.commitment app row uid) s.db) env s (call.handle app) := by
  unfold handle activateAsset
  split
  · exact endsIn_done
  split
  · exact endsIn_done
  next required hheaders =>
  refine endsIn_aside (fun _ => rfl) ⟨fun _ => rfl, fun _ => rfl⟩ fun known s₁ _ hlookup => ?_
  split
  · split <;> exact endsIn_done
  refine endsIn_aside (fun _ => rfl) ⟨fun _ => rfl, fun _ => rfl⟩ fun stored s₂ hstored hfetch => ?_
  obtain ⟨-, hfetched⟩ := query_found hstored
  split
  · exact endsIn_done
  dsimp only
  split
  · exact endsIn_done
  refine endsIn_aside (fun _ => rfl) ⟨fun _ => rfl, fun _ => rfl⟩ fun _ s₃ _ hmapping => ?_
  refine endsIn_aside (fun _ => rfl) ⟨fun _ => rfl, fun _ => rfl⟩
    fun snapshot s₄ hsnapshot hsnap => ?_
  obtain ⟨-, hread⟩ := query_found hsnapshot
  split
  · exact endsIn_done
  next uid' huid' =>
  have hinputs₁ := hlookup.inputs call.assetId
  have hinputs₃ := ((hlookup.trans hfetch).trans hmapping).inputs call.assetId
  rw [hrow] at hinputs₁ hinputs₃
  have hbrand := stored_inputs hinputs₁ hfetched
  obtain ⟨huid₃, hkeyEpoch, hbatch⟩ := snapshot_inputs hinputs₃ hread
  obtain rfl : uid' = uid := Option.some.inj (huid'.symm.trans (huid₃.trans huid))
  intro hc
  refine (issueActivation_issues ?_ hc).before
    (((hlookup.trans hfetch).trans hmapping).trans hsnap)
  rw [hbrand, hkeyEpoch, hbatch]
  rfl

end ActivateCall

/-- What a verification resolves for the row it fetched, every statement answered. -/
def resolvedIn (s : Store) (asset : AssetVerifyRow) : Except RcError (Option String) :=
  (machine.run (resolveAssetCommitmentId asset) (fun _ => ({} : Env)) s).answer

theorem resolvedIn_bound {s : Store} {asset : AssetVerifyRow} {id : String}
    (h : asset.assetCommitmentId = some id) : resolvedIn s asset = .ok (some id) := by
  rw [resolvedIn, resolveAssetCommitmentId, h]
  rfl

theorem resolvedIn_unbound {s : Store} {asset : AssetVerifyRow}
    (h : asset.assetCommitmentId = none) :
    resolvedIn s asset =
      .ok ((s.db.selectCommitmentByUidEpoch asset.uid asset.epoch).map (·.commitmentId)) := by
  rw [resolvedIn, resolveAssetCommitmentId, h]
  rfl

/-- The row is bound to the commitment, the lookup by UID and epoch ends at it too, and
its record names the UID and the epoch the chip key is derived under. -/
structure Resolves (s : Store) (asset : AssetVerifyRow) (id : String) : Prop where
  bound : asset.assetCommitmentId = some id
  resolved : resolvedIn s asset = .ok (some id)
  lookedUp : resolvedIn s { asset with assetCommitmentId := none } = .ok (some id)
  named : ∃ record ∈ s.db.commitments.rows, record.commitmentId = id ∧
    hexDecode record.assetUid = hexDecode asset.uid ∧ record.epoch = asset.epoch

/-- The lookup by UID and epoch ends at the commitment. -/
def Db.LooksUp (db : Db) (uid : String) (epoch : Int32) (id : String) : Prop :=
  ∃ record, db.selectCommitmentByUidEpoch uid epoch = some record ∧ record.commitmentId = id

theorem resolves_iff {s : Store} {asset : AssetVerifyRow} {id : String}
    (hbound : asset.assetCommitmentId = some id) :
    Resolves s asset id ↔ s.db.LooksUp asset.uid asset.epoch id := by
  constructor
  · intro h
    have hlookup := h.lookedUp
    rw [resolvedIn_unbound rfl] at hlookup
    exact Option.map_eq_some_iff.mp (Except.ok.inj hlookup)
  · intro ⟨record, hrecord, hid⟩
    refine ⟨hbound, resolvedIn_bound hbound, ?_, record, Table.mem_of_newest hrecord, hid, ?_⟩
    · rw [resolvedIn_unbound rfl]
      exact congrArg Except.ok (Option.map_eq_some_iff.mpr ⟨record, hrecord, hid⟩)
    · have hnames := Table.prop_of_newest hrecord
      simp only [decide_eq_true_eq] at hnames
      exact ⟨by rw [hnames.1], hnames.2⟩

/-- The row names its tag the way its commitment does, and has one epoch. -/
def AssetRow.NamesTag (row : AssetRow) (uid : String) : Prop :=
  normalizeUid uid = uid ∧ row.keyEpoch = row.epoch

namespace ActivateCall
variable {app : AppState} {call : ActivateCall} {s : Store} {row : AssetRow} {uid : String}
  {db db' : Db}

theorem commitment_names (app : AppState) (call : ActivateCall) (row : AssetRow) (uid : String) :
    (call.commitment app row uid).assetUid = uid ∧ (call.commitment app row uid).epoch = row.epoch ↔
      row.NamesTag uid :=
  Iff.rfl

/-- The lookup after the commitment is issued, from the tables before. -/
theorem looksUp_issued {record : AssetCommitmentRecord} {epoch : Int32}
    (h : db'.commitments = (db.commitments.insert record).getD db.commitments) :
    db'.LooksUp uid epoch record.commitmentId ↔
      (∀ r ∈ db.commitments.rows, r.commitmentId ≠ record.commitmentId) ∧
        (record.assetUid = uid ∧ record.epoch = epoch) ∨
      db.LooksUp uid epoch record.commitmentId := by
  have hstored : db.LooksUp uid epoch record.commitmentId →
      ∃ r ∈ db.commitments.rows, r.commitmentId = record.commitmentId := by
    intro ⟨r, hr, hid⟩
    exact ⟨r, Table.mem_of_newest hr, hid⟩
  cases hi : db.commitments.insert record with
  | none =>
      rw [hi] at h
      obtain ⟨r, hr, hclash⟩ := Table.insert_eq_none.mp hi
      have hsame := Db.selectCommitment_congr h uid epoch
      rw [Db.LooksUp, hsame]
      constructor
      · intro hlookup
        exact .inr hlookup
      · intro hcases
        obtain ⟨hfresh, -⟩ | hlookup := hcases
        · exact absurd hclash (hfresh r hr)
        · exact hlookup
  | some commitments =>
      rw [hi] at h
      have hfresh : ∀ r ∈ db.commitments.rows, r.commitmentId ≠ record.commitmentId :=
        fun r hr => Table.not_clash_of_insert hi hr
      rw [Db.LooksUp, Db.selectCommitment_insert hi h]
      split
      · next hnames =>
        constructor
        · intro _
          exact .inl ⟨hfresh, hnames⟩
        · intro _
          exact ⟨record, rfl, rfl⟩
      · next hnames =>
        constructor
        · intro hlookup
          exact .inr hlookup
        · intro hcases
          obtain ⟨-, hnames'⟩ | hlookup := hcases
          · exact absurd hnames' hnames
          · exact hlookup

/-- The row a verification fetches by the UID. -/
theorem selectAssetByUid_of_binding {db : Db} {assetId uid : String} {b : Binding}
    (h : db.binding assetId = some b) (huid : b.uid = some uid) :
    ∃ asset, db.selectAssetByUid uid = some asset ∧ asset.assetId = assetId ∧ asset.uid = uid ∧
      asset.epoch = b.epoch ∧ asset.assetCommitmentId = b.assetCommitmentId := by
  obtain ⟨r, hr, rfl⟩ := Option.map_eq_some_iff.mp h
  refine ⟨⟨r.assetId, r.brandId, r.productId, uid, r.currentState, r.lastVerifiedCtr, r.epoch,
    r.assetCommitmentId⟩, ?_, Db.asset_assetId hr, rfl, rfl, rfl⟩
  rw [Db.selectAssetByUid, Db.assetByUid_of_mem (Db.asset_mem hr) huid, Option.map_some]

/-- Once an activation is carried out, and until another commitment is issued for the tag,
a verification resolves the commitment exactly when it was new and the row names its tag
as the commitment does, or when the lookup ended at it before. -/
theorem commitment_resolves_iff (app : AppState) (call : ActivateCall) (env : Nat → machine.Env)
    (s : Store) {row : AssetRow} {uid : String} (hrow : s.db.asset call.assetId = some row)
    (huid : row.uid = some uid) (h : Committed (machine.run (call.handle app) env s).log)
    {later : Log} {t : Store}
    (htrace : machine.Trace (machine.run (call.handle app) env s).state later t)
    (hlater : KeepsLookup call.assetId uid row.epoch later) :
    (∃ asset, t.db.selectAssetByUid uid = some asset ∧ asset.assetId = call.assetId ∧
        Resolves t asset (call.commitment app row uid).commitmentId) ↔
      (∀ r ∈ s.db.commitments.rows,
          r.commitmentId ≠ (call.commitment app row uid).commitmentId) ∧ row.NamesTag uid ∨
        s.db.LooksUp uid row.epoch (call.commitment app row uid).commitmentId := by
  have hissued := handle_issues hrow huid h
  have hbinding : t.db.binding call.assetId =
      some ⟨some uid, row.epoch, some (call.commitment app row uid).commitmentId⟩ := by
    rw [hlater.binding htrace, hissued.binding, Db.binding, hrow, Option.map_some, Option.map_some,
      AssetRow.binding, huid]
  obtain ⟨asset, hasset, hid, hasUid, hepoch, hbound⟩ := selectAssetByUid_of_binding hbinding rfl
  have hlookup : t.db.LooksUp uid row.epoch (call.commitment app row uid).commitmentId ↔ _ :=
    (Iff.of_eq (by rw [Db.LooksUp, hlater.lookup htrace, Db.LooksUp])).trans
      (looksUp_issued hissued.commitments)
  rw [← commitment_names app call, ← hlookup]
  have hresolves := resolves_iff (s := t) hbound
  rw [hasUid, hepoch] at hresolves
  constructor
  · intro ⟨asset', hasset', _, hres⟩
    obtain rfl := Option.some.inj (hasset.symm.trans hasset')
    exact hresolves.mp hres
  · intro hlook
    exact ⟨asset, hasset, hid, hresolves.mpr hlook⟩

end ActivateCall

section Sample

def issuingSecret : Bytes 32 :=
  hexBytes 32 "d52745e3b12dc239dfec29630f4fddc0eebaea8c3f12f2c8c7b29eb0918bf335"

/-- The primitives on the inputs of one activation: SHA-256 by the length of its input. -/
def issuingPrimitives : Primitives :=
  { scanPrimitives with
    sha256 := fun message =>
      match message.length with
      | 27 => hexBytes 32 "dc8e0d5bdae702ea8de41d14f1bb94d051c02e5b073d642942cf995a06a221df"
      | 102 => hexBytes 32 "d7ac1095a612d6e87f70441f6789edb565c80db21d93520068ce60bfcb7b752b"
      | 242 => hexBytes 32 "2b6c70df3ec50a6a91f8e6e80ad1d17fe17bd77d381d9a18739762e39e217a8c"
      | 229 => hexBytes 32 "c62681fd4042ac4766f56705154f1f0eb285fc2707990ace47a59fb27d81ada0"
      | 249 => hexBytes 32 "9d79492cdcd8ebe300abd1e930107335b8929ce3886695a9c3e62ae05ee00aec"
      | 31 => issuingSecret
      | _ => hexBytes 32 "c12787c668206a4e4b305b622b33e8a6c04fa50cef7bf28c619fcc748a4f3fc6"
    sign := fun key _ =>
      if key = issuingSecret then
        hexBytes 64 ("6e03799083ef79b2ff61dd6e811b9e47da6c439c8a747ec3bd077b6b04548603" ++
          "cbedc694e3d102e403a0aabcd02ed32bd9fb2b031ba8688173509a8c0dd95101")
      else
        hexBytes 64 ("a0c1b69dd01ef91a53eee2eb97b5cb995e7e0ec830a9fa3dba27db470eeeb417" ++
          "37bbc909bb8510d6eb4ba7562c2c683950d664451954732eb6c1ba4d8be5d207") }

def issuingApp : AppState where
  crypto := issuingPrimitives
  kms := softwareKms issuingPrimitives rootKey "test-system"

/-- An asset that waits for its activation, its tag spelled so. -/
def labelledRow (uid : String) : AssetRow where
  assetId := "a"
  brandId := "brand"
  currentState := .unassigned
  uid := some uid

def labelledStore (uid : String) : Store where
  db :=
    { brands := ["brand"]
      assets := .single (labelledRow uid) }

/-- The request of the sample, at a time. -/
def datedActivation : ActivateCall :=
  { activation with draws := { eventId := .repeated 1, now := "2026-04-09T12:00:00+00:00" } }

/-- The state after the activation. -/
def activated (uid : String) : Machine.Outcome api Store Reply :=
  machine.run (datedActivation.handle issuingApp) (fun _ => {}) (labelledStore uid)

theorem commitment_resolves_iff_scanned :
    ∃ asset, (machine.run (scan.handle (scanApp 0)) (fun _ => {})
        (activated "04A31B2C3D4E5F").state).state.db.selectAssetByUid "04A31B2C3D4E5F" =
          some asset ∧ asset.assetId = "a" ∧
      Resolves (machine.run (scan.handle (scanApp 0)) (fun _ => {})
        (activated "04A31B2C3D4E5F").state).state asset
        "2b6c70df3ec50a6a91f8e6e80ad1d17fe17bd77d381d9a18739762e39e217a8c" := by
  have hid : (datedActivation.commitment issuingApp (labelledRow "04A31B2C3D4E5F")
      "04A31B2C3D4E5F").commitmentId =
        "2b6c70df3ec50a6a91f8e6e80ad1d17fe17bd77d381d9a18739762e39e217a8c" := by
    decide +kernel
  rw [← hid]
  refine (datedActivation.commitment_resolves_iff issuingApp (fun _ => {})
    (labelledStore "04A31B2C3D4E5F") rfl rfl (by decide +kernel)
    (machine.run_trace (scan.handle (scanApp 0)) _ _)
    (scan.run_keepsLookup (scanApp 0) _ _ _ _ _)).mpr (.inl ⟨?_, ?_, rfl⟩)
  · exact fun r hr => absurd hr List.not_mem_nil
  · decide +kernel

/-- The row spells the tag in lower case, and the lookup finds nothing. -/
theorem lower_case_is_not_found :
    ¬∀ (app : AppState) (call : ActivateCall) (env : Nat → machine.Env) (s : Store)
      (row : AssetRow) (uid : String) (later : Log) (t : Store),
      s.db.asset call.assetId = some row → row.uid = some uid →
      Committed (machine.run (call.handle app) env s).log →
      machine.Trace (machine.run (call.handle app) env s).state later t →
      KeepsLookup call.assetId uid row.epoch later →
        ∃ asset, t.db.selectAssetByUid uid = some asset ∧ asset.assetId = call.assetId ∧
          Resolves t asset (call.commitment app row uid).commitmentId := by
  intro hall
  have hnothing : (activated "04a31b2c3d4e5f").state.db.selectCommitmentByUidEpoch
      "04a31b2c3d4e5f" 0 = none := by
    have hnone : ((activated "04a31b2c3d4e5f").state.db.selectCommitmentByUidEpoch
        "04a31b2c3d4e5f" 0).isNone = true := by decide +kernel
    exact Option.isNone_iff_eq_none.mp hnone
  have hepoch : ((activated "04a31b2c3d4e5f").state.db.selectAssetByUid "04a31b2c3d4e5f").map
      AssetVerifyRow.epoch = some 0 := by decide +kernel
  obtain ⟨asset, hasset, -, hres⟩ := hall issuingApp datedActivation (fun _ => {})
    (labelledStore "04a31b2c3d4e5f") _ "04a31b2c3d4e5f" [] _ rfl rfl (by decide +kernel) (.nil _)
    ⟨fun _ he => absurd he List.not_mem_nil, fun _ he => absurd he List.not_mem_nil⟩
  obtain ⟨record, hrecord, -⟩ := (resolves_iff hres.bound).mp hres
  have hasset : (activated "04a31b2c3d4e5f").state.db.selectAssetByUid "04a31b2c3d4e5f" =
      some asset := hasset
  rw [hasset] at hepoch
  rw [show asset.epoch = 0 from Option.some.inj hepoch] at hrecord
  obtain ⟨r, hr, rfl⟩ := Option.map_eq_some_iff.mp hasset
  cases hnothing.symm.trans hrecord

end Sample

end RcProtocol
