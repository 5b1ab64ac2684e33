import RcProtocol.Api.ActivationWrites
import RcProtocol.Api.WriteSpec

/-!
What a failed activation leaves behind. The writes before the transaction are not part
of it, so an error after one of them takes none of them back.
-/

namespace RcProtocol
open Library

/-- The row of the asset and the tables of what is issued for it are as they were. -/
structure AsBefore (assetId : String) (db db' : Db) : Prop where
  asset : db'.asset assetId = db.asset assetId
  commitments : db'.commitments = db.commitments
  brandAttestations : db'.brandAttestations = db.brandAttestations
  platformAttestations : db'.platformAttestations = db.platformAttestations

/-- An error leaves the writes where something stopped them. -/
def Leaves (ws : List (Write Db)) (env : Nat → machine.Env) (s : Store)
    (p : Service Reply) : Prop :=
  (machine.run p env s).answer.status ≠ 200 → Stops ws s.db (machine.run p env s).state.db

section Leaving
variable {env : Nat → machine.Env} {s : Store} {w : Write Db} {ws : List (Write Db)} {op : Op}
  {β : Type} {f : op.Answer → Except RcError β} {next : β → Service Reply}

/-- A statement that is not one of the writes. -/
theorem leaves_other (hstate : (machine.exec (env 0) op s).2 = s)
    (hok : ∀ b, f (machine.exec (env 0) op s).1 = .ok b →
      Leaves ws (fun n => env (n + 1)) s (next b))
    (herror : ∀ err, f (machine.exec (env 0) op s).1 = .error err → Stops ws s.db s.db) :
    Leaves ws env s (((ask op).map f).attempt protocolErrorResponse next) := by
  intro hstatus
  cases hf : f (machine.exec (env 0) op s).1 with
  | error err =>
      have hrun : (machine.run (((ask op).map f).attempt protocolErrorResponse next) env s).state =
          (machine.exec (env 0) op s).2 := by
        simp only [Program.attempt, Program.map, ask, perform, Program.bind, Machine.run, hf]
      rw [hrun, hstate]
      exact herror err hf
  | ok b =>
      have hrun := hok b hf
      simp only [Program.attempt, Program.map, ask, perform, Program.bind, Machine.run, hf,
        hstate] at hstatus ⊢
      exact hrun hstatus

/-- A statement that is the next of the writes. -/
theorem leaves_write {c : Db → Except String (Unit × Db)} {next : Unit → Service Reply}
    {f : op.Answer → Except RcError Unit} (hw : w.attempt s.db = answered (env 0) (c s.db))
    (hanswer : f (machine.exec (env 0) op s).1 = orDatabase (command (env 0) s c).1)
    (hstate : (machine.exec (env 0) op s).2 = (command (env 0) s c).2)
    (hnext : ∀ db, w.attempt s.db = some db →
      Leaves ws (fun n => env (n + 1)) { s with db := db } (next ())) :
    Leaves (w :: ws) env s (((ask op).map f).attempt protocolErrorResponse next) := by
  intro hstatus
  cases hdb : w.attempt s.db with
  | none =>
      obtain ⟨⟨err, herr⟩, hs⟩ := command_refused (hw.symm.trans hdb)
      have hrun : (machine.run (((ask op).map f).attempt protocolErrorResponse next) env s).state =
          s := by
        simp only [Program.attempt, Program.map, ask, perform, Program.bind, Machine.run,
          hanswer.trans herr, hstate.trans hs]
      rw [hrun]
      exact .refused hdb
  | some db =>
      obtain ⟨hok, hs⟩ := command_answered (hw.symm.trans hdb)
      simp only [Program.attempt, Program.map, ask, perform, Program.bind, Machine.run,
        hanswer.trans hok, hstate.trans hs] at hstatus ⊢
      exact .written hdb (hnext db hdb hstatus)

/-- The last statement: it fails without effect, or the answer is no error. -/
theorem leaves_last (herror : ∀ err, f (machine.exec (env 0) op s).1 = .error err →
      (machine.exec (env 0) op s).2 = s)
    (hok : ∀ b, ∃ body, next b = .done (.ok body)) :
    Leaves [] env s (((ask op).map f).attempt protocolErrorResponse next) := by
  intro hstatus
  cases hf : f (machine.exec (env 0) op s).1 with
  | error err =>
      have hrun : (machine.run (((ask op).map f).attempt protocolErrorResponse next) env s).state =
          s := by
        simp only [Program.attempt, Program.map, ask, perform, Program.bind, Machine.run, hf,
          herror err hf]
      rw [hrun]
      exact .done
  | ok b =>
      obtain ⟨body, hb⟩ := hok b
      simp only [Program.attempt, Program.map, ask, perform, Program.bind, Machine.run, hf, hb]
        at hstatus
      exact absurd rfl hstatus

theorem leaves_refused {reply : Reply} (h : w.attempt s.db = none) :
    Leaves (w :: ws) env s (.done reply) := fun _ => .refused h

end Leaving

namespace ActivateCall
variable {app : AppState} {call : ActivateCall} {db db' : Db}

theorem issued_congr (h : (db'.asset call.assetId).map AssetRow.issueInputs =
    (db.asset call.assetId).map AssetRow.issueInputs) :
    call.issued app db' = call.issued app db := by
  rw [issued, issued, h]

/-- No update of the row's other columns changes what is issued. -/
theorem issued_updateAsset {set : AssetRow → AssetRow} {hset : ∀ r, Keyed.key (set r) = Keyed.key r}
    (h : ∀ r, (set r).issueInputs = r.issueInputs) :
    call.issued app (db.updateAsset call.assetId set hset) = call.issued app db := by
  apply issued_congr
  rw [Db.asset_updateAsset, Option.map_map]
  congr 1
  funext r
  exact h r

theorem issued_row {row : AssetRow} {uid : String} (hrow : db.asset call.assetId = some row)
    (huid : row.uid = some uid) :
    call.issued app db = some (row.brandId, buildAssetCommitmentRecord app.crypto row.brandId uid
      row.keyEpoch.toUInt32 call.payload.externalProductId call.payload.externalProductName
      call.payload.externalProductUrl row.batchId) := by
  rw [issued, hrow, Option.map_some, Option.bind_some, AssetRow.issueInputs, huid]
  rfl

theorem issued_none (h : ∀ row, db.asset call.assetId = some row → row.uid = none) :
    call.issued app db = none := by
  rw [issued]
  cases hrow : db.asset call.assetId with
  | none => rfl
  | some row =>
      rw [Option.map_some, Option.bind_some, AssetRow.issueInputs, h row hrow]
      rfl

/-- The mapping leaves the brand the handler has read. -/
theorem stored_brandId {stored : AssetRecord} {row : AssetRow}
    (h : db' = db.updateProductMapping call.assetId call.payload.externalProductId
      call.payload.externalProductName call.payload.externalProductUrl)
    (hstored : db.selectAssetRecord call.assetId = some stored)
    (hrow : db'.asset call.assetId = some row) : stored.brandId = row.brandId := by
  obtain ⟨before, hbefore, rfl⟩ := Option.map_eq_some_iff.mp hstored
  rw [h, Db.updateProductMapping, Db.asset_updateAsset, hbefore] at hrow
  obtain rfl := Option.some.inj hrow
  rfl

section Stages
variable {env : Nat → machine.Env} {s : Store} {stored next : AssetRecord} {event : AuditEvent}
  {uid requestHash : String} {snapshot : ActivationSnapshot}

/-- From the commitment on, with its arguments computed from the state. -/
theorem issueActivation_leaves (hsnapshot : (env 3 : Env).fails = none)
    (hissued : call.issued app s.db = some (stored.brandId, buildAssetCommitmentRecord app.crypto
      stored.brandId uid snapshot.keyEpoch.toUInt32 call.payload.externalProductId
      call.payload.externalProductName call.payload.externalProductUrl snapshot.batchId)) :
    Leaves [call.commitmentWrite app env, call.bindWrite app env, call.brandWrite app env,
      call.platformWrite app env] (fun n => env (n + 4)) s
      (issueActivation app call.draws call.assetId stored next event requestHash uid snapshot
        call.payload) := by
  unfold issueActivation
  refine leaves_write (commitmentWrite_attempt hsnapshot hissued) rfl rfl fun db h => ?_
  have hdb : call.issued app db = call.issued app s.db := by
    obtain ⟨commitments, rfl⟩ := commitmentWrite_leaves h
    exact issued_congr rfl
  rw [hissued] at hdb
  refine leaves_write (bindWrite_attempt hdb) rfl rfl fun db₂ h => ?_
  have hdb₂ : call.issued app db₂ = call.issued app db := by
    obtain ⟨commitmentId, rfl⟩ := bindWrite_leaves h
    exact issued_updateAsset fun _ => rfl
  rw [hdb] at hdb₂
  split
  · next err hkey => exact leaves_refused (brandWrite_refused (brandRecord_none hkey))
  next brandKeyId brandKey hkey =>
  refine leaves_write (brandWrite_attempt (brandRecord_some hdb₂ hkey)) rfl rfl fun db₃ h => ?_
  have hdb₃ : call.issued app db₃ = call.issued app db₂ := by
    obtain ⟨table, rfl⟩ := brandWrite_leaves h
    exact issued_congr rfl
  rw [hdb₂] at hdb₃
  split
  · next err hkey => exact leaves_refused (platformWrite_refused (platformRecord_none hkey))
  next platformId platformKeyId platformKey hkey =>
  refine leaves_write (platformWrite_attempt (platformRecord_some hdb₃ hkey)) rfl rfl
    fun _ _ => ?_
  exact leaves_last (fun _ herr => command_failed herr) fun _ => ⟨_, rfl⟩

end Stages

/-- Every error of the handler leaves its writes where something stopped them. -/
theorem handle_leaves (app : AppState) (call : ActivateCall) (env : Nat → machine.Env)
    (s : Store) : Leaves (call.writes app env) env s (call.handle app) := by
  unfold handle activateAsset
  split
  · next hproduct =>
    exact leaves_refused (mappingWrite_refused fun _ _ h => h.product hproduct)
  next hproduct =>
  split
  · next err hheaders =>
    apply leaves_refused
    apply mappingWrite_refused
    intro required stored h
    cases hheaders.symm.trans h.headers
  next required hheaders =>
  have hkey : ∀ {required' stored}, call.Admitted env s.db required' stored →
      required' = required := fun h => Except.ok.inj (h.headers.symm.trans hheaders)
  refine leaves_other (query_state _) (fun record hrecord => ?_) fun err herr =>
    .refused (mappingWrite_refused fun _ _ h => query_failed herr h.lookup)
  obtain ⟨hlookup, hselect⟩ := query_answered hrecord
  cases record with
  | some record =>
      have hknown := @mappingWrite_refused call env s.db fun _ _ h => by
        obtain rfl := hkey h
        cases h.unknown.symm.trans hselect
      simp only
      split
      · exact leaves_refused hknown
      · exact leaves_refused hknown
  | none =>
  refine leaves_other (query_state _) (fun stored hstored => ?_) fun err herr =>
    .refused (mappingWrite_refused fun _ _ h => by
      cases (query_missing herr h.fetch).symm.trans h.fetched)
  obtain ⟨hfetch, hfetched⟩ := query_found hstored
  have hrecord : ∀ {required' stored'}, call.Admitted env s.db required' stored' →
      stored' = stored := fun h => Option.some.inj (h.fetched.symm.trans hfetched)
  split
  · next err hboundary =>
    apply leaves_refused
    apply mappingWrite_refused
    intro required' stored' h
    obtain rfl := hrecord h
    cases hboundary.symm.trans h.boundary
  next hboundary =>
  simp only
  split
  · next err happly =>
    apply leaves_refused
    apply mappingWrite_refused
    intro required' stored' h
    obtain rfl := hrecord h
    obtain rfl := hkey h
    obtain ⟨next, hnext⟩ := h.applied
    cases happly.symm.trans hnext
  next nextRecord event happly =>
  have hadmitted : call.Admitted env s.db required stored :=
    ⟨hproduct, hheaders, hlookup, hselect, hfetch, hfetched, hboundary, _, happly⟩
  refine leaves_write (mappingWrite_attempt hadmitted) rfl rfl fun db h => ?_
  refine leaves_other (query_state _) (fun snapshot hsnapshot => ?_) fun err herr =>
    .refused (commitmentWrite_refused ?_)
  · obtain ⟨hfails, hread⟩ := query_found hsnapshot
    obtain ⟨row, hrow, rfl⟩ := Option.map_eq_some_iff.mp hread
    split
    · next huid =>
      refine leaves_refused (commitmentWrite_refused (.inr (issued_none fun row' hrow' => ?_)))
      obtain rfl := Option.some.inj (hrow.symm.trans hrow')
      exact huid
    next uid huid =>
    apply issueActivation_leaves hfails
    rw [stored_brandId (mappingWrite_leaves h) hfetched hrow]
    exact issued_row hrow huid
  · by_cases hfails : (env 3 : Env).fails.isSome = true
    · exact .inl hfails
    · refine .inr (issued_none fun row hrow => ?_)
      have hnone := query_missing herr (by simpa using hfails)
      cases (Option.map_eq_none_iff.mp hnone).symm.trans hrow

theorem parts_asBefore {env : Nat → Env} (h : AsBefore call.assetId db db') :
    ∀ w ∈ call.writes app env, w.part db' = w.part db := by
  intro w hw
  simp only [writes, List.mem_cons, List.not_mem_nil, or_false] at hw
  obtain rfl | rfl | rfl | rfl | rfl := hw
  · exact congrArg (Option.map AssetRow.mapping) h.asset
  · exact h.commitments
  · exact congrArg (Option.map AssetRow.assetCommitmentId) h.asset
  · exact h.brandAttestations
  · exact h.platformAttestations

/-- An activation that ends in an error has left the asset and what is issued for it as
they were exactly where each write, up to the first that something stopped, found what
it writes already there. -/
theorem activate_atomic_iff (app : AppState) (call : ActivateCall) (env : Nat → machine.Env)
    (s : Store) (h : (machine.run (call.handle app) env s).answer.status ≠ 200) :
    AsBefore call.assetId s.db (machine.run (call.handle app) env s).state.db ↔
      Spared (call.writes app env) s.db := by
  have hstops := call.handle_leaves app env s h
  constructor
  · intro hbefore
    exact hstops.spared writes_apart (parts_asBefore hbefore)
  · intro hspared
    rw [hstops.eq_of_spared hspared]
    exact ⟨rfl, rfl, rfl, rfl⟩

end ActivateCall

section Sample

/-- An asset that waits for its activation and was never given a UID. -/
def unlabelledStore (productId : Option String) : Store where
  db :=
    { brands := ["brand"]
      assets := .single
          { assetId := "a", brandId := "brand", currentState := .unassigned,
            externalProductId := productId } }

def activation : ActivateCall where
  assetId := "a"
  actor := { actorId := "clerk", actorRole := .brand, brandId := some "brand" }
  headers := .ofList
    [("X-Trace-Id", "11111111-1111-1111-1111-111111111111"), ("X-Idempotency-Key", "k")]
  payload := { externalProductId := "sku" }
  draws := { eventId := .repeated 1 }

theorem activate_atomic_iff_retried :
    AsBefore "a" (unlabelledStore (some "sku")).db
      (machine.run (activation.handle default) (fun _ => {}) (unlabelledStore (some "sku"))).state.db := by
  refine (activation.activate_atomic_iff default (fun _ => {}) (unlabelledStore (some "sku"))
    (by decide +kernel)).mpr (.inr ⟨fun _ _ r hr => ?_, .inl rfl⟩)
  obtain rfl := Option.some.inj hr
  rfl

/-- The asset has no UID, and its mapping is set all the same. -/
theorem refused_activation_maps :
    ¬∀ (app : AppState) (call : ActivateCall) (env : Nat → machine.Env) (s : Store),
      (machine.run (call.handle app) env s).answer.status ≠ 200 →
        AsBefore call.assetId s.db (machine.run (call.handle app) env s).state.db := by
  intro hall
  have hbefore := (hall default activation (fun _ => {}) (unlabelledStore none)
    (by decide +kernel)).asset
  have hmapped : ((machine.run (activation.handle default) (fun _ => {})
      (unlabelledStore none)).state.db.asset "a").bind AssetRow.externalProductId = some "sku" := by
    decide +kernel
  rw [show activation.assetId = "a" from rfl] at hbefore
  rw [hbefore] at hmapped
  cases hmapped

end Sample

end RcProtocol
