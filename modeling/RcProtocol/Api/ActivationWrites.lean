import RcProtocol.Api.Effects
import RcProtocol.Api.ProtocolWrite
import RcProtocol.Library.Autocommit

/-!
The writes of `activate_asset` before its transaction, each committed by itself: what
refuses it, what it changes, and when that is there already. A failure of the database
is told by the number of the handler's call.
-/

namespace RcProtocol
open Library

/-- What the product mapping sets in the row of the asset. -/
def AssetRow.mapping (r : AssetRow) : Option String × Option String × Option String :=
  (r.externalProductId, r.externalProductName, r.externalProductUrl)

/-- What is issued for an asset is computed from these columns of its row. -/
def AssetRow.issueInputs (r : AssetRow) : String × Option String × Int32 × Option String :=
  (r.brandId, r.uid, r.keyEpoch, r.batchId)

/-- The commitment has its attestation of this kind. -/
def HasAttestation (table : Table AttestationRecord) (record : AttestationRecord) : Prop :=
  ∃ a ∈ table.rows,
    a.assetCommitmentId = record.assetCommitmentId ∧ a.statement = record.statement

theorem insertAttestation_own {table table' : Table AttestationRecord} {record : AttestationRecord}
    (h : Db.insertAttestation table record = .ok table') (hsame : table' = table) :
    HasAttestation table record := by
  unfold Db.insertAttestation at h
  split at h
  · next a ha => exact ⟨a, Table.mem_of_find ha, by simpa using Table.prop_of_find ha⟩
  · next hnone =>
    cases hi : table.insert record with
    | none => rw [hi] at h; cases h
    | some t =>
        rw [hi] at h
        obtain rfl := Except.ok.inj h
        have hrows := Table.rows_insert hi
        rw [hsame, List.self_eq_append_right] at hrows
        cases hrows

theorem insertAttestation_idle {table table' : Table AttestationRecord} {record : AttestationRecord}
    (h : Db.insertAttestation table record = .ok table') (hrow : HasAttestation table record) :
    table' = table := by
  unfold Db.insertAttestation at h
  split at h
  · exact (Except.ok.inj h).symm
  · next hnone =>
    obtain ⟨a, ha, hmatch⟩ := hrow
    have hno := Table.find_eq_none.mp hnone a ha
    simp [hmatch] at hno

/-- The database after one answered statement, unless it fails or the world does. -/
def answered (env : Env) (r : Except String (Unit × Db)) : Option Db :=
  if env.fails.isSome then none else r.toOption.map Prod.snd

theorem answered_ok {env : Env} {r : Except String (Unit × Db)} {db : Db}
    (h : answered env r = some db) : r = .ok ((), db) := by
  unfold answered at h
  split at h
  · cases h
  · cases r with
    | error e => cases h
    | ok a =>
        obtain rfl := Option.some.inj h
        rfl

section Commands
variable {s : Store} {e : Env} {c : Db → Except String (Unit × Db)}

theorem command_refused (h : answered e (c s.db) = none) :
    (∃ err, orDatabase (command e s c).1 = .error err) ∧ (command e s c).2 = s := by
  unfold command
  cases hf : e.fails with
  | some msg => exact ⟨⟨_, rfl⟩, rfl⟩
  | none =>
      cases hc : c s.db with
      | error msg => exact ⟨⟨_, rfl⟩, rfl⟩
      | ok a =>
          rw [answered, hf, hc] at h
          cases h

theorem command_answered {db : Db} (h : answered e (c s.db) = some db) :
    orDatabase (command e s c).1 = .ok () ∧ (command e s c).2 = { s with db := db } := by
  have hc := answered_ok h
  unfold command
  cases hf : e.fails with
  | some msg =>
      rw [answered, hf] at h
      cases h
  | none =>
      rw [hc]
      exact ⟨rfl, rfl⟩

theorem command_failed {err : RcError} (h : orDatabase (command e s c).1 = .error err) :
    (command e s c).2 = s := by
  unfold command at h ⊢
  cases hf : e.fails with
  | some msg => rfl
  | none =>
      cases hc : c s.db with
      | error msg => rfl
      | ok a =>
          simp only [hf, hc] at h
          cases h

variable {α β : Type} {q : Db → α} {r : Db → Option β} {missing : RcError}

theorem query_answered {a : α} (h : orDatabase (query e s q).1 = .ok a) :
    e.fails = none ∧ q s.db = a := by
  unfold query at h
  cases hf : e.fails with
  | some msg => simp only [hf] at h; cases h
  | none =>
      simp only [hf] at h
      exact ⟨rfl, Except.ok.inj h⟩

theorem query_failed {err : RcError} (h : orDatabase (query e s q).1 = .error err) :
    e.fails ≠ none := by
  intro hf
  simp only [query, hf] at h
  cases h

theorem query_found {b : β} (h : found missing (query e s r).1 = .ok b) :
    e.fails = none ∧ r s.db = some b := by
  unfold query at h
  cases hf : e.fails with
  | some msg => simp only [hf] at h; cases h
  | none =>
      cases hr : r s.db with
      | none => simp only [hf, hr] at h; cases h
      | some b' =>
          simp only [hf, hr] at h
          obtain rfl := Except.ok.inj h
          exact ⟨rfl, rfl⟩

theorem query_missing {err : RcError} (h : found missing (query e s r).1 = .error err) :
    e.fails = none → r s.db = none := by
  intro hf
  cases hr : r s.db with
  | none => rfl
  | some b =>
      simp only [query, hf, hr] at h
      cases h

end Commands

/-- A statement as a write: its arguments come from the state, or a check before it
refuses. -/
def statementWrite {α Part : Type} (env : Env) (prepare : Db → Option α)
    (statement : α → Db → Except String (Unit × Db)) (part : Db → Part)
    (Present : α → Db → Prop)
    (own : ∀ {a db db'}, statement a db = .ok ((), db') → part db' = part db → Present a db)
    (idle : ∀ {a db db'}, statement a db = .ok ((), db') → Present a db → db' = db) : Write Db where
  attempt db := (prepare db).bind fun a => answered env (statement a db)
  Part := Part
  part := part
  Present db := ∀ a, prepare db = some a → Present a db
  own := by
    intro db db' h hpart a ha
    obtain ⟨a', ha', hanswered⟩ := Option.bind_eq_some_iff.mp h
    obtain rfl := Option.some.inj (ha.symm.trans ha')
    exact own (answered_ok hanswered) hpart
  idle := by
    intro db db' h hpresent
    obtain ⟨a, ha, hanswered⟩ := Option.bind_eq_some_iff.mp h
    exact idle (answered_ok hanswered) (hpresent a ha)

/-- An update of the asset's row as a write: it sets one group of columns. -/
def updateWrite {α β : Type} (env : Env) (prepare : Db → Option α) (assetId : String)
    (set : α → AssetRow → AssetRow) (hset : ∀ a r, Keyed.key (set a r) = Keyed.key r)
    (columns : AssetRow → β) (value : α → β) (hvalue : ∀ a r, columns (set a r) = value a)
    (hidle : ∀ a r, columns r = value a → set a r = r) : Write Db :=
  statementWrite env prepare
    (fun a db => .ok ((), db.updateAsset assetId (set a) (hset a)))
    (fun db => (db.asset assetId).map columns)
    (fun a db => ∀ r, db.asset assetId = some r → columns r = value a)
    (by
      intro a db db' h hpart r hr
      obtain rfl := (Prod.mk.inj (Except.ok.inj h)).2
      rw [Db.asset_updateAsset, hr, Option.map_some, Option.map_some] at hpart
      exact (Option.some.inj hpart).symm.trans (hvalue a r))
    (by
      intro a db db' h hpresent
      obtain rfl := (Prod.mk.inj (Except.ok.inj h)).2
      apply Db.updateAsset_eq_self
      intro r hr
      exact hidle a r (hpresent r hr))

/-- The insert of an attestation as a write. -/
def attestationWrite (env : Env) (prepare : Db → Option AttestationRecord)
    (statement : AttestationRecord → Db → Except String (Unit × Db))
    (table : Db → Table AttestationRecord)
    (hinsert : ∀ {record db db'}, statement record db = .ok ((), db') →
      Db.insertAttestation (table db) record = .ok (table db'))
    (hidle : ∀ {record db db'}, statement record db = .ok ((), db') → table db' = table db →
      db' = db) : Write Db :=
  statementWrite env prepare statement table (fun record db => HasAttestation (table db) record)
    (fun h hpart => insertAttestation_own (hinsert h) hpart)
    (fun h hpresent => hidle h (insertAttestation_idle (hinsert h) hpresent))

/-- A request to `activate_asset`. -/
structure ActivateCall where
  assetId : String
  actor : ActorContext
  headers : HeaderMap
  payload : ActivateRequest
  draws : Draws

namespace ActivateCall
variable (app : AppState) (call : ActivateCall) (env : Nat → Env)

def handle : Service Reply :=
  activateAsset app call.draws call.assetId call.actor call.headers call.payload

/-- Nothing stops the request before its first write. -/
def admits (db : Db) : Bool :=
  call.payload.externalProductId ≠ "" &&
    match parseRequiredHeaders call.headers with
    | .error _ => false
    | .ok required =>
        (env 0).fails.isNone && (db.selectIdempotencyRecord required.idempotencyKey).isNone &&
          (env 1).fails.isNone &&
            match db.selectAssetRecord call.assetId with
            | none => false
            | some stored =>
                (checkBrandBoundary call.actor stored.brandId).isOk &&
                  (applyAction stored .activateRotateKeys
                    (RcProtocol.auditContext call.actor required none) call.draws.eventId).isOk

/-- The brand of the asset, and the commitment to it. -/
def issued (db : Db) : Option (String × AssetCommitmentRecord) :=
  ((db.asset call.assetId).map AssetRow.issueInputs).bind fun (brandId, uid, keyEpoch, batchId) =>
    uid.map fun uid =>
      (brandId, buildAssetCommitmentRecord app.crypto brandId uid keyEpoch.toUInt32
        call.payload.externalProductId call.payload.externalProductName
        call.payload.externalProductUrl batchId)

def brandRecord (db : Db) : Option AttestationRecord :=
  (call.issued app db).bind fun (brandId, commitment) =>
    (loadBrandSigningKey app.crypto app.env).toOption.map fun (keyId, key) =>
      brandAttestation.buildRecord app.crypto brandId commitment.commitmentId call.draws.now
        keyId key

def platformRecord (db : Db) : Option AttestationRecord :=
  (call.issued app db).bind fun (_, commitment) =>
    (loadPlatformSigningKey app.crypto app.env).toOption.map fun (platformId, keyId, key) =>
      platformAttestation.buildRecord app.crypto platformId commitment.commitmentId
        call.draws.now keyId key

def mappingWrite : Write Db :=
  updateWrite (env 2) (fun db => if call.admits env db then some () else none) call.assetId
    (fun _ r =>
      { r with
        externalProductId := some call.payload.externalProductId
        externalProductName := call.payload.externalProductName
        externalProductUrl := call.payload.externalProductUrl })
    (fun _ _ => rfl) AssetRow.mapping
    (fun _ => (some call.payload.externalProductId, call.payload.externalProductName,
      call.payload.externalProductUrl))
    (fun _ _ => rfl) (fun _ r h => by cases r; cases h; rfl)

def commitmentWrite : Write Db :=
  statementWrite (env 4)
    (fun db => if (env 3).fails.isSome then none else (call.issued app db).map Prod.snd)
    (fun record db => db.insertAssetCommitment record) (fun db => db.commitments)
    (fun record db => ∃ r ∈ db.commitments.rows, r.commitmentId = record.commitmentId)
    (fun h hpart => by
      rw [insertAssetCommitment_ok h] at hpart
      exact Table.clash_of_insert_getD hpart)
    (fun h hpresent => by
      rw [insertAssetCommitment_ok h, Table.insert_eq_none.mpr hpresent]
      rfl)

def bindWrite : Write Db :=
  updateWrite (env 5) (fun db => (call.issued app db).map Prod.snd) call.assetId
    (fun record r => { r with assetCommitmentId := some record.commitmentId }) (fun _ _ => rfl)
    AssetRow.assetCommitmentId (fun record => some record.commitmentId) (fun _ _ => rfl)
    (fun _ r h => by cases r; cases h; rfl)

def brandWrite : Write Db :=
  attestationWrite (env 6) (call.brandRecord app) (fun record db => db.insertBrandAttestation record)
    (fun db => db.brandAttestations)
    (fun h => by
      obtain ⟨table, htable, rfl⟩ := insertBrandAttestation_ok h
      exact htable)
    (fun h hsame => by
      obtain ⟨table, -, rfl⟩ := insertBrandAttestation_ok h
      rw [show table = _ from hsame])

def platformWrite : Write Db :=
  attestationWrite (env 7) (call.platformRecord app)
    (fun record db => db.insertPlatformAttestation record) (fun db => db.platformAttestations)
    (fun h => by
      obtain ⟨table, htable, rfl⟩ := insertPlatformAttestation_ok h
      exact htable)
    (fun h hsame => by
      obtain ⟨table, -, rfl⟩ := insertPlatformAttestation_ok h
      rw [show table = _ from hsame])

/-- In the order of the handler. -/
def writes : List (Write Db) :=
  [call.mappingWrite env, call.commitmentWrite app env, call.bindWrite app env,
    call.brandWrite app env, call.platformWrite app env]

variable {app : AppState} {call : ActivateCall} {env : Nat → Env} {db db' : Db}

/-- What the checks before the first write have found. -/
structure Admitted (call : ActivateCall) (env : Nat → Env) (db : Db) (required : RequiredHeaders)
    (stored : AssetRecord) : Prop where
  product : call.payload.externalProductId ≠ ""
  headers : parseRequiredHeaders call.headers = .ok required
  lookup : (env 0).fails = none
  unknown : db.selectIdempotencyRecord required.idempotencyKey = none
  fetch : (env 1).fails = none
  fetched : db.selectAssetRecord call.assetId = some stored
  boundary : checkBrandBoundary call.actor stored.brandId = .ok ()
  applied : ∃ next, applyAction stored .activateRotateKeys
    (RcProtocol.auditContext call.actor required none) call.draws.eventId = .ok next

theorem admits_iff :
    call.admits env db = true ↔ ∃ required stored, call.Admitted env db required stored := by
  constructor
  · intro h
    unfold admits at h
    simp only [Bool.and_eq_true, decide_eq_true_eq] at h
    obtain ⟨hproduct, h⟩ := h
    split at h
    · cases h
    next required hheaders =>
    simp only [Bool.and_eq_true, Option.isNone_iff_eq_none] at h
    obtain ⟨⟨⟨hlookup, hunknown⟩, hfetch⟩, h⟩ := h
    split at h
    · cases h
    next stored hstored =>
    simp only [Bool.and_eq_true] at h
    refine ⟨required, stored, hproduct, hheaders, hlookup, hunknown, hfetch, hstored, ?_, ?_⟩
    · cases hb : checkBrandBoundary call.actor stored.brandId with
      | error e => rw [hb] at h; cases h.1
      | ok _ => rfl
    · cases ha : applyAction stored .activateRotateKeys
          (RcProtocol.auditContext call.actor required none) call.draws.eventId with
      | error e => rw [ha] at h; cases h.2
      | ok next => exact ⟨next, rfl⟩
  · intro ⟨required, stored, h⟩
    obtain ⟨next, hnext⟩ := h.applied
    simp [admits, h.product, h.headers, h.lookup, h.unknown, h.fetch, h.fetched, h.boundary, hnext,
      Except.isOk, Except.toBool]

theorem brandRecord_some {brandId keyId : String} {key : Bytes 32}
    {commitment : AssetCommitmentRecord} (h : call.issued app db = some (brandId, commitment))
    (hkey : loadBrandSigningKey app.crypto app.env = .ok (keyId, key)) :
    call.brandRecord app db = some (brandAttestation.buildRecord app.crypto brandId
      commitment.commitmentId call.draws.now keyId key) := by
  rw [brandRecord, h, hkey]
  rfl

theorem brandRecord_none {err : RcError}
    (hkey : loadBrandSigningKey app.crypto app.env = .error err) :
    call.brandRecord app db = none := by
  rw [brandRecord, hkey]
  exact Option.bind_fun_none _

theorem platformRecord_some {brandId platformId keyId : String} {key : Bytes 32}
    {commitment : AssetCommitmentRecord} (h : call.issued app db = some (brandId, commitment))
    (hkey : loadPlatformSigningKey app.crypto app.env = .ok (platformId, keyId, key)) :
    call.platformRecord app db = some (platformAttestation.buildRecord app.crypto platformId
      commitment.commitmentId call.draws.now keyId key) := by
  rw [platformRecord, h, hkey]
  rfl

theorem platformRecord_none {err : RcError}
    (hkey : loadPlatformSigningKey app.crypto app.env = .error err) :
    call.platformRecord app db = none := by
  rw [platformRecord, hkey]
  exact Option.bind_fun_none _

theorem mappingWrite_attempt {required : RequiredHeaders} {stored : AssetRecord}
    (h : call.Admitted env db required stored) :
    (call.mappingWrite env).attempt db =
      answered (env 2) (.ok ((), db.updateProductMapping call.assetId
        call.payload.externalProductId call.payload.externalProductName
        call.payload.externalProductUrl)) :=
  congrArg (Option.bind · _) (if_pos (admits_iff.mpr ⟨required, stored, h⟩))

theorem mappingWrite_refused (h : ∀ required stored, ¬call.Admitted env db required stored) :
    (call.mappingWrite env).attempt db = none := by
  have hprepare : (if call.admits env db then some () else none) = none := by
    rw [if_neg]
    intro hadmits
    obtain ⟨required, stored, hadmitted⟩ := admits_iff.mp hadmits
    exact h required stored hadmitted
  exact congrArg (Option.bind · _) hprepare

theorem commitmentWrite_attempt {i : String × AssetCommitmentRecord}
    (hsnapshot : (env 3).fails = none) (h : call.issued app db = some i) :
    (call.commitmentWrite app env).attempt db =
      answered (env 4) (db.insertAssetCommitment i.2) := by
  have hprepare : (if (env 3).fails.isSome then none
      else (call.issued app db).map Prod.snd) = some i.2 := by
    rw [hsnapshot, h]
    rfl
  exact congrArg (Option.bind · _) hprepare

theorem commitmentWrite_refused
    (h : (env 3).fails.isSome = true ∨ call.issued app db = none) :
    (call.commitmentWrite app env).attempt db = none := by
  have hprepare : (if (env 3).fails.isSome then none
      else (call.issued app db).map Prod.snd) = none := by
    obtain h | h := h
    · exact if_pos h
    · rw [h]
      exact ite_self _
  exact congrArg (Option.bind · _) hprepare

theorem bindWrite_attempt {i : String × AssetCommitmentRecord} (h : call.issued app db = some i) :
    (call.bindWrite app env).attempt db =
      answered (env 5) (.ok ((), db.bindAssetCommitment call.assetId i.2.commitmentId)) :=
  congrArg (Option.bind · _) (congrArg (Option.map Prod.snd) h)

theorem brandWrite_attempt {record : AttestationRecord}
    (h : call.brandRecord app db = some record) :
    (call.brandWrite app env).attempt db = answered (env 6) (db.insertBrandAttestation record) :=
  congrArg (Option.bind · _) h

theorem brandWrite_refused (h : call.brandRecord app db = none) :
    (call.brandWrite app env).attempt db = none :=
  congrArg (Option.bind · _) h

theorem platformWrite_attempt {record : AttestationRecord}
    (h : call.platformRecord app db = some record) :
    (call.platformWrite app env).attempt db =
      answered (env 7) (db.insertPlatformAttestation record) :=
  congrArg (Option.bind · _) h

theorem platformWrite_refused (h : call.platformRecord app db = none) :
    (call.platformWrite app env).attempt db = none :=
  congrArg (Option.bind · _) h

theorem mappingWrite_leaves (h : (call.mappingWrite env).attempt db = some db') :
    db' = db.updateProductMapping call.assetId call.payload.externalProductId
      call.payload.externalProductName call.payload.externalProductUrl := by
  obtain ⟨_, -, hdb⟩ := Option.bind_eq_some_iff.mp h
  exact (Prod.mk.inj (Except.ok.inj (answered_ok hdb))).2.symm

theorem commitmentWrite_leaves (h : (call.commitmentWrite app env).attempt db = some db') :
    ∃ commitments, db' = { db with commitments := commitments } := by
  obtain ⟨record, -, hdb⟩ := Option.bind_eq_some_iff.mp h
  exact ⟨_, insertAssetCommitment_ok (answered_ok hdb)⟩

theorem bindWrite_leaves (h : (call.bindWrite app env).attempt db = some db') :
    ∃ commitmentId, db' = db.bindAssetCommitment call.assetId commitmentId := by
  obtain ⟨record, -, hdb⟩ := Option.bind_eq_some_iff.mp h
  exact ⟨_, (Prod.mk.inj (Except.ok.inj (answered_ok hdb))).2.symm⟩

theorem brandWrite_leaves (h : (call.brandWrite app env).attempt db = some db') :
    ∃ table, db' = { db with brandAttestations := table } := by
  obtain ⟨record, -, hdb⟩ := Option.bind_eq_some_iff.mp h
  obtain ⟨table, -, hdb⟩ := insertBrandAttestation_ok (answered_ok hdb)
  exact ⟨table, hdb⟩

theorem platformWrite_leaves (h : (call.platformWrite app env).attempt db = some db') :
    ∃ table, db' = { db with platformAttestations := table } := by
  obtain ⟨record, -, hdb⟩ := Option.bind_eq_some_iff.mp h
  obtain ⟨table, -, hdb⟩ := insertPlatformAttestation_ok (answered_ok hdb)
  exact ⟨table, hdb⟩

/-- The two updates of the asset's row set different columns. -/
theorem mappingWrite_apart_bind : (call.mappingWrite env).Apart (call.bindWrite app env) := by
  intro db db' h
  obtain ⟨commitmentId, rfl⟩ := bindWrite_leaves h
  show ((db.bindAssetCommitment call.assetId commitmentId).asset call.assetId).map _ =
    (db.asset call.assetId).map _
  rw [Db.bindAssetCommitment, Db.asset_updateAsset, Option.map_map]
  rfl

theorem writes_apart : (call.writes app env).Pairwise Write.Apart := by
  have hcommitment : ∀ w : Write Db, (∀ db commitments, w.part { db with commitments := commitments } =
      w.part db) → w.Apart (call.commitmentWrite app env) := by
    intro w hw db db' h
    obtain ⟨commitments, rfl⟩ := commitmentWrite_leaves h
    exact hw db commitments
  have hbrand : ∀ w : Write Db, (∀ db table, w.part { db with brandAttestations := table } =
      w.part db) → w.Apart (call.brandWrite app env) := by
    intro w hw db db' h
    obtain ⟨table, rfl⟩ := brandWrite_leaves h
    exact hw db table
  have hplatform : ∀ w : Write Db, (∀ db table, w.part { db with platformAttestations := table } =
      w.part db) → w.Apart (call.platformWrite app env) := by
    intro w hw db db' h
    obtain ⟨table, rfl⟩ := platformWrite_leaves h
    exact hw db table
  have hbind : (call.commitmentWrite app env).Apart (call.bindWrite app env) := by
    intro db db' h
    obtain ⟨commitmentId, rfl⟩ := bindWrite_leaves h
    rfl
  simp only [writes, List.pairwise_cons, List.mem_cons, List.not_mem_nil, or_false, forall_eq_or_imp,
    forall_eq, false_imp_iff, implies_true, List.Pairwise.nil, and_true]
  exact ⟨⟨hcommitment _ fun _ _ => rfl, mappingWrite_apart_bind, hbrand _ fun _ _ => rfl,
      hplatform _ fun _ _ => rfl⟩,
    ⟨hbind, hbrand _ fun _ _ => rfl, hplatform _ fun _ _ => rfl⟩,
    ⟨hbrand _ fun _ _ => rfl, hplatform _ fun _ _ => rfl⟩, hplatform _ fun _ _ => rfl⟩

end ActivateCall

end RcProtocol
