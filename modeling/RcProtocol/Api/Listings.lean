import RcProtocol.Api.AssetDetail
import RcProtocol.Api.Transfer
import RcProtocol.Library.Paging

/-!
The reads of batches and assets (routes/batch.rs, routes/assets.rs and the statements
they run). Each handler states the tenant rule in its own way.
-/

namespace RcProtocol
open Library

structure Batch where
  batchId : String
  brandId : String
  batchName : Option String := none
  factoryId : Option String := none
  status : String := "Open"
  expectedCount : Option Int32 := none
  actualCount : Int32 := 0
  createdAt : String
  closedAt : Option String := none
  deriving DecidableEq

instance : Keyed Batch where
  Key := String
  key b := b.batchId
  Clash a b := a = b
  decClash _ _ := inferInstanceAs (Decidable (_ = _))
  symm h := h.symm

/-- What the reads of one request see, batches and the times of events included. -/
structure Catalogue extends Snapshot where
  batches : Table Batch := .empty
  occurredAt : Uuid → String := fun _ => ""

/-- The statements of the six handlers. -/
inductive ReadQuery where
  | batch | countBatches | batches | countAssets | assets | history
  | brandAttestation | platformAttestation
  | detail (assetId : String) (q : Query)
  deriving DecidableEq

/-- A product of two i64 values. -/
def mulI64 (a b : Int) : Int := (a * b).bmod (2 ^ 64)

structure PaginationParams where
  page : Option Int := none
  pageSize : Option Int := none

namespace PaginationParams
variable (params : PaginationParams)

def getPageSize : Int := max 1 (min 100 (params.pageSize.getD 20))

def getPage : Int := max 1 (params.page.getD 1)

def offset : Int := mulI64 (params.getPage - 1) params.getPageSize

end PaginationParams

structure AssetListQuery extends PaginationParams where
  brandId : Option String := none
  batchId : Option String := none
  currentState : Option String := none

structure PaginatedResponse (α : Type) where
  items : List α
  total : Nat
  page : Int
  pageSize : Int

structure AssetStateEvent where
  eventId : String
  assetId : String
  action : AssetAction
  fromState : Option AssetState
  toState : AssetState
  actorId : String
  actorRole : ActorRole
  traceId : String
  occurredAt : String
  deriving DecidableEq

structure AssetHistoryResponse where
  assetId : String
  events : List AssetStateEvent
  total : Nat

structure AttestationRecordResponse where
  attestationId : String
  version : String
  statement : String
  keyId : String
  issuedAt : String
  signature : String
  canonicalPayload : Json

def AttestationRecord.response (r : AttestationRecord) : AttestationRecordResponse :=
  ⟨r.attestationId, r.version, r.statement, r.keyId, r.issuedAt, r.signature, r.canonicalPayload⟩

structure AssetAttestationsResponse where
  assetId : String
  assetCommitmentId : Option String
  brandAttestationStatus : Option String
  platformAttestationStatus : Option String
  brandAttestation : Option AttestationRecordResponse
  platformAttestation : Option AttestationRecordResponse

def EventRow.stateEvent (r : EventRow) (occurredAt : String) : AssetStateEvent where
  eventId := r.eventId.display
  assetId := r.assetId
  action := r.action
  fromState := r.fromState
  toState := r.toState
  actorId := r.actorId
  actorRole := r.actorRole
  traceId := r.traceId.display
  occurredAt := occurredAt

section Statements
variable (fails : ReadQuery → Option String) (s : Catalogue)

def runQuery {α : Type} (q : ReadQuery) (a : α) : Except RcError α :=
  match fails q with
  | some e => .error (.database e)
  | none => .ok a

/-- `ORDER BY created_at DESC LIMIT … OFFSET …`. -/
def selectPage {α : Type} (q : ReadQuery) (limit offset : Int) (rows : List α) :
    Except RcError (List α) :=
  if offset < 0 then .error (.database "OFFSET must not be negative")
  else runQuery fails q (slice limit.toNat offset.toNat rows.reverse)

def fetchBatch (batchId : String) : Except RcError Batch := do
  match ← runQuery fails .batch (s.batches.find (·.batchId = batchId)) with
  | some batch => .ok batch
  | none => .error .assetNotFound

def Catalogue.batchesOf (brandId : Option String) : List Batch :=
  s.batches.rows.filter fun b => brandId.all (b.brandId = ·)

def selectBatches (brandId : Option String) (limit offset : Int) :
    Except RcError (List Batch × Nat) := do
  let total ← runQuery fails .countBatches (s.batchesOf brandId).length
  let rows ← selectPage fails .batches limit offset (s.batchesOf brandId)
  .ok (rows, total)

/-- The conditions on the three columns, each where its argument is given. -/
def AssetRow.meets (brandId batchId currentState : Option String) (r : AssetRow) : Bool :=
  brandId.all (r.brandId = ·) && batchId.all (r.batchId = some ·) &&
    currentState.all (r.currentState.asDbStr = ·)

/-- One item of the list; none where the uid is missing and reading the column panics. -/
def listedAsset (row : AssetRow) : Except RcError (Option AssetDetail) := do
  let fails q := fails (.detail row.assetId q)
  let payload ← fetchAssetCommitmentPayload fails s.toSnapshot row.assetCommitmentId
  let statuses ← fetchAttestationStatuses fails s.toSnapshot row.assetCommitmentId
  let card ← fetchVirtualMotherCardDetail fails s.toSnapshot row.assetId
  .ok (row.uid.map fun uid =>
    { assetId := row.assetId
      uid := uid
      brandId := row.brandId
      batchId := row.batchId
      externalProductId := row.externalProductId
      externalProductName := row.externalProductName
      externalProductUrl := row.externalProductUrl
      assetCommitmentId := row.assetCommitmentId
      assetCommitmentPayload := payload
      brandAttestationStatus := statuses.1
      platformAttestationStatus := statuses.2
      currentState := row.currentState
      previousState := row.previousState
      ownerId := row.ownerId
      keyEpoch := row.keyEpoch
      times := s.times row.assetId
      virtualMotherCard := card })

def listedAssets : List AssetRow → Except RcError (Option (List AssetDetail))
  | [] => .ok (some [])
  | row :: rows => do
      match ← listedAsset fails s row with
      | none => .ok none
      | some item => (listedAssets rows).map (Option.map (item :: ·))

def Catalogue.assetsOf (brandId batchId currentState : Option String) : List AssetRow :=
  s.db.assets.rows.filter (AssetRow.meets brandId batchId currentState)

def selectAssets (brandId batchId currentState : Option String) (limit offset : Int) :
    Except RcError (Option (List AssetDetail × Nat)) := do
  let rows := s.assetsOf brandId batchId currentState
  let total ← runQuery fails .countAssets rows.length
  let page ← selectPage fails .assets limit offset rows
  (listedAssets fails s page).map (Option.map (·, total))

def fetchAssetHistory (assetId : String) : Except RcError (List AssetStateEvent) :=
  runQuery fails .history ((s.db.events.rows.filter (·.assetId = assetId)).map fun r =>
    r.stateEvent (s.occurredAt r.eventId))

end Statements

section Handlers
variable (fails : ReadQuery → Option String) (s : Catalogue) (actor : ActorContext)

def getBatch (batchId : String) : Except RcError Batch := do
  let batch ← fetchBatch fails s batchId
  checkBrandBoundary actor batch.brandId
  .ok batch

def listBatches (params : PaginationParams) : Except RcError (PaginatedResponse Batch) := do
  let brandFilter := if actor.actorRole = .platform then none else actor.brandId
  let (items, total) ← selectBatches fails s brandFilter params.getPageSize params.offset
  .ok ⟨items, total, params.getPage, params.getPageSize⟩

/-- What three handlers begin with: the asset, once the actor may see it. -/
def visibleAsset (assetId : String) : Except RcError (Option AssetDetail) := do
  match ← fetchAssetDetail (fun q => fails (.detail assetId q)) s.toSnapshot assetId with
  | none => .ok none
  | some asset =>
      checkBrandBoundary actor asset.brandId
      .ok (some asset)

def getAssetHistory (assetId : String) : Except RcError (Option AssetHistoryResponse) := do
  match ← visibleAsset fails s actor assetId with
  | none => .ok none
  | some _ =>
      let events ← fetchAssetHistory fails s assetId
      .ok (some ⟨assetId, events, events.length⟩)

def attestationOf (q : ReadQuery) (select : String → Option AttestationRecord) :
    Option String → Except RcError (Option AttestationRecordResponse)
  | none => .ok none
  | some commitmentId => runQuery fails q ((select commitmentId).map AttestationRecord.response)

def getAssetAttestations (assetId : String) :
    Except RcError (Option AssetAttestationsResponse) := do
  match ← visibleAsset fails s actor assetId with
  | none => .ok none
  | some asset =>
      let brand ← attestationOf fails .brandAttestation s.db.selectBrandAttestation
        asset.assetCommitmentId
      let platform ← attestationOf fails .platformAttestation s.db.selectPlatformAttestation
        asset.assetCommitmentId
      .ok (some ⟨assetId, asset.assetCommitmentId, asset.brandAttestationStatus,
        asset.platformAttestationStatus, brand, platform⟩)

def AssetListQuery.brandFilter (query : AssetListQuery) : Except RcError (Option String) :=
  if actor.actorRole = .platform then .ok query.brandId
  else
    match actor.brandId with
    | none => .error .permissionDenied
    | some id =>
        if query.brandId.any (· ≠ id) then .error .brandBoundaryViolation else .ok (some id)

def listAssets (query : AssetListQuery) :
    Except RcError (Option (PaginatedResponse AssetDetail)) := do
  let brandFilter ← query.brandFilter actor
  let page ← selectAssets fails s brandFilter query.batchId query.currentState query.getPageSize
    query.offset
  .ok (page.map fun (items, total) => ⟨items, total, query.getPage, query.getPageSize⟩)

end Handlers

section Answers
variable {fails : ReadQuery → Option String} {s : Catalogue} {α : Type} {q : ReadQuery} {a b : α}
  {limit offset : Int} {rows page : List α}

theorem runQuery_ok : runQuery fails q a = .ok b ↔ fails q = none ∧ a = b := by
  unfold runQuery
  cases fails q <;> simp

theorem selectPage_ok : selectPage fails q limit offset rows = .ok page ↔
    fails q = none ∧ 0 ≤ offset ∧ slice limit.toNat offset.toNat rows.reverse = page := by
  unfold selectPage
  by_cases hoffset : offset < 0
  · rw [if_pos hoffset]
    constructor
    · intro h
      cases h
    · intro h
      omega
  · rw [if_neg hoffset, runQuery_ok]
    simp [Int.not_lt.mp hoffset]

theorem mem_of_selectPage (h : selectPage fails q limit offset rows = .ok page) (ha : a ∈ page) :
    a ∈ rows := by
  obtain ⟨-, -, rfl⟩ := selectPage_ok.mp h
  exact List.mem_reverse.mp (mem_of_mem_slice ha)

theorem fetchBatch_ok {batchId : String} {batch : Batch} : fetchBatch fails s batchId = .ok batch ↔
    fails .batch = none ∧ s.batches.find (·.batchId = batchId) = some batch := by
  unfold fetchBatch runQuery
  cases fails .batch with
  | some e => simp [bind, Except.bind]
  | none =>
      cases s.batches.find (·.batchId = batchId) with
      | none => simp [bind, Except.bind]
      | some stored => simp [bind, Except.bind]

/-- The columns of a row that say whose it is. -/
def AssetRow.tenancy (r : AssetRow) : String × String × Option String :=
  (r.assetId, r.brandId, r.ownerId)

def AssetDetail.tenancy (d : AssetDetail) : String × String × Option String :=
  (d.assetId, d.brandId, d.ownerId)

theorem listedAsset_ok {row : AssetRow} {item : AssetDetail}
    (h : listedAsset fails s row = .ok (some item)) : item.tenancy = row.tenancy := by
  unfold listedAsset at h
  obtain ⟨payload, -, h⟩ := bind_ok h
  obtain ⟨statuses, -, h⟩ := bind_ok h
  obtain ⟨card, -, h⟩ := bind_ok h
  obtain ⟨uid, huid, rfl⟩ := Option.map_eq_some_iff.mp (Except.ok.inj h)
  rfl

theorem listedAssets_cons {row : AssetRow} {rows : List AssetRow} {items : List AssetDetail}
    (h : listedAssets fails s (row :: rows) = .ok (some items)) :
    ∃ item rest, items = item :: rest ∧ listedAsset fails s row = .ok (some item) ∧
      listedAssets fails s rows = .ok (some rest) := by
  obtain ⟨first, hfirst, h⟩ := bind_ok h
  cases first with
  | none => cases h
  | some first =>
      dsimp only at h
      cases hrest : listedAssets fails s rows with
      | error e => rw [hrest] at h; cases h
      | ok rest =>
          rw [hrest] at h
          obtain ⟨rest', rfl, rfl⟩ := Option.map_eq_some_iff.mp (Except.ok.inj h)
          exact ⟨first, rest', rfl, hfirst, rfl⟩

theorem listedAssets_tenancies {rows : List AssetRow} {items : List AssetDetail}
    (h : listedAssets fails s rows = .ok (some items)) :
    items.map AssetDetail.tenancy = rows.map AssetRow.tenancy := by
  induction rows generalizing items with
  | nil =>
      obtain rfl := Option.some.inj (Except.ok.inj h)
      rfl
  | cons row rows ih =>
      obtain ⟨item, rest, rfl, hitem, hrest⟩ := listedAssets_cons h
      rw [List.map_cons, List.map_cons, listedAsset_ok hitem, ih hrest]

end Answers

end RcProtocol
