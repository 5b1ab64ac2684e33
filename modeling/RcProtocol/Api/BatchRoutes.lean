import RcProtocol.Api.Listings
import RcProtocol.Library.Interleaving

/-!
Creating, reading and closing batches (routes/batch.rs, db/batches.rs), each statement on its
own. A write may take effect and still fail, when the connection breaks after it.
-/

namespace RcProtocol.BatchRoutes
open Library

structure CreateBatchRequest where
  brandId : String
  batchName : Option String := none
  factoryId : Option String := none
  expectedCount : Option Int32 := none
  deriving DecidableEq

inductive Op where
  | generateBatchId
  | createBatch (batchId : String) (req : CreateBatchRequest)
  | fetchBatch (batchId : String)
  | closeBatch (batchId : String)

@[reducible] def Op.Answer : Op → Type
  | .generateBatchId => String
  | .createBatch _ _ => Except String Batch
  | .fetchBatch _ | .closeBatch _ => Except String (Option Batch)

abbrev interface : Interface := ⟨Op, Op.Answer⟩

/-- How one step goes, and which brands there are at that time. -/
structure Env where
  fails : Option String := none
  applied : Bool := false
  ulid : String := "00000000000000000000000000"
  now : String := ""
  hasBrand : String → Bool := fun _ => true

/-- `batch_id LIKE 'batch_%'`, where the underscore stands for any character. -/
def hasBatchPrefix (batchId : String) : Bool :=
  batchId.toList.take 5 = "batch".toList && 5 < batchId.toList.length

/-- The row of a request; the columns it does not set have their defaults. -/
def CreateBatchRequest.row (req : CreateBatchRequest) (batchId now : String) : Batch where
  batchId := batchId
  brandId := req.brandId
  batchName := req.batchName
  factoryId := req.factoryId
  expectedCount := req.expectedCount
  createdAt := now

/-- `SET status = 'Closed', closed_at = NOW()`. -/
def close (now : String) (b : Batch) : Batch := { b with status := "Closed", closedAt := some now }

def insertBatch (env : Env) (batchId : String) (req : CreateBatchRequest) (db : Table Batch) :
    Except String (Batch × Table Batch) :=
  if !env.hasBrand req.brandId then
    .error "insert or update on table \"batches\" violates foreign key constraint"
  else if !hasBatchPrefix batchId then
    .error "new row for relation \"batches\" violates check constraint"
  else
    match db.insert (req.row batchId env.now) with
    | none => .error "duplicate key value violates unique constraint \"batches_pkey\""
    | some db' => .ok (req.row batchId env.now, db')

/-- `WHERE batch_id = $1 AND status = 'Open'`. -/
def isOpen (batchId : String) (b : Batch) : Bool := b.batchId = batchId && b.status = "Open"

def closeOpen (batchId now : String) (db : Table Batch) : Table Batch :=
  db.update (isOpen batchId) (close now) fun _ => rfl

/-- The check constraint, which old rows were spared, is on the rows as they are updated. -/
def updateOpenBatch (env : Env) (batchId : String) (db : Table Batch) :
    Except String (Option Batch × Table Batch) :=
  match db.find (isOpen batchId) with
  | none => .ok (none, db)
  | some b =>
      if !hasBatchPrefix b.batchId then
        .error "new row for relation \"batches\" violates check constraint"
      else .ok (some (close env.now b), closeOpen batchId env.now db)

def write {α : Type} (env : Env) (db : Table Batch) :
    Except String (α × Table Batch) → Except String α × Table Batch
  | .error e => (.error (env.fails.getD e), db)
  | .ok (a, db') =>
      match env.fails with
      | some e => (.error e, if env.applied then db' else db)
      | none => (.ok a, db')

def exec (env : Env) : (op : Op) → Table Batch → op.Answer × Table Batch
  | .generateBatchId, db => ("batch_" ++ env.ulid, db)
  | .createBatch batchId req, db => write env db (insertBatch env batchId req db)
  | .fetchBatch batchId, db =>
      (match env.fails with
        | some e => .error e
        | none => .ok (db.find (·.batchId = batchId)), db)
  | .closeBatch batchId, db => write env db (updateOpenBatch env batchId db)

def machine : Machine interface (Table Batch) := ⟨Env, exec⟩

inductive Reply where
  | created (b : Batch)
  | batch (b : Batch)
  | error (e : RcError)

def ask (op : Op) : Program interface op.Answer := .call op .done

def databaseError (e : String) : Reply := .error (.database e)

/-- What a role may do with a batch of a brand: only Platform has no brand of its own. -/
def checkBrandRole (roles : List ActorRole) (actor : ActorContext) (brandId : String) :
    Except RcError Unit :=
  if actor.actorRole ∉ roles then .error .permissionDenied
  else if actor.actorRole ≠ .platform ∧ actor.brandId ≠ some brandId then
    .error .brandBoundaryViolation
  else .ok ()

def createRoles : List ActorRole := [.platform, .brand, .factory]

def closeRoles : List ActorRole := [.platform, .brand]

def createBatch (actor : ActorContext) (payload : CreateBatchRequest) : Program interface Reply :=
  match checkBrandRole createRoles actor payload.brandId with
  | .error e => .done (.error e)
  | .ok () =>
      (ask .generateBatchId).bind fun batchId =>
        (ask (.createBatch batchId payload)).attempt databaseError fun b => .done (.created b)

/-- A batch that is not there is answered as an asset would be. -/
def fetchBatch (batchId : String) (f : Batch → Program interface Reply) :
    Program interface Reply :=
  (ask (.fetchBatch batchId)).attempt databaseError fun
    | none => .done (.error .assetNotFound)
    | some b => f b

def getBatch (actor : ActorContext) (batchId : String) : Program interface Reply :=
  fetchBatch batchId fun b =>
    match checkBrandBoundary actor b.brandId with
    | .error e => .done (.error e)
    | .ok () => .done (.batch b)

def closeBatch (actor : ActorContext) (batchId : String) : Program interface Reply :=
  fetchBatch batchId fun b =>
    match checkBrandRole closeRoles actor b.brandId with
    | .error e => .done (.error e)
    | .ok () =>
        (ask (.closeBatch batchId)).attempt databaseError fun
          | none => .done (.error (.invalidInput "Batch not found or already closed"))
          | some b => .done (.batch b)

inductive Request where
  | create (actor : ActorContext) (payload : CreateBatchRequest)
  | get (actor : ActorContext) (batchId : String)
  | close (actor : ActorContext) (batchId : String)

def Request.handle : Request → Program interface Reply
  | create actor payload => createBatch actor payload
  | get actor batchId => getBatch actor batchId
  | close actor batchId => closeBatch actor batchId

def pool {ι : Type} (requests : ι → Request) (start : Table Batch) :
    Pool interface (Table Batch) ι Reply :=
  ⟨start, fun i => (requests i).handle⟩

end RcProtocol.BatchRoutes
