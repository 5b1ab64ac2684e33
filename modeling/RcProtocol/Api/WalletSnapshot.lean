import RcProtocol.Api.AssetRequest
import RcProtocol.Api.Listings
import RcProtocol.Library.Beside
import Mathlib.Data.List.Sort

/-!
The wallets in Redis (cache/wallet_snapshot.rs): of each user a sorted set of asset ids and
a hash. A list of assets is read from the set, or from the database where there is no set;
a task of its own then rebuilds the set.
-/

namespace RcProtocol
open Library

/-- A member of a sorted set and its score. -/
abbrev Scored := String × Int

/-- The order of `ZREVRANGE`: the higher score first, then the greater member. -/
def Outranks (a b : Scored) : Prop := b.2 < a.2 ∨ (a.2 = b.2 ∧ b.1 < a.1)

instance (a b : Scored) : Decidable (Outranks a b) := inferInstanceAs (Decidable (_ ∨ _))

/-- A field that was never set is missing. -/
structure WalletHash where
  assetCount : Option Int := none
  updatedAt : Option String := none
  deriving DecidableEq

/-- The keys of all wallets. A set without members does not exist. In Redis the hash of a
user whose id is another's followed by ":assets" has the key of the other's set; the two
are told apart here. -/
structure Wallets where
  sets : String → List Scored := fun _ => []
  hashes : String → Option WalletHash := fun _ => none

namespace Wallets

def members (w : Wallets) (userId : String) : List String := (w.sets userId).map (·.1)

def setSet (w : Wallets) (userId : String) (set : List Scored) : Wallets :=
  { w with sets := Function.update w.sets userId set }

def setHash (w : Wallets) (userId : String) (hash : Option WalletHash) : Wallets :=
  { w with hashes := Function.update w.hashes userId hash }

def hash (w : Wallets) (userId : String) : WalletHash := (w.hashes userId).getD {}

/-- `HINCRBY`: a missing field counts from zero. -/
def incrementCount (w : Wallets) (userId : String) (delta : Int) : Wallets :=
  w.setHash userId
    (some { w.hash userId with assetCount := some ((w.hash userId).assetCount.getD 0 + delta) })

def setUpdatedAt (w : Wallets) (userId now : String) : Wallets :=
  w.setHash userId (some { w.hash userId with updatedAt := some now })

@[simp] theorem sets_setHash (w : Wallets) (userId : String) (hash : Option WalletHash) :
    (w.setHash userId hash).sets = w.sets := rfl

theorem members_setSet_self (w : Wallets) (userId : String) (set : List Scored) :
    (w.setSet userId set).members userId = set.map (·.1) := by
  simp only [members, setSet, Function.update_self]

theorem members_setSet_of_ne (w : Wallets) {userId other : String} (h : other ≠ userId)
    (set : List Scored) : (w.setSet userId set).members other = w.members other := by
  simp only [members, setSet, Function.update_of_ne h]

end Wallets

def zadd (assetId : String) (score : Int) (set : List Scored) : List Scored :=
  (set.filter (·.1 ≠ assetId)).orderedInsert Outranks (assetId, score)

def zrem (assetId : String) (set : List Scored) : List Scored := set.filter (·.1 ≠ assetId)

/-- Both ends are counted, from the end of the set where they are negative. -/
def zrevrange (start stop : Int) (set : List Scored) : List String :=
  let first := if start < 0 then max 0 (start + set.length) else start
  let last := if stop < 0 then stop + set.length else stop
  (slice (last - first + 1).toNat first.toNat set).map (·.1)

theorem mem_zadd {assetId a : String} {score : Int} {set : List Scored} :
    a ∈ (zadd assetId score set).map (·.1) ↔ a = assetId ∨ a ∈ set.map (·.1) := by
  simp only [zadd, List.mem_map, List.mem_orderedInsert, List.mem_filter, decide_eq_true_eq]
  constructor
  · rintro ⟨b, rfl | ⟨hb, -⟩, rfl⟩
    · exact .inl rfl
    · exact .inr ⟨b, hb, rfl⟩
  · intro h
    by_cases ha : a = assetId
    · exact ⟨_, .inl rfl, ha.symm⟩
    · obtain rfl | ⟨b, hb, rfl⟩ := h
      · exact absurd rfl ha
      · exact ⟨b, .inr ⟨hb, ha⟩, rfl⟩

inductive WalletOp where
  | zcard (userId : String)
  | zrevrange (userId : String) (start stop : Int)
  | selectAssetIds (userId : String) (limit offset : Int)
  /-- The caller gets its answer; what follows runs as a task of its own. -/
  | respond (assets : List String)
  | selectScores (userId : String)
  | delSet (userId : String)
  | delHash (userId : String)
  | zadd (userId assetId : String) (score : Int)
  | hsetMultiple (userId : String) (assetCount : Nat)
  | zrem (userId assetId : String)
  | hincrby (userId : String) (delta : Int)
  | hsetUpdatedAt (userId : String)

@[reducible] def WalletOp.Answer : WalletOp → Type
  | .zcard _ => Except String Nat
  | .zrevrange _ _ _ | .selectAssetIds _ _ _ => Except String (List String)
  | .selectScores _ => Except String (List Scored)
  | .respond _ => Unit
  | _ => Except String Unit

abbrev wallet : Interface := ⟨WalletOp, WalletOp.Answer⟩

/-- The operations of the requests and those on the wallets. -/
abbrev walleted : Interface := api.beside wallet

abbrev askWallet (op : WalletOp) : Program wallet op.Answer := .call op .done

structure WalletEnv where
  fails : Option String := none
  now : String := ""

/-- `owner_id = $1`, the newest asset first. -/
def Db.ownedAssets (db : Db) (userId : String) : List String :=
  (db.assets.rows.filter (·.ownerId = some userId)).reverse.map (·.assetId)

section Machine
variable (createdAt : String → Int)

def walletAnswer {α : Type} (env : WalletEnv) (a : α) : Except String α :=
  match env.fails with
  | some e => .error e
  | none => .ok a

def walletWrite (env : WalletEnv) (w w' : Wallets) : Except String Unit × Wallets :=
  match env.fails with
  | some e => (.error e, w)
  | none => (.ok (), w')

/-- What the two stores answer; an asset has the score `createdAt`. -/
def walletExec (env : WalletEnv) (op : WalletOp) (s : Store) (w : Wallets) :
    op.Answer × Wallets :=
  match op with
  | .zcard userId => (walletAnswer env (w.sets userId).length, w)
  | .zrevrange userId start stop =>
      (walletAnswer env (RcProtocol.zrevrange start stop (w.sets userId)), w)
  | .selectAssetIds userId limit offset =>
      (if limit < 0 ∨ offset < 0 then .error "LIMIT and OFFSET must not be negative"
        else walletAnswer env (slice limit.toNat offset.toNat (s.db.ownedAssets userId)), w)
  | .respond _ => ((), w)
  | .selectScores userId =>
      (walletAnswer env ((s.db.ownedAssets userId).map fun id => (id, createdAt id)), w)
  | .delSet userId => walletWrite env w (w.setSet userId [])
  | .delHash userId => walletWrite env w (w.setHash userId none)
  | .zadd userId assetId score =>
      walletWrite env w (w.setSet userId (RcProtocol.zadd assetId score (w.sets userId)))
  | .hsetMultiple userId assetCount =>
      walletWrite env w (w.setHash userId (some ⟨some assetCount, some env.now⟩))
  | .zrem userId assetId =>
      walletWrite env w (w.setSet userId (RcProtocol.zrem assetId (w.sets userId)))
  | .hincrby userId delta => walletWrite env w (w.incrementCount userId delta)
  | .hsetUpdatedAt userId => walletWrite env w (w.setUpdatedAt userId env.now)

def walletMachine : Machine walleted (Store × Wallets) :=
  machine.reading WalletEnv (walletExec createdAt)

end Machine

/-- `EXTRACT(EPOCH FROM created_at)::bigint`. A time is in microseconds; the cast rounds to
the nearest second and away from zero. -/
def epochSeconds (micros : Int) : Int :=
  if 0 ≤ micros then (micros + 500000) / 1000000 else -((500000 - micros) / 1000000)

section Times
variable (createdAt : String → Int)

def NotOlder (a b : String) : Prop := createdAt b ≤ createdAt a

instance (a b : String) : Decidable (NotOlder createdAt a b) := inferInstanceAs (Decidable (_ ≤ _))

/-- `owner_id = $1 ORDER BY created_at DESC`. -/
def Db.newestFirst (db : Db) (userId : String) : List String :=
  (db.ownedAssets userId).insertionSort (NotOlder createdAt)

/-- What the two stores answer where the assets have these times. -/
def timedExec (env : WalletEnv) (op : WalletOp) (s : Store) (w : Wallets) : op.Answer × Wallets :=
  match op with
  | .selectAssetIds userId limit offset =>
      (if limit < 0 ∨ offset < 0 then .error "LIMIT and OFFSET must not be negative"
        else walletAnswer env (slice limit.toNat offset.toNat (s.db.newestFirst createdAt userId)), w)
  | .selectScores userId =>
      (walletAnswer env
        ((s.db.newestFirst createdAt userId).map fun id => (id, epochSeconds (createdAt id))), w)
  | op => walletExec (fun id => epochSeconds (createdAt id)) env op s w

/-- The wallets while the database stays as it is. -/
def timedMachine (s : Store) : Machine wallet Wallets where
  Env := WalletEnv
  exec env op w := timedExec createdAt env op s w

end Times

/-- A sum of two i64 values. -/
def addI64 (a b : Int) : Int := (a + b).bmod (2 ^ 64)

/-- `WalletSnapshot`: whether it has a connection to Redis. -/
structure WalletSnapshot where
  connected : Bool

namespace WalletSnapshot
variable (snapshot : WalletSnapshot)

/-- What the set answers is not looked at: the counter is moved wherever it answers. -/
def addAsset (userId assetId : String) (score : Int) : Program wallet Unit :=
  if snapshot.connected then
    (askWallet (.zadd userId assetId score)).bind fun
      | .error _ => .done ()
      | .ok _ =>
          (askWallet (.hincrby userId 1)).bind fun _ =>
          (askWallet (.hsetUpdatedAt userId)).map fun _ => ()
  else .done ()

def removeAsset (userId assetId : String) : Program wallet Unit :=
  if snapshot.connected then
    (askWallet (.zrem userId assetId)).bind fun
      | .error _ => .done ()
      | .ok _ => (askWallet (.hincrby userId (-1))).map fun _ => ()
  else .done ()

def onAssetStateChange (assetId : String) (oldOwner newOwner : Option String) (createdAt : Int) :
    Program wallet Unit :=
  (match oldOwner with
    | some old => snapshot.removeAsset old assetId
    | none => .done ()).bind fun _ =>
  match newOwner with
  | some new => snapshot.addAsset new assetId createdAt
  | none => .done ()

def zaddAll (userId : String) : List Scored → Program wallet (Except String Unit)
  | [] => .done (.ok ())
  | (assetId, score) :: rest =>
      (askWallet (.zadd userId assetId score)).attempt
        (fun e => .error ("ZADD failed for " ++ assetId ++ ": " ++ e))
        fun _ => zaddAll userId rest

def rebuildForUser (userId : String) (assetPairs : List Scored) :
    Program wallet (Except String Unit) :=
  if snapshot.connected then
    (askWallet (.delSet userId)).attempt (fun e => .error ("DEL set_key failed: " ++ e)) fun _ =>
    (askWallet (.delHash userId)).attempt (fun e => .error ("DEL hash_key failed: " ++ e)) fun _ =>
    (zaddAll userId assetPairs).attempt .error fun _ =>
    (askWallet (.hsetMultiple userId assetPairs.length)).attempt
      (fun e => .error ("HSET failed: " ++ e)) fun _ => .done (.ok ())
  else .done (.ok ())

def rebuildFromPg (userId : String) : Program wallet (Except String Unit) :=
  (askWallet (.selectScores userId)).attempt
    (fun e => .error ("PG query for rebuild failed: " ++ e))
    fun rows => snapshot.rebuildForUser userId rows

/-- The answer goes out before the rebuild, whose error is only logged. -/
def fetchAssetsFromPg (userId : String) (page pageSize : Int) : Program wallet Unit :=
  (askWallet (.selectAssetIds userId pageSize (mulI64 page pageSize))).bind fun
    | .error _ => askWallet (.respond [])
    | .ok rows =>
        (askWallet (.respond rows)).bind fun _ =>
          if rows ≠ [] ∧ snapshot.connected then (snapshot.rebuildFromPg userId).map fun _ => ()
          else .done ()

/-- `get_assets`, and the task it may spawn. -/
def getAssets (userId : String) (page pageSize : Int) : Program wallet Unit :=
  if snapshot.connected then
    (askWallet (.zcard userId)).bind fun card =>
      if 0 < card.toOption.getD 0 then
        let start := mulI64 page pageSize
        let stop := addI64 (addI64 start pageSize) (-1)
        (askWallet (.zrevrange userId start stop)).bind fun
          | .ok result => askWallet (.respond result)
          | .error _ => snapshot.fetchAssetsFromPg userId page pageSize
      else snapshot.fetchAssetsFromPg userId page pageSize
  else snapshot.fetchAssetsFromPg userId page pageSize

end WalletSnapshot

/-- A request that writes an asset, or a call of `get_assets`. -/
inductive WalletRequest where
  | write (r : AssetRequest)
  | read (userId : String) (page pageSize : Int)

namespace WalletRequest

/-- The reply of a write; a read has answered its caller by the way. -/
def handle (app : AppState) : WalletRequest → Program walleted (Option Reply)
  | write r => (r.handle app).left.map some
  | read userId page pageSize =>
      ((WalletSnapshot.mk true).getAssets userId page pageSize).right.map fun _ => none

def pool {ι : Type} (app : AppState) (requests : ι → WalletRequest) (start : Store × Wallets) :
    Pool walleted (Store × Wallets) ι (Option Reply) where
  state := start
  threads i := (requests i).handle app

end WalletRequest

end RcProtocol
