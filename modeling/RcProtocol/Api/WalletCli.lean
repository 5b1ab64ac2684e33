import RcProtocol.Api.WalletSnapshot
import RcProtocol.Library.Beside

/-!
The commands on the wallets (cli/wallet_snapshot_cli.rs): to rebuild that of one user or those of
all who own an asset, and to purge one. What a command prints is what it returns here.
-/

namespace RcProtocol
open Library

inductive OwnersOp where
  | selectOwnerIds

@[reducible] def OwnersOp.Answer : OwnersOp → Type
  | .selectOwnerIds => Except String (List String)

abbrev ownersApi : Interface := ⟨OwnersOp, OwnersOp.Answer⟩

abbrev walletCliApi : Interface := wallet.beside ownersApi

def Db.Owns (db : Db) (userId : String) : Prop := ∃ a ∈ db.assets.rows, a.ownerId = some userId

/-- `SELECT DISTINCT owner_id … WHERE owner_id IS NOT NULL`, which names no order. -/
structure OwnersEnv (db : Db) where
  fails : Option String
  listed : List String
  distinct : listed.Nodup
  owners : ∀ userId, userId ∈ listed ↔ db.Owns userId

def ownersMachine (db : Db) : Machine ownersApi Unit where
  Env := OwnersEnv db
  exec env op _ :=
    match op with
    | .selectOwnerIds =>
        (match env.fails with
          | some e => .error e
          | none => .ok env.listed, ())

/-- The wallets and the list of owners, while the database stays as it is. -/
def walletCliMachine (createdAt : String → Int) (s : Store) :
    Machine walletCliApi (Wallets × Unit) :=
  (timedMachine createdAt s).beside (ownersMachine s.db)

/-- A failed query is one of no owners. -/
def fetchAllOwnerIds : Program ownersApi (List String) :=
  Program.map (fun answer => answer.toOption.getD []) (@perform ownersApi .selectOwnerIds)

structure RebuildReport where
  success : Nat
  failed : Nat
  total : Nat
  deriving DecidableEq

namespace WalletSnapshot
variable (snapshot : WalletSnapshot)

/-- A user whose rebuild fails is counted, and the next one has its turn. -/
def rebuildUsers : List String → Nat → Nat → Program wallet (Nat × Nat)
  | [], success, failed => .done (success, failed)
  | userId :: rest, success, failed =>
      (snapshot.rebuildFromPg userId).bind fun
        | .ok _ => rebuildUsers rest (success + 1) failed
        | .error _ => rebuildUsers rest success (failed + 1)

def rebuildAll : Program walletCliApi RebuildReport :=
  fetchAllOwnerIds.right.bind fun ownerIds =>
    (snapshot.rebuildUsers ownerIds 0 0).left.map fun counts =>
      ⟨counts.1, counts.2, ownerIds.length⟩

end WalletSnapshot

/-- Neither error keeps the other key from being deleted. -/
def runPurge (userId : String) : Program wallet Unit :=
  (askWallet (.delHash userId)).bind fun _ =>
    (askWallet (.delSet userId)).map fun _ => ()

inductive SnapshotAction where
  | rebuild (userId : Option String)
  | purge (userId : String)

inductive SnapshotReport where
  | rebuilt (result : Except String Unit)
  | rebuiltAll (report : RebuildReport)
  | purged

def SnapshotAction.run : SnapshotAction → Program walletCliApi SnapshotReport
  | rebuild (some userId) => ((WalletSnapshot.mk true).rebuildFromPg userId).left.map .rebuilt
  | rebuild none => (WalletSnapshot.mk true).rebuildAll.map .rebuiltAll
  | purge userId => (runPurge userId).left.map fun _ => .purged

end RcProtocol
