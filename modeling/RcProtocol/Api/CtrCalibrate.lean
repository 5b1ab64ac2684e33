import RcProtocol.Api.Machine

/-!
The calibration of the counters (cli/ctr_calibrate.rs): one pass over the assets with a UID,
each of which is compared with the Redis counter of its UID.
-/

namespace RcProtocol
open Library

inductive CtrOp where
  | selectUidsWithCtr
  | redisGet (uid : String)
  | updateCtrByUid (uid : String) (ctr : Int32)
  | redisSetEx (uid : String) (ctr : UInt32)

@[reducible] def CtrOp.Answer : CtrOp → Type
  | .selectUidsWithCtr => Except String (List (String × Int32))
  | .redisGet _ => Except String (Option UInt32)
  | .updateCtrByUid _ _ | .redisSetEx _ _ => Except String Unit

abbrev ctrApi : Interface := ⟨CtrOp, CtrOp.Answer⟩

/-- `fetch_all_uids_with_ctr`: a read that fails is an empty list. -/
def fetchAllUidsWithCtr : Program ctrApi (List (String × Int32)) :=
  Program.map (fun rows => rows.toOption.getD []) (@perform ctrApi .selectUidsWithCtr)

def getRedisCtr (uid : String) : Program ctrApi (Option UInt32) :=
  Program.map (fun ctr => ctr.toOption.join) (@perform ctrApi (.redisGet uid))

def updatePgCtr (uid : String) (ctr : UInt32) : Program ctrApi Unit :=
  Program.map (fun _ => ()) (@perform ctrApi (.updateCtrByUid uid ctr.toInt32))

def setRedisCtr (uid : String) (ctr : UInt32) : Program ctrApi Unit :=
  Program.map (fun _ => ()) (@perform ctrApi (.redisSetEx uid ctr))

def autoSkipThreshold : Nat := 1000

/-- How many counters were corrected and how many left to an operator. -/
structure AutoCounts where
  corrected : Nat
  skipped : Nat

/-- The larger side overwrites the smaller one, unless they are far apart. -/
def calibrateRow (row : String × Int32) (counts : AutoCounts) : Program ctrApi AutoCounts :=
  (getRedisCtr row.1).bind fun
    | none => .done counts
    | some redisCtr =>
        let pgU32 := row.2.toUInt32
        if redisCtr = pgU32 then .done counts
        else if ((redisCtr.toNat : Int) - pgU32.toNat).natAbs > autoSkipThreshold then
          .done { counts with skipped := counts.skipped + 1 }
        else if redisCtr > pgU32 then
          (updatePgCtr row.1 redisCtr).map fun _ => { counts with corrected := counts.corrected + 1 }
        else (setRedisCtr row.1 pgU32).map fun _ => { counts with corrected := counts.corrected + 1 }

def calibrateRows : List (String × Int32) → AutoCounts → Program ctrApi AutoCounts
  | [], counts => .done counts
  | row :: rows, counts => (calibrateRow row counts).bind fun counts => calibrateRows rows counts

def runAuto : Program ctrApi AutoCounts :=
  fetchAllUidsWithCtr.bind fun rows => calibrateRows rows ⟨0, 0⟩

/-- The order in which a statement without `ORDER BY` lists its rows. -/
structure RowOrder where
  order : List (String × Int32) → List (String × Int32)
  perm : ∀ rows, (order rows).Perm rows

structure CtrEnv where
  order : RowOrder
  fails : Option String := none

theorem AssetRow.key_calibrated (ctr : Int32) :
    ∀ r : AssetRow, Keyed.key { r with lastVerifiedCtr := some ctr } = Keyed.key r := fun _ => rfl

namespace Db
variable (db : Db)

/-- `SELECT uid, COALESCE(last_verified_ctr, 0) FROM assets WHERE uid IS NOT NULL` -/
def selectUidsWithCtr : List (String × Int32) :=
  db.assets.rows.filterMap fun r => r.uid.map fun uid => (uid, r.lastVerifiedCtr.getD 0)

/-- `UPDATE assets SET last_verified_ctr = $1 WHERE uid = $2` -/
def updateCtrByUid (uid : String) (ctr : Int32) : Db :=
  { db with
    assets := db.assets.update (·.uid = some uid) (fun r => { r with lastVerifiedCtr := some ctr })
      (AssetRow.key_calibrated ctr) }

end Db

def ctrMachine : Machine ctrApi Store where
  Env := CtrEnv
  exec env op s :=
    match op with
    | .selectUidsWithCtr =>
        match env.fails with
        | some e => (.error e, s)
        | none => (.ok (env.order.order s.db.selectUidsWithCtr), s)
    | .redisGet uid =>
        match env.fails with
        | some e => (.error e, s)
        | none => (.ok (s.redis uid), s)
    | .updateCtrByUid uid ctr =>
        match env.fails with
        | some e => (.error e, s)
        | none => (.ok (), { s with db := s.db.updateCtrByUid uid ctr })
    | .redisSetEx uid ctr =>
        match env.fails with
        | some e => (.error e, s)
        | none => (.ok (), s.setRedis uid (some ctr))

end RcProtocol
