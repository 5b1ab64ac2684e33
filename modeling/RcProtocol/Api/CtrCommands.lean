import RcProtocol.Api.CtrCalibrate
import RcProtocol.Library.Beside

/-!
The commands around the automatic calibration (cli/ctr_calibrate.rs): the check, which only
compares, and the calibration of a single UID by a strategy of the operator's choice.
-/

namespace RcProtocol
open Library

inductive CtrRowOp where
  | selectLastVerifiedCtr (uid : String)

@[reducible] def CtrRowOp.Answer : CtrRowOp → Type
  | .selectLastVerifiedCtr _ => Except String (Option (Option Int32))

abbrev ctrRowApi : Interface := ⟨CtrRowOp, CtrRowOp.Answer⟩

abbrev ctrCliApi : Interface := ctrApi.beside ctrRowApi

/-- `fetch_pg_ctr`: a failed read, a missing row and a NULL all come to nothing. -/
def fetchPgCtr (uid : String) : Program ctrRowApi (Option Int32) :=
  Program.map (fun ctr => ctr.toOption.join.join) (@perform ctrRowApi (.selectLastVerifiedCtr uid))

/-- A UID whose counters differ, with the one of Redis and the one of PostgreSQL. -/
abbrev Mismatch := String × UInt32 × Int32

structure CheckCounts where
  consistent : Nat
  mismatches : List Mismatch

structure CheckReport extends CheckCounts where
  total : Nat

/-- What Redis has never cached is no mismatch. -/
def checkRow (row : String × Int32) (counts : CheckCounts) : Program ctrApi CheckCounts :=
  (getRedisCtr row.1).map fun
    | some redisCtr =>
        if redisCtr = row.2.toUInt32 then { counts with consistent := counts.consistent + 1 }
        else { counts with mismatches := counts.mismatches ++ [(row.1, redisCtr, row.2)] }
    | none => { counts with consistent := counts.consistent + 1 }

def checkRows : List (String × Int32) → CheckCounts → Program ctrApi CheckCounts
  | [], counts => .done counts
  | row :: rows, counts => (checkRow row counts).bind fun counts => checkRows rows counts

def runCheck : Program ctrApi CheckReport :=
  fetchAllUidsWithCtr.bind fun rows =>
    (checkRows rows ⟨0, []⟩).map fun counts => { counts with total := rows.length }

inductive CalibrateAction where
  | useRedis
  | usePg
  | useMax
  | setValue
deriving DecidableEq

/-- A write only goes to the smaller side. -/
def writeMax (uid : String) (r p : UInt32) : Program ctrApi Unit :=
  (if r < max r p then setRedisCtr uid (max r p) else .done ()).bind fun _ =>
    if p < max r p then updatePgCtr uid (max r p) else .done ()

def calibrateUid (uid : String) (value : Option UInt32) (pgCtr : Option Int32)
    (redisCtr : Option UInt32) : CalibrateAction → Program ctrApi Unit
  | .useRedis =>
      match redisCtr with
      | none => .done ()
      | some r => updatePgCtr uid r
  | .usePg =>
      match pgCtr with
      | none => .done ()
      | some pg => setRedisCtr uid pg.toUInt32
  | .useMax => writeMax uid (redisCtr.getD 0) (pgCtr.getD 0).toUInt32
  | .setValue =>
      match value with
      | none => .done ()
      | some v => (setRedisCtr uid v).bind fun _ => updatePgCtr uid v

def runUid (uid : String) (strategy : CalibrateAction) (value : Option UInt32) :
    Program ctrCliApi Unit :=
  (fetchPgCtr uid).right.bind fun pgCtr =>
    ((getRedisCtr uid).bind fun redisCtr => calibrateUid uid value pgCtr redisCtr strategy).left

inductive CtrAction where
  | check
  | auto
  | uid (uid : String) (action : CalibrateAction) (value : Option UInt32)
deriving DecidableEq

def CtrAction.run : CtrAction → Program ctrCliApi Unit
  | .check => (runCheck.map fun _ => ()).left
  | .auto => (runAuto.map fun _ => ()).left
  | .uid tag strategy value => runUid tag strategy value

def ctrCliMachine : Machine ctrCliApi Store where
  Env := CtrEnv
  exec
    | env, .inl op, s => ctrMachine.exec env op s
    | env, .inr (.selectLastVerifiedCtr uid), s =>
        match env.fails with
        | some e => (.error e, s)
        | none => (.ok (s.db.selectLastVerifiedCtr uid), s)

end RcProtocol
