import RcProtocol.Api.VerifyRun
import RcProtocol.Library.Agreement
import RcProtocol.Library.Service
import RcProtocol.Replay

/-!
The counter cache of one process against PostgreSQL. The entries of the process are
current as long as Redis is: what Redis still has of a tag whose last write to it failed
is answered again once the entry of the process has expired.
-/

namespace RcProtocol
open Library

/-- What befalls a cache access: an error of Redis, or an entry that has expired. -/
structure Weather where
  redisFails : Option String := none
  expired : Bool := false

/-- PostgreSQL answers every statement; only the caches have weather. -/
def cachedMachine : Machine api Store where
  Env := Weather
  exec w op s := exec (if op.isCache then { fails := w.redisFails, expired := w.expired } else {}) op s

/-- Nothing is ever cached: a read of the counter goes to PostgreSQL. -/
def uncachedMachine : Machine api Store where
  Env := Unit
  exec _ op s :=
    match op with
    | .l1Get _ _ => (none, s)
    | .l1Insert _ _ _ => ((), s)
    | .redisGet _ => (.ok none, s)
    | .redisSetEx _ _ => (.ok (), s)
    | op => exec {} op s

/-- The counter of a tag as PostgreSQL has it. -/
def Db.counterOf (db : Db) (uid : String) : UInt32 :=
  ((db.selectLastVerifiedCtr uid).join.getD 0).toUInt32

abbrev ServedScan := Served api Store VerifyCall Reply

section Histories
variable (app : AppState) (h : List ServedScan)

/-- What Redis answers of a tag is the counter PostgreSQL has of it. -/
def RedisCurrent : Prop :=
  ∀ e ∈ h, ∀ uid ctr, ⟨.redisGet uid, .ok (some ctr)⟩ ∈ e.log → ctr = e.before.db.counterOf uid

structure Transparent (start finish : Store) : Prop where
  direct : ∀ h' finish', Serves uncachedMachine (VerifyCall.handle app) start h' finish' →
    h'.map (·.request) = h.map (·.request) →
      h'.map (·.answer) = h.map (·.answer) ∧
        ∀ id, finish'.db.storedCtr id = finish.db.storedCtr id
  atLeast : ∀ e ∈ h, ∀ uid row read rest ctr,
    e.log = ⟨.selectAssetByUid uid, row⟩ :: (read ++ rest) → CtrRead app.process uid read ctr →
      e.before.db.counterOf uid ≤ ctr

end Histories

/-- The entries of the process are what PostgreSQL has. -/
def Store.L1Current (process : Nat) (s : Store) : Prop :=
  ∀ uid ctr, s.l1 process uid = some ctr → ctr = s.db.counterOf uid

section Levels
variable {app : AppState} {process : Nat} {uid : String} {ctr : UInt32} {s s' t : Store}
  {env : Nat → Weather}

theorem Store.L1Current.of_eq (h : s.L1Current process) (hdb : s'.db = s.db) (hl1 : s'.l1 = s.l1) :
    s'.L1Current process := by
  intro uid ctr hctr
  rw [hdb]
  exact h uid ctr (hl1 ▸ hctr)

theorem l1_setL1 (s : Store) (process : Nat) (uid uid' : String) (ctr : Option UInt32) :
    (s.setL1 process uid ctr).l1 process uid' = if uid' = uid then ctr else s.l1 process uid' := by
  simp only [Store.setL1, Function.update_self]
  by_cases huid : uid' = uid
  · rw [huid, if_pos rfl, Function.update_self]
  · rw [if_neg huid, Function.update_of_ne huid]

theorem Store.L1Current.setL1 {ctr : Option UInt32} (h : s.L1Current process)
    (hctr : ∀ c, ctr = some c → c = s.db.counterOf uid) :
    (s.setL1 process uid ctr).L1Current process := by
  intro uid' c hc
  rw [l1_setL1] at hc
  split at hc
  · next huid =>
    rw [huid]
    exact hctr c hc
  · exact h uid' c hc

theorem counterOf_updateAssetCtr {db : Db} {row : AssetVerifyRow} {uid' : String}
    (h : db.selectAssetByUid uid = some row) :
    (db.updateAssetCtr row.assetId ctr.toInt32).counterOf uid' =
      if uid' = uid then ctr else db.counterOf uid' := by
  obtain ⟨r, hr, rfl⟩ := Option.map_eq_some_iff.mp h
  have hfind : (db.updateAssetCtr r.assetId ctr.toInt32).assetByUid uid' =
      (db.assetByUid uid').map fun a =>
        if a.assetId = r.assetId then { a with lastVerifiedCtr := some ctr.toInt32 } else a := by
    have hq : ∀ a : AssetRow, decide ({ a with lastVerifiedCtr := some ctr.toInt32 }.uid = some uid') =
        decide (a.uid = some uid') := fun _ => rfl
    simpa only [Db.assetByUid, Db.updateAssetCtr, Db.updateAsset, decide_eq_true_eq] using
      Table.find_update (t := db.assets) (p := fun a => a.assetId = r.assetId) hq
  simp only [Db.counterOf, Db.selectLastVerifiedCtr, hfind, Option.map_map]
  by_cases huid : uid' = uid
  · rw [huid, hr, if_pos rfl]
    simp
  · rw [if_neg huid]
    cases hr' : db.assetByUid uid' with
    | none => rfl
    | some a =>
        have hne : a.assetId ≠ r.assetId := by
          intro hid
          have hsame := Table.eq_of_clash (Db.assetByUid_mem hr') (Db.assetByUid_mem hr) (.inl hid)
          have hu := Db.assetByUid_uid hr'
          rw [hsame, Db.assetByUid_uid hr] at hu
          exact huid (Option.some.inj hu).symm
        simp [hne]

/-- Filling Redis touches neither PostgreSQL nor the process. -/
theorem run_backfillL2 (app : AppState) (uid : String) (ctr : UInt32) (env : Nat → Weather)
    (s : Store) :
    (cachedMachine.run (backfillL2 app uid ctr) env s).state.db = s.db ∧
      (cachedMachine.run (backfillL2 app uid ctr) env s).state.l1 = s.l1 := by
  rw [backfillL2]
  split
  · show (exec _ (.redisSetEx uid ctr) s).2.db = s.db ∧ (exec _ (.redisSetEx uid ctr) s).2.l1 = s.l1
    simp only [exec]
    split <;> exact ⟨rfl, rfl⟩
  · exact ⟨rfl, rfl⟩

/-- What a read of the counter has to come to. -/
structure ReadsCurrent (process : Nat) (uid : String) (s : Store)
    (o : Machine.Outcome api Store (Except RcError UInt32)) : Prop where
  answer : o.answer = .ok (s.db.counterOf uid)
  db : o.state.db = s.db
  l1 : o.state.L1Current process

theorem readsCurrent_getCtrL3 (hl1 : s.L1Current app.process) :
    ReadsCurrent app.process uid s (cachedMachine.run (getCtrL3 app uid) env s) := by
  have hfilled : (s.setL1 app.process uid (some (s.db.counterOf uid))).L1Current app.process :=
    hl1.setL1 fun c hc => (Option.some.inj hc).symm
  obtain ⟨hdb, hsame⟩ := run_backfillL2 app uid (s.db.counterOf uid) (fun n => env (n + 2))
    (s.setL1 app.process uid (some (s.db.counterOf uid)))
  have hrun := cachedMachine.run_map (backfillL2 app uid (s.db.counterOf uid))
    (fun _ => (.ok (s.db.counterOf uid) : Except RcError UInt32)) (fun n => env (n + 2))
    (s.setL1 app.process uid (some (s.db.counterOf uid)))
  have hdb := (congrArg (·.state.db) hrun).trans hdb
  exact ⟨congrArg (·.answer) hrun, hdb, hfilled.of_eq hdb ((congrArg (·.state.l1) hrun).trans hsame)⟩

/-- A call that changes nothing in PostgreSQL may come before a read. -/
theorem ReadsCurrent.call {op : Op} {r : op.Answer}
    {next : op.Answer → Service (Except RcError UInt32)}
    (hexec : cachedMachine.exec (env 0) op s = (r, s')) (hdb : s'.db = s.db)
    (h : ReadsCurrent process uid s' (cachedMachine.run (next r) (fun n => env (n + 1)) s')) :
    ReadsCurrent process uid s (cachedMachine.run (.call op next) env s) := by
  obtain ⟨hanswer, hstate, hl1⟩ := h
  rw [hdb] at hanswer hstate
  constructor
  · simpa only [Machine.run, hexec] using hanswer
  · simpa only [Machine.run, hexec] using hstate
  · simpa only [Machine.run, hexec] using hl1

theorem exec_l1Get_current (w : Weather) (hl1 : s.L1Current process) :
    cachedMachine.exec w (.l1Get process uid) s = (some (s.db.counterOf uid), s) ∨
      ∃ s', cachedMachine.exec w (.l1Get process uid) s = (none, s') ∧ s'.db = s.db ∧
        s'.L1Current process := by
  by_cases hexpired : w.expired = true
  · exact .inr ⟨_, if_pos hexpired, rfl, hl1.setL1 fun c hc => by cases hc⟩
  · have hexec : cachedMachine.exec w (.l1Get process uid) s = (s.l1 process uid, s) :=
      if_neg hexpired
    cases hentry : s.l1 process uid with
    | none => exact .inr ⟨s, by rw [hexec, hentry], rfl, hl1⟩
    | some ctr => exact .inl (by rw [hexec, hentry, hl1 uid ctr hentry])

/-- Redis answers with a counter, or a read goes on as if it had none. -/
theorem exec_redisGet_current (w : Weather) (s : Store) (uid : String) :
    (∃ ctr, cachedMachine.exec w (.redisGet uid) s = (.ok (some ctr), s)) ∨
      ∃ r s', cachedMachine.exec w (.redisGet uid) s = (r, s') ∧ (∀ ctr, r ≠ .ok (some ctr)) ∧
        s'.db = s.db ∧ s'.l1 = s.l1 := by
  cases hfails : w.redisFails with
  | some e =>
      refine .inr ⟨.error e, s, ?_, by simp, rfl, rfl⟩
      simp [cachedMachine, exec, Op.isCache, hfails]
  | none =>
      by_cases hexpired : w.expired = true
      · refine .inr ⟨.ok none, s.setRedis uid none, ?_, by simp, rfl, rfl⟩
        simp [cachedMachine, exec, Op.isCache, hfails, hexpired]
      · have hexec : cachedMachine.exec w (.redisGet uid) s = (.ok (s.redis uid), s) := by
          simp [cachedMachine, exec, Op.isCache, hfails, hexpired]
        cases hentry : s.redis uid with
        | none => exact .inr ⟨.ok none, s, by rw [hexec, hentry], by simp, rfl, rfl⟩
        | some ctr => exact .inl ⟨ctr, by rw [hexec, hentry]⟩

/-- A read of the counter, where Redis answers what PostgreSQL has. -/
theorem readsCurrent_getCtr (hl1 : s.L1Current app.process)
    (hredis : ∀ ctr, ⟨.redisGet uid, .ok (some ctr)⟩ ∈ (cachedMachine.run (getCtr app uid) env s).log →
      ctr = s.db.counterOf uid) :
    ReadsCurrent app.process uid s (cachedMachine.run (getCtr app uid) env s) := by
  rw [getCtr] at hredis ⊢
  obtain hhit | ⟨s₁, hmiss, hdb, hl1⟩ := exec_l1Get_current (env 0) hl1
  · exact .call hhit rfl ⟨rfl, rfl, hl1⟩
  · refine .call hmiss hdb ?_
    simp only [ask, perform, Program.bind, Machine.run, hmiss, List.mem_cons] at hredis ⊢
    split
    · next havailable =>
      rw [if_pos havailable] at hredis
      obtain ⟨ctr, hhit⟩ | ⟨r, s₂, hmiss, hr, hdb₂, hsame⟩ := exec_redisGet_current (env 1) s₁ uid
      · have hctr := hredis ctr (by simp [Machine.run, hhit])
        refine .call hhit rfl (.call rfl rfl ⟨?_, rfl, ?_⟩)
        · rw [hctr]
          show Except.ok (s.db.counterOf uid) = Except.ok (s₁.db.counterOf uid)
          rw [hdb]
        · rw [← hdb] at hctr
          exact hl1.setL1 fun c hc => (Option.some.inj hc).symm.trans hctr
      · refine .call hmiss hdb₂ ?_
        split
        · next ctr => exact absurd rfl (hr ctr)
        · exact readsCurrent_getCtrL3 (hl1.of_eq hdb₂ hsame)
    · exact readsCurrent_getCtrL3 hl1

end Levels

/-- The calls that only PostgreSQL answers, and that leave the counters. -/
def AsideOp (op : Op) : Prop := VerifyOp op ∧ op.isCache = false

/-- The same database on both sides, and only current entries on the one with caches. -/
structure InStep (process : Nat) (s t : Store) : Prop where
  db : s.db = t.db
  l1 : s.L1Current process

section Requests
variable {app : AppState} {s t : Store} {env : Nat → Weather} {env' : Nat → Unit} {log : Log}
  {process : Nat} {uid : String} {α β ε : Type}

theorem insertVerificationEvent_assets {db db' : Db} {assetId : Option String}
    {row : String → VerificationEventRow} {a : Unit}
    (h : db.insertVerificationEvent assetId row = .ok (a, db')) : db'.assets = db.assets := by
  dsimp only [Db.insertVerificationEvent] at h
  split at h
  · cases h
  · split at h
    · cases h
    · cases h
      rfl

theorem exec_inStep {op : Op} (hop : AsideOp op) (w : Weather) (hst : InStep process s t) :
    (cachedMachine.exec w op s).1 = (uncachedMachine.exec () op t).1 ∧
      InStep process (cachedMachine.exec w op s).2 (uncachedMachine.exec () op t).2 := by
  obtain ⟨hverify, hcache⟩ := hop
  obtain ⟨hdb, hl1⟩ := hst
  cases hverify with
  | l1Get | l1Insert | redisGet | redisSetEx => cases hcache
  | asset | ctr | commitment | brand | platform =>
      refine ⟨?_, hdb, hl1⟩
      show Except.ok _ = Except.ok _
      rw [hdb]
  | @event assetId row =>
      show (command {} s fun db => db.insertVerificationEvent assetId row).1 =
          (command {} t fun db => db.insertVerificationEvent assetId row).1 ∧
        InStep process (command {} s fun db => db.insertVerificationEvent assetId row).2
          (command {} t fun db => db.insertVerificationEvent assetId row).2
      simp only [command, hdb]
      cases hinsert : t.db.insertVerificationEvent assetId row with
      | error e => exact ⟨rfl, hdb, hl1⟩
      | ok r =>
          refine ⟨rfl, rfl, fun uid ctr hctr => ?_⟩
          rw [hl1 uid ctr hctr, hdb]
          simp only [Db.counterOf, Db.selectLastVerifiedCtr, Db.assetByUid,
            insertVerificationEvent_assets hinsert]

theorem agrees_aside {p : Service α} (hp : Meets (fun _ => AsideOp) (fun _ _ => True) [] p)
    (hst : InStep process s t) :
    cachedMachine.Agrees uncachedMachine (InStep process) p env env' s t :=
  Machine.agrees_of_meets hp (fun _ hop w _ _ _ hst => exec_inStep hop w hst) hst

theorem calls_attempt {calls : Op → Prop} {p : Service (Except ε α)} {refuse : ε → β}
    {f : α → Service β} (hp : Meets (fun _ => calls) (fun _ _ => True) log p)
    (hf : ∀ a log', Meets (fun _ => calls) (fun _ _ => True) log' (f a)) :
    Meets (fun _ => calls) (fun _ _ => True) log (p.attempt refuse f) := by
  rw [meets_attempt]
  apply hp.mono (fun _ _ h => h)
  intro log' r _
  cases r with
  | error e => trivial
  | ok a => exact hf a log'

theorem calls_map {calls : Op → Prop} {op : Op} {f : op.Answer → α} (hop : calls op) :
    Meets (fun _ => calls) (fun _ _ => True) log ((ask op).map f) := ⟨hop, fun _ => trivial⟩

/-- The reads a summary is made of. -/
inductive SummaryOp : Op → Prop
  | commitment {uid : String} {epoch : Int32} : SummaryOp (.selectCommitmentByUidEpoch uid epoch)
  | brand {commitmentId : String} : SummaryOp (.selectBrandAttestation commitmentId)
  | platform {commitmentId : String} : SummaryOp (.selectPlatformAttestation commitmentId)

theorem SummaryOp.aside {op : Op} (h : SummaryOp op) : AsideOp op := by
  cases h with
  | commitment => exact ⟨.commitment, rfl⟩
  | brand => exact ⟨.brand, rfl⟩
  | platform => exact ⟨.platform, rfl⟩

theorem summary_buildSummary (asset : AssetVerifyRow) :
    Meets (fun _ => SummaryOp) (fun _ _ => True) log (buildSummary app asset) := by
  have hresolve : Meets (fun _ => SummaryOp) (fun _ _ => True) log
      (resolveAssetCommitmentId asset) := by
    rw [resolveAssetCommitmentId]
    split
    · trivial
    · exact calls_map SummaryOp.commitment
  apply calls_attempt hresolve
  intro id log'
  cases id with
  | none => trivial
  | some commitmentId =>
      apply calls_attempt
      · apply calls_attempt (calls_map SummaryOp.brand)
        intro record log'
        cases record <;> trivial
      · intro brand log'
        apply calls_attempt
        · apply calls_attempt (calls_map SummaryOp.platform)
          intro record log'
          cases record <;> trivial
        · intro platform log'
          trivial

theorem aside_buildSummary (asset : AssetVerifyRow) :
    Meets (fun _ => AsideOp) (fun _ _ => True) log (buildSummary app asset) :=
  (summary_buildSummary asset).mono (fun _ _ => SummaryOp.aside) fun _ _ => id

theorem aside_answerScan {uidHex now : String} {asset : AssetVerifyRow} {newCtr : UInt32}
    {previousCtr : Option UInt32} {replay v2 : Bool} :
    Meets (fun _ => AsideOp) (fun _ _ => True) log
      (answerScan app uidHex asset newCtr previousCtr replay v2 now) := by
  rw [answerScan]
  split
  · apply calls_attempt (aside_buildSummary asset)
    intro s log'
    exact calls_map ⟨.event, rfl⟩
  · exact ⟨⟨.event, rfl⟩, fun _ => trivial⟩

theorem aside_handleDegraded {uidHex : String} {v2 : Bool} :
    Meets (fun _ => AsideOp) (fun _ _ => True) log (handleDegraded app uidHex v2) := by
  rw [handleDegraded, fetchAssetByUid, meets_bind, meets_map]
  refine ⟨⟨.asset, rfl⟩, fun r => ?_⟩
  rw [meets_done]
  split
  · split
    · apply calls_attempt (aside_buildSummary _)
      intro s log'
      trivial
    · trivial
  · trivial
  · trivial

/-- The counter of one tag is written, and then filled into the caches. -/
theorem agrees_updateCtr {ctr : UInt32} (hdb : s.db = t.db) (hctr : s.db.counterOf uid = ctr)
    (hl1 : ∀ uid', uid' ≠ uid → ∀ c, s.l1 app.process uid' = some c → c = s.db.counterOf uid') :
    cachedMachine.Agrees uncachedMachine (InStep app.process) (updateCtr app uid ctr) env env' s t := by
  have hcurrent : (s.setL1 app.process uid (some ctr)).L1Current app.process := by
    intro uid' c hc
    rw [l1_setL1] at hc
    split at hc
    · next huid =>
      rw [huid, ← Option.some.inj hc]
      exact hctr.symm
    · next huid => exact hl1 uid' huid c hc
  obtain ⟨hsame, hsame'⟩ := run_backfillL2 app uid ctr (fun n => env (n + 1))
    (s.setL1 app.process uid (some ctr))
  refine ⟨rfl, hsame.trans (hdb.trans ?_), hcurrent.of_eq hsame hsame'⟩
  show t.db = (uncachedMachine.run (backfillL2 app uid ctr) (fun n => env' (n + 1)) t).state.db
  rw [backfillL2]
  split <;> rfl

theorem run_getCtr_uncached (app : AppState) (uid : String) (env' : Nat → Unit) (t : Store) :
    (uncachedMachine.run (getCtr app uid) env' t).answer = .ok (t.db.counterOf uid) ∧
      (uncachedMachine.run (getCtr app uid) env' t).state = t := by
  cases havailable : app.redisAvailable with
  | false =>
      simp only [getCtr, getCtrL3, backfillL2, havailable, Bool.false_eq_true, if_false]
      exact ⟨rfl, rfl⟩
  | true =>
      simp only [getCtr, getCtrL3, backfillL2, havailable, if_true]
      exact ⟨rfl, rfl⟩

/-- Every counter Redis answers in the run is the one the database has. -/
def RedisAnswers (db : Db) (log : Log) : Prop :=
  ∀ uid ctr, ⟨.redisGet uid, .ok (some ctr)⟩ ∈ log → ctr = db.counterOf uid

theorem agrees_getCtr (hst : InStep app.process s t)
    (hread : ReadsCurrent app.process uid s (cachedMachine.run (getCtr app uid) env s)) :
    cachedMachine.Agrees uncachedMachine (InStep app.process) (getCtr app uid) env env' s t := by
  obtain ⟨hanswer, hstate⟩ := run_getCtr_uncached app uid env' t
  constructor
  · rw [hread.answer, hanswer, hst.db]
  · rw [hstate]
    exact ⟨hread.db.trans hst.db, hread.l1⟩

/-- The scan is fresh on both sides: the counter is stored, and the caches follow. -/
theorem agrees_fresh {uidHex now : String} {asset : AssetVerifyRow} {newCtr : UInt32}
    {previousCtr : Option UInt32} {v2 : Bool} (hst : InStep app.process s t)
    (hrow : s.db.selectAssetByUid uidHex = some asset) :
    cachedMachine.Agrees uncachedMachine (InStep app.process)
      ((ask (.updateAssetCtr asset.assetId newCtr.toInt32)).attempt (fun _ => serverError v2) fun _ =>
        (updateCtr app uidHex newCtr).bind fun _ =>
        answerScan app uidHex asset newCtr previousCtr false v2 now) env env' s t := by
  have hupdated : cachedMachine.Agrees uncachedMachine (InStep app.process) (updateCtr app uidHex newCtr)
      (fun n => env (n + 1)) (fun n => env' (n + 1))
      { s with db := s.db.updateAssetCtr asset.assetId newCtr.toInt32 }
      { t with db := t.db.updateAssetCtr asset.assetId newCtr.toInt32 } := by
    apply agrees_updateCtr
    · show s.db.updateAssetCtr _ _ = t.db.updateAssetCtr _ _
      rw [hst.db]
    · exact (counterOf_updateAssetCtr hrow).trans (if_pos rfl)
    · intro uid' hne c hc
      exact (hst.l1 uid' c hc).trans ((counterOf_updateAssetCtr hrow).trans (if_neg hne)).symm
  refine Machine.agrees_call ?_ ?_
  · rfl
  · exact hupdated.bind (agrees_aside aside_answerScan hupdated.state)

theorem agrees_checkCounter {uidHex now : String} {asset : AssetVerifyRow} {newCtr : UInt32}
    {v2 : Bool} (hst : InStep app.process s t) (hrow : s.db.selectAssetByUid uidHex = some asset)
    (hredis : RedisAnswers s.db (cachedMachine.run (checkCounter app uidHex asset newCtr v2 now) env s).log) :
    cachedMachine.Agrees uncachedMachine (InStep app.process)
      (checkCounter app uidHex asset newCtr v2 now) env env' s t := by
  have hread : ReadsCurrent app.process uidHex s (cachedMachine.run (getCtr app uidHex) env s) :=
    readsCurrent_getCtr hst.l1 fun ctr hctr => hredis uidHex ctr (Machine.mem_log_bind hctr)
  have hst' := (agrees_getCtr hst hread : cachedMachine.Agrees uncachedMachine _ _ env env' s t).state
  refine (agrees_getCtr hst hread).bind ?_
  rw [hread.answer]
  dsimp only
  split
  · exact agrees_aside aside_answerScan hst'
  · exact agrees_fresh hst' (by rw [hread.db, hrow])

theorem agrees_handleFullVerify {uidHex now : String} {parsed : SunMessage} {v2 : Bool}
    (hst : InStep app.process s t)
    (hredis : RedisAnswers s.db (cachedMachine.run (handleFullVerify app uidHex parsed v2 now) env s).log) :
    cachedMachine.Agrees uncachedMachine (InStep app.process)
      (handleFullVerify app uidHex parsed v2 now) env env' s t := by
  have hfetched : cachedMachine.Agrees uncachedMachine (InStep app.process) (fetchAssetByUid uidHex)
      env env' s t := agrees_aside (calls_map ⟨.asset, rfl⟩) hst
  have hrun : cachedMachine.run (fetchAssetByUid uidHex) env s =
      ⟨found .assetNotFound (.ok (s.db.selectAssetByUid uidHex)),
        [⟨.selectAssetByUid uidHex, .ok (s.db.selectAssetByUid uidHex)⟩], s⟩ := rfl
  refine hfetched.bind ?_
  rw [hrun]
  cases hrow : s.db.selectAssetByUid uidHex with
  | none => exact agrees_aside (calls_map ⟨.event, rfl⟩) hfetched.state
  | some asset =>
      dsimp only [found]
      cases htag : checkTag app asset.brandId asset.epoch parsed with
      | error e => exact Machine.agrees_done hst
      | ok authentic =>
          cases authentic with
          | false => exact agrees_aside ⟨⟨.event, rfl⟩, fun _ => trivial⟩ hst
          | true =>
              refine agrees_checkCounter hst hrow fun uid ctr hctr => hredis uid ctr ?_
              apply Machine.mem_log_then
              rw [hrun, hrow]
              simpa only [found, htag] using hctr

/-- A request is answered alike, and leaves the two sides in step. -/
theorem agrees_handle {call : VerifyCall} (hst : InStep app.process s t)
    (hredis : RedisAnswers s.db (cachedMachine.run (call.handle app) env s).log) :
    cachedMachine.Agrees uncachedMachine (InStep app.process) (call.handle app) env env' s t := by
  revert hredis
  rw [VerifyCall.handle, verifyImpl]
  split
  · exact fun _ => Machine.agrees_done hst
  · split
    · exact fun _ => agrees_aside aside_handleDegraded hst
    · split
      · exact fun _ => Machine.agrees_done hst
      · exact agrees_handleFullVerify hst

end Requests

section Runs
variable {app : AppState} {start finish : Store} {h : List ServedScan}

/-- Whatever is served without caches, from the same database, is what was served. -/
theorem serves_inStep (run : Serves cachedMachine (VerifyCall.handle app) start h finish)
    (hredis : RedisCurrent h) (hl1 : start.L1Current app.process) {h' : List ServedScan}
    {finish' : Store} (run' : Serves uncachedMachine (VerifyCall.handle app) start h' finish')
    (hrequests : h'.map (·.request) = h.map (·.request)) :
    h'.map (·.answer) = h.map (·.answer) ∧ InStep app.process finish finish' := by
  induction run generalizing h' finish' with
  | start =>
      obtain rfl := List.map_eq_nil_iff.mp hrequests
      generalize hnil : ([] : List ServedScan) = h' at run'
      cases run' with
      | start => exact ⟨rfl, rfl, hl1⟩
      | step => simp at hnil
  | @step h s run q env ih =>
      cases run' with
      | start => simp at hrequests
      | @step h' s' run' q' env' =>
          rw [List.map_append, List.map_append] at hrequests
          obtain ⟨hinit, hq⟩ := List.append_inj' hrequests rfl
          obtain rfl : q' = q := (List.cons.inj hq).1
          have hbefore : RedisCurrent h := fun e he => hredis e (List.mem_append_left _ he)
          obtain ⟨hanswers, hstep⟩ := ih hbefore run' hinit
          have hlast := hredis _ (List.mem_append_right _ (List.mem_singleton_self _))
          have hagrees : cachedMachine.Agrees uncachedMachine _ _ env env' s s' :=
            agrees_handle hstep hlast
          refine ⟨?_, hagrees.state⟩
          rw [List.map_append, List.map_append, hanswers]
          exact congrArg (fun a => h.map (·.answer) ++ [a]) hagrees.answer.symm

/-- The requests of a history, served without caches. -/
def uncachedHistory (app : AppState) (start : Store) (h : List ServedScan) : List ServedScan :=
  uncachedMachine.serveAll (VerifyCall.handle app) start (h.map fun e => (e.request, fun _ => ()))

theorem served_uncached (app : AppState) (start : Store) (h : List ServedScan) :
    ∃ finish', Serves uncachedMachine (VerifyCall.handle app) start (uncachedHistory app start h) finish' :=
  serveAll_serves _ _

theorem requests_uncached (app : AppState) (start : Store) (h : List ServedScan) :
    (uncachedHistory app start h).map (·.request) = h.map (·.request) := by
  rw [uncachedHistory, serveAll_requests, List.map_map]
  rfl

/-- The entries of the process are current wherever a request starts. -/
theorem serves_l1Current (run : Serves cachedMachine (VerifyCall.handle app) start h finish)
    (hredis : RedisCurrent h) (hl1 : start.L1Current app.process) {h₁ h₂ : List ServedScan}
    {e : ServedScan} (hh : h = h₁ ++ e :: h₂) : e.before.L1Current app.process := by
  obtain ⟨finish', run'⟩ := served_uncached app start h₁
  have hbefore : RedisCurrent h₁ := fun e he => hredis e (by simp [hh, he])
  exact (serves_inStep (run.split hh) hbefore hl1 run' (requests_uncached app start h₁)).2.l1

theorem trace_cached {s s' : Store} {log : Log} (h : cachedMachine.Trace s log s') :
    machine.Trace s log s' := by
  induction h with
  | nil s => exact .nil s
  | cons w op h ih => exact .cons _ op ih

/-- A counter that a request reads is the stored one. -/
theorem read_current (run : Serves cachedMachine (VerifyCall.handle app) start h finish)
    (hredis : RedisCurrent h) (hl1 : start.L1Current app.process) {e : ServedScan} (he : e ∈ h)
    {uid : String} {row : Except String (Option AssetVerifyRow)} {read rest : Log} {ctr : UInt32}
    (hlog : e.log = ⟨.selectAssetByUid uid, row⟩ :: (read ++ rest))
    (hread : CtrRead app.process uid read ctr) : ctr = e.before.db.counterOf uid := by
  obtain ⟨env, hrun, -, -⟩ := run.entry_run he
  have htrace := trace_cached (cachedMachine.run_trace (e.request.handle app) env e.before)
  rw [← hrun, hlog] at htrace
  obtain ⟨-, htrace⟩ := trace_query htrace fun _ _ => query_state _
  have hanswered := hredis e he uid
  rw [hlog] at hanswered
  cases hread with
  | l1 =>
      obtain ⟨h₁, h₂, hh⟩ := List.append_of_mem he
      obtain ⟨env, hr, -⟩ := machine.trace_cons.mp htrace
      exact serves_l1Current run hredis hl1 hh uid ctr (exec_l1Get hr)
  | l2 => exact hanswered ctr (by simp)
  | l3 hmissed _ =>
      rw [List.cons_append, List.append_assoc] at htrace
      rw [Db.counterOf, trace_l3 hmissed htrace]

/-- In every history of a process in which Redis only answers what PostgreSQL has, the
cache cannot be told from reading the counters in PostgreSQL. -/
theorem cache_transparent (run : Serves cachedMachine (VerifyCall.handle app) start h finish)
    (hl1 : ∀ uid, start.l1 app.process uid = none) (hredis : RedisCurrent h) :
    Transparent app h start finish := by
  have hcurrent : start.L1Current app.process := by
    intro uid ctr hctr
    rw [hl1 uid] at hctr
    cases hctr
  constructor
  · intro h' finish' run' hrequests
    obtain ⟨hanswers, hstep⟩ := serves_inStep run hredis hcurrent run' hrequests
    exact ⟨hanswers, fun id => by rw [hstep.db]⟩
  · intro e he uid row read rest ctr hlog hread
    rw [read_current run hredis hcurrent he hlog hread]
    exact UInt32.le_refl _

end Runs

section Sample

/-- The primitives on three scans of one tag, told apart by their counters. -/
def countedPrimitives : Primitives :=
  { scanPrimitives with
    cmacAes128 := fun _ message =>
      if message[9]? = some 0x05 then hexBytes 16 "b578135c07a5312f060a1e2c58f8b263"
      else if message[9]? = some 0x07 then hexBytes 16 "a6298c85818608691f9fced32d4630ea"
      else hexBytes 16 "78e5814521ab8592562aed4ef0317440" }

def countedApp : AppState where
  crypto := countedPrimitives
  kms := softwareKms countedPrimitives rootKey "test-system"
  redisAvailable := true

def countedScan (ctr cmac : String) : VerifyCall where
  params := { uid := some "04A31B2C3D4E5F", ctr := some ctr, cmac := some cmac }
  v2 := false

def fiveScan : VerifyCall := countedScan "050000" "785ca52f0a2cf863"

def sevenScan : VerifyCall := countedScan "070000" "298586699fd346ea"

def tenScan : VerifyCall := countedScan "0A0000" "e545ab922a4e3140"

/-- A scan of five, one of ten and one of seven, which Redis answers. -/
def calmHistory : List ServedScan :=
  cachedMachine.serveAll (VerifyCall.handle countedApp) taggedStore
    [(fiveScan, fun _ => {}), (tenScan, fun _ => {}), (sevenScan, fun n => { expired := n = 1 })]

theorem calmHistory_serves :
    ∃ finish, Serves cachedMachine (VerifyCall.handle countedApp) taggedStore calmHistory finish :=
  serveAll_serves _ _

/-- The same scans, and Redis does not take the counter of the second. -/
def staleHistory : List ServedScan :=
  cachedMachine.serveAll (VerifyCall.handle countedApp) taggedStore
    [(fiveScan, fun _ => {}), (tenScan, fun _ => { redisFails := some "timeout" }),
      (sevenScan, fun n => { expired := n = 1 })]

theorem staleHistory_serves :
    ∃ finish, Serves cachedMachine (VerifyCall.handle countedApp) taggedStore staleHistory finish :=
  serveAll_serves _ _

def redisHit : Event api → Option (String × UInt32)
  | ⟨.redisGet uid, .ok (some ctr)⟩ => some (uid, ctr)
  | _ => none

theorem redisCurrent_of_computed {h : List ServedScan}
    (hall : ∀ e ∈ h, ∀ v ∈ e.log, ∀ hit ∈ redisHit v, hit.2 = e.before.db.counterOf hit.1) :
    RedisCurrent h := fun e he uid ctr hmem => hall e he _ hmem (uid, ctr) rfl

theorem cache_transparent_calm :
    (calmHistory.flatMap (·.log)).filterMap redisHit = [("04A31B2C3D4E5F", 10)] ∧
      ∃ finish, Transparent countedApp calmHistory taggedStore finish := by
  obtain ⟨finish, run⟩ := calmHistory_serves
  refine ⟨by decide +kernel, finish, cache_transparent run (fun _ => rfl) ?_⟩
  exact redisCurrent_of_computed (by decide +kernel)

/-- The older counter Redis was left with lets a replay through. -/
theorem stale_counter_is_served :
    ¬∀ (app : AppState) (start finish : Store) (h : List ServedScan),
      Serves cachedMachine (VerifyCall.handle app) start h finish →
        (∀ uid, start.l1 app.process uid = none) → Transparent app h start finish := by
  intro hall
  obtain ⟨finish, run⟩ := staleHistory_serves
  have htransparent := hall countedApp taggedStore finish staleHistory run fun _ => rfl
  obtain ⟨finish', run'⟩ := served_uncached countedApp taggedStore staleHistory
  obtain ⟨hanswers, -⟩ := htransparent.direct _ finish' run' (requests_uncached _ _ _)
  have haccepted := congrArg (List.map Reply.accepted) hanswers
  rw [List.map_map, List.map_map] at haccepted
  revert haccepted
  decide +kernel

end Sample

end RcProtocol
