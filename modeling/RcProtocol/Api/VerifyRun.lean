import RcProtocol.Api.Counter
import RcProtocol.Api.VerifySpec

/-!
A verification that runs alone: what it reads is what the store it starts from
holds.
-/

namespace RcProtocol
open Library

/-- The tables of commitments and attestations. -/
def Db.attestations (db : Db) :
    Table AssetCommitmentRecord × Table AttestationRecord × Table AttestationRecord :=
  (db.commitments, db.brandAttestations, db.platformAttestations)

/-- No verification writes them. -/
theorem Changes.attestations {e : Event api} {db db' : Db} (h : Changes e db db')
    (hop : VerifyOp e.op ∨ ∃ id ctr, e.op = .updateAssetCtr id ctr) :
    db'.attestations = db.attestations := by
  cases h with
  | insertAssetCommitment | insertBrandAttestation | insertPlatformAttestation =>
      obtain h | ⟨_, _, h⟩ := hop <;> cases h
  | _ => rfl

/-- The counters a request of the process can be given for a tag: its own, the
shared one, and the stored one. -/
inductive CachedCtr (s : Store) (process : Nat) (uid : String) : UInt32 → Prop
  | l1 {ctr : UInt32} (h : s.l1 process uid = some ctr) : CachedCtr s process uid ctr
  | l2 {ctr : UInt32} (h : s.redis uid = some ctr) : CachedCtr s process uid ctr
  | l3 : CachedCtr s process uid ((s.db.selectLastVerifiedCtr uid).join.getD 0).toUInt32

section Cache
variable {s s' : Store} {process : Nat} {uid : String} {ctr : UInt32} {log : Log} {env : Env}

theorem exec_l1Get_state :
    (exec env (.l1Get process uid) s).2.db = s.db ∧
      (exec env (.l1Get process uid) s).2.redis = s.redis := by
  unfold exec
  split <;> exact ⟨rfl, rfl⟩

theorem exec_l1Get (h : (exec env (.l1Get process uid) s).1 = some ctr) :
    s.l1 process uid = some ctr := by
  change (if env.expired then _ else _ : Option UInt32 × Store).1 = some ctr at h
  split at h
  · cases h
  · exact h

theorem exec_redisGet (h : (exec env (.redisGet uid) s).1 = .ok (some ctr)) :
    s.redis uid = some ctr := by
  cases hf : env.fails with
  | some e => simp [exec, hf] at h
  | none =>
      by_cases he : env.expired = true
      · simp [exec, hf, he] at h
      · simpa [exec, hf, he] using h

theorem trace_l1_miss (h : machine.Trace s (⟨.l1Get process uid, none⟩ :: log) s') :
    ∃ t, machine.Trace t log s' ∧ t.db = s.db ∧ t.redis = s.redis := by
  obtain ⟨env, -, h⟩ := machine.trace_cons.mp h
  exact ⟨_, h, exec_l1Get_state⟩

/-- A counter read from PostgreSQL is the one stored where the read starts. -/
theorem trace_l3 {missed : Log} {stored : Option (Option Int32)}
    (hmissed : ∀ e ∈ missed, e.op = .redisGet uid)
    (h : machine.Trace s (⟨.l1Get process uid, none⟩ ::
      (missed ++ (⟨.selectLastVerifiedCtr uid, .ok stored⟩ :: log))) s') :
    s.db.selectLastVerifiedCtr uid = stored := by
  obtain ⟨t, h, hdb, -⟩ := trace_l1_miss h
  obtain ⟨t', hmiss, h⟩ := machine.trace_append.mp h
  obtain ⟨env, hr, -⟩ := machine.trace_cons.mp h
  have hread : t'.db.selectLastVerifiedCtr uid = stored := query_ok hr
  have hsame : t'.db = t.db := by
    refine trace_unwritten hmiss fun e he => ?_
    obtain ⟨op, r⟩ := e
    obtain rfl := hmissed _ he
    rfl
  rw [← hread, hsame, hdb]

/-- A counter that was read is one of the three levels. -/
theorem CtrRead.cached {read : Log} (hread : CtrRead process uid read ctr)
    (h : machine.Trace s (read ++ log) s') : CachedCtr s process uid ctr := by
  cases hread with
  | l1 =>
      obtain ⟨env, hr, -⟩ := machine.trace_cons.mp h
      exact .l1 (exec_l1Get hr)
  | l2 =>
      obtain ⟨t, h, -, hredis⟩ := trace_l1_miss h
      obtain ⟨env, hr, -⟩ := machine.trace_cons.mp h
      exact .l2 (hredis ▸ exec_redisGet hr)
  | l3 hmissed _ =>
      rw [List.cons_append, List.append_assoc] at h
      rw [← trace_l3 hmissed h]
      exact .l3

theorem CtrRead.not_wrote {read : Log} (h : CtrRead process uid read ctr) :
    ¬counterView.Wrote read := by
  rw [View.not_wrote_iff]
  intro e he
  cases h with
  | l1 | l2 =>
      simp only [List.mem_cons, List.not_mem_nil, or_false] at he
      obtain rfl | rfl | rfl := he <;> rfl
  | l3 hmissed hbackfill =>
      obtain rfl | he := List.mem_cons.mp he
      · rfl
      obtain he | he := List.mem_append.mp he
      · obtain ⟨op, r⟩ := e
        obtain rfl := hmissed _ he
        rfl
      obtain rfl | he := List.mem_cons.mp he
      · rfl
      · obtain ⟨op, r⟩ := e
        cases hbackfill _ he <;> rfl

end Cache

namespace VerifyCall
variable {app : AppState} {call : VerifyCall} {env : Nat → machine.Env} {s : Store}
  {row : AssetVerifyRow}

/-- An accepted scan was checked against the row of its tag and a counter of one of
the levels, as they were before the request. -/
theorem run_updated (h : call.Updated app row (machine.run (call.handle app) env s).log) :
    ∃ uidHex message read cached, call.Fresh app uidHex message row read cached ∧
      s.db.selectAssetByUid uidHex = some row ∧ CachedCtr s app.process uidHex cached := by
  obtain ⟨uidHex, message, read, cached, rest, hfresh, hlog⟩ := h
  have htrace := machine.run_trace (call.handle app) env s
  rw [hlog] at htrace
  obtain ⟨⟨env', hrow⟩, hread⟩ := trace_query htrace fun _ _ => query_state _
  exact ⟨uidHex, message, read, cached, hfresh, query_ok hrow, hfresh.read.cached hread⟩

theorem Calls.counter {log : Log} {e : Event api} {key : String}
    {f : Option Int32 → Option Int32} (h : call.Calls app log e.op)
    (hf : counterView.write e = some (key, f)) :
    ∃ uidHex message row read cached, call.Fresh app uidHex message row read cached ∧
      log = ⟨.selectAssetByUid uidHex, .ok (some row)⟩ :: read ∧
      key = row.assetId ∧ f = fun _ => some message.ctrValue.toInt32 := by
  obtain ⟨op, r⟩ := e
  obtain ⟨⟨id, ctr⟩, hw, heq⟩ := Option.map_eq_some_iff.mp hf
  obtain ⟨rfl, rfl⟩ := Prod.mk.inj heq
  cases ctrUpdate_eq hw
  cases h with
  | side hop => cases hop
  | @update uidHex message row read cached hfresh =>
      exact ⟨uidHex, message, row, read, cached, hfresh, rfl, rfl, rfl⟩

/-- A request alone writes one counter at most: that of the tag it authenticated,
over a counter of one of the levels. -/
theorem run_counter (app : AppState) (call : VerifyCall) (env : Nat → machine.Env) (s : Store) :
    (¬counterView.Wrote (machine.run (call.handle app) env s).log ∧
      ∀ id, (machine.run (call.handle app) env s).state.db.storedCtr id = s.db.storedCtr id) ∨
    ∃ uidHex message row read cached, call.Fresh app uidHex message row read cached ∧
      s.db.selectAssetByUid uidHex = some row ∧ CachedCtr s app.process uidHex cached ∧
      ∀ id, (machine.run (call.handle app) env s).state.db.storedCtr id =
        if row.assetId = id then (s.db.storedCtr id).map fun _ => some message.ctrValue.toInt32
        else s.db.storedCtr id := by
  have hrun := counterView.run_once (call.verifyImpl_meets app) ?_ env s
  · obtain h | ⟨before, e, after, key, f, t, -, hcall, hf, htrace, hstate⟩ := hrun
    · exact .inl h
    · obtain ⟨uidHex, message, row, read, cached, hfresh, rfl, rfl, rfl⟩ := hcall.counter hf
      obtain ⟨⟨env', hrow⟩, hread⟩ := trace_query htrace fun _ _ => query_state _
      rw [← List.append_nil read] at hread
      exact .inr ⟨uidHex, message, row, read, cached, hfresh, query_ok hrow,
        hfresh.read.cached hread, hstate⟩
  · intro log e key f hcall hf
    obtain ⟨uidHex, message, row, read, cached, hfresh, rfl, -, -⟩ := hcall.counter hf
    rw [← List.singleton_append, View.not_wrote_append]
    exact ⟨by simp [View.Wrote, counterView, ctrUpdate], hfresh.read.not_wrote⟩

theorem run_calls (e : Event api) (he : e ∈ (machine.run (call.handle app) env s).log) :
    VerifyOp e.op ∨ ∃ id ctr, e.op = .updateAssetCtr id ctr := by
  obtain ⟨before, after, hlog⟩ := List.append_of_mem he
  have hcall := machine.meets_run_calls (call.verifyImpl_meets app) env s hlog
  obtain ⟨op, r⟩ := e
  cases hcall with
  | side h => exact .inl h
  | update h => exact .inr ⟨_, _, rfl⟩

/-- What the log shows of commitments and attestations is what the store held
before the request. -/
theorem run_reads {e : Event api} (he : e ∈ (machine.run (call.handle app) env s).log) :
    ∃ t env', t.db.attestations = s.db.attestations ∧ (machine.exec env' e.op t).1 = e.answer := by
  have hcalls : ∀ e ∈ (machine.run (call.handle app) env s).log,
      VerifyOp e.op ∨ ∃ id ctr, e.op = .updateAssetCtr id ctr := run_calls
  have htrace := machine.run_trace (call.handle app) env s
  generalize (machine.run (call.handle app) env s).log = log at *
  obtain ⟨before, after, rfl⟩ := List.append_of_mem he
  obtain ⟨t, hbefore, htrace⟩ := machine.trace_append.mp htrace
  obtain ⟨env', hr, -⟩ := machine.trace_cons.mp htrace
  refine ⟨t, env', ?_, hr⟩
  refine hbefore.invariant (I := fun t => t.db.attestations = s.db.attestations) rfl ?_
  intro env op t hmem ht
  refine Eq.trans ?_ ht
  exact (machine_changes env op t).attestations (hcalls _ (List.mem_append_left _ hmem))

end VerifyCall

end RcProtocol
