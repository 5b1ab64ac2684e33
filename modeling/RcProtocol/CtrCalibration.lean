import RcProtocol.Api.CtrCalibrate
import RcProtocol.Library.Passes

/-!
What a calibration leaves. Each row of the pass concerns the counter of one UID on both
sides, so that the pass is read off UID by UID.
-/

namespace RcProtocol
open Library

/-- The counter of a UID in PostgreSQL, where a NULL counts as zero. -/
def Db.pgCtr (db : Db) (uid : String) : Option UInt32 :=
  (db.selectLastVerifiedCtr uid).map fun ctr => (ctr.getD 0).toUInt32

/-- Close enough to be corrected without an operator. -/
def Near (a b : UInt32) : Prop :=
  ((a.toNat : Int) - b.toNat).natAbs ≤ autoSkipThreshold

instance (a b : UInt32) : Decidable (Near a b) := Nat.decLe _ _

/-- The counter of a UID on both sides: the column, where the UID is stored, and Redis. -/
abbrev CtrEntry := Option (Option Int32) × Option UInt32

def Store.ctrEntry (s : Store) (uid : String) : CtrEntry :=
  (s.db.selectLastVerifiedCtr uid, s.redis uid)

/-- The entry of a UID after the row that lists it. -/
def calibrateEntry (row : String × Int32) (entry : CtrEntry) : CtrEntry :=
  match entry.2 with
  | none => entry
  | some redisCtr =>
      if redisCtr = row.2.toUInt32 ∨ ¬Near redisCtr row.2.toUInt32 then entry
      else if redisCtr > row.2.toUInt32 then (entry.1.map fun _ => some redisCtr.toInt32, entry.2)
      else (entry.1, some row.2.toUInt32)

/-- The state after one row of the pass. -/
def calibrateStore (s : Store) (row : String × Int32) : Store :=
  match s.redis row.1 with
  | none => s
  | some redisCtr =>
      if redisCtr = row.2.toUInt32 ∨ ¬Near redisCtr row.2.toUInt32 then s
      else if redisCtr > row.2.toUInt32 then
        { s with db := s.db.updateCtrByUid row.1 redisCtr.toInt32 }
      else s.setRedis row.1 (some row.2.toUInt32)

section Pass
variable {order : RowOrder} {s : Store}

theorem evaluates_getRedisCtr (uid : String) :
    ctrMachine.Evaluates { order := order } (getRedisCtr uid) s (s.redis uid) s := ⟨rfl, rfl⟩

theorem evaluates_calibrateRow (row : String × Int32) (counts : AutoCounts) :
    ∃ counts', ctrMachine.Evaluates { order := order } (calibrateRow row counts) s counts'
      (calibrateStore s row) := by
  have hread : ctrMachine.Evaluates { order := order } (getRedisCtr row.1) s (s.redis row.1) s :=
    evaluates_getRedisCtr row.1
  rw [calibrateStore]
  cases hredis : s.redis row.1 with
  | none =>
      rw [hredis] at hread
      exact ⟨_, hread.bind Machine.evaluates_done⟩
  | some redisCtr =>
      rw [hredis] at hread
      by_cases hsame : redisCtr = row.2.toUInt32
      · refine ⟨counts, hread.bind ?_⟩
        dsimp only
        rw [if_pos hsame, if_pos (.inl hsame)]
        exact Machine.evaluates_done
      · by_cases hnear : Near redisCtr row.2.toUInt32
        · have hstored : ¬(redisCtr = row.2.toUInt32 ∨ ¬Near redisCtr row.2.toUInt32) := by
            rintro (h | h)
            · exact hsame h
            · exact h hnear
          by_cases hlarger : redisCtr > row.2.toUInt32
          · refine ⟨{ counts with corrected := counts.corrected + 1 }, hread.bind ?_⟩
            dsimp only
            rw [if_neg hsame, if_neg (Nat.not_lt.mpr hnear), if_pos hlarger, if_neg hstored,
              if_pos hlarger]
            exact ⟨rfl, rfl⟩
          · refine ⟨{ counts with corrected := counts.corrected + 1 }, hread.bind ?_⟩
            dsimp only
            rw [if_neg hsame, if_neg (Nat.not_lt.mpr hnear), if_neg hlarger, if_neg hstored,
              if_neg hlarger]
            exact ⟨rfl, rfl⟩
        · refine ⟨{ counts with skipped := counts.skipped + 1 }, hread.bind ?_⟩
          dsimp only
          rw [if_neg hsame, if_pos (Nat.lt_of_not_le hnear), if_pos (.inr hnear)]
          exact Machine.evaluates_done

/-- By induction on the rows: the pass is the fold of its rows. -/
theorem evaluates_calibrateRows (rows : List (String × Int32)) (counts : AutoCounts) :
    ∃ counts', ctrMachine.Evaluates { order := order } (calibrateRows rows counts) s counts'
      (rows.foldl calibrateStore s) := by
  induction rows generalizing counts s with
  | nil => exact ⟨counts, Machine.evaluates_done⟩
  | cons row rows ih =>
      obtain ⟨counts₁, hrow⟩ : ∃ counts', ctrMachine.Evaluates { order := order }
          (calibrateRow row counts) s counts' (calibrateStore s row) :=
        evaluates_calibrateRow row counts
      obtain ⟨counts', hrows⟩ := @ih (calibrateStore s row) counts₁
      exact ⟨counts', hrow.bind hrows⟩

theorem run_runAuto (order : RowOrder) (s : Store) :
    (ctrMachine.run runAuto (fun _ => { order := order }) s).state =
      (order.order s.db.selectUidsWithCtr).foldl calibrateStore s := by
  have hread : ctrMachine.Evaluates { order := order } fetchAllUidsWithCtr s
      (order.order s.db.selectUidsWithCtr) s := ⟨rfl, rfl⟩
  obtain ⟨counts, hrows⟩ :=
    @evaluates_calibrateRows order s (order.order s.db.selectUidsWithCtr) ⟨0, 0⟩
  exact (hread.bind hrows).state

end Pass

section Entries
variable {db : Db} {s : Store} {uid uid' : String} {ctr : Int32} {row : String × Int32}

theorem assetByUid_updateCtrByUid :
    (db.updateCtrByUid uid ctr).assetByUid uid' = (db.assetByUid uid').map fun r =>
      if decide (r.uid = some uid) then { r with lastVerifiedCtr := some ctr } else r := by
  have hq : ∀ r : AssetRow, decide (({ r with lastVerifiedCtr := some ctr } : AssetRow).uid = some uid') =
      decide (r.uid = some uid') := fun _ => rfl
  rw [Db.assetByUid, Db.updateCtrByUid, Table.find_update hq, Db.assetByUid]

theorem selectLastVerifiedCtr_updateCtrByUid :
    (db.updateCtrByUid uid ctr).selectLastVerifiedCtr uid' =
      if uid' = uid then (db.selectLastVerifiedCtr uid').map fun _ => some ctr
      else db.selectLastVerifiedCtr uid' := by
  rw [Db.selectLastVerifiedCtr, assetByUid_updateCtrByUid, Db.selectLastVerifiedCtr]
  cases hrow : db.assetByUid uid' with
  | none => simp
  | some r =>
      have huid : r.uid = some uid' := Db.assetByUid_uid hrow
      by_cases hsame : uid' = uid
      · simp [huid, hsame]
      · simp [huid, hsame]

theorem ctrEntry_updateCtrByUid :
    ({ s with db := s.db.updateCtrByUid uid ctr } : Store).ctrEntry uid' =
      if uid' = uid then ((s.ctrEntry uid').1.map fun _ => some ctr, (s.ctrEntry uid').2)
      else s.ctrEntry uid' := by
  simp only [Store.ctrEntry, selectLastVerifiedCtr_updateCtrByUid]
  split <;> rfl

theorem ctrEntry_setRedis {ctr : Option UInt32} :
    (s.setRedis uid ctr).ctrEntry uid' =
      if uid' = uid then ((s.ctrEntry uid').1, ctr) else s.ctrEntry uid' := by
  simp only [Store.ctrEntry, Store.setRedis, Function.update_apply]
  split <;> rfl

theorem local_calibrateStore : Local Store.ctrEntry calibrateStore Prod.fst calibrateEntry := by
  constructor
  · intro s row
    have hentry : (s.ctrEntry row.1).2 = s.redis row.1 := rfl
    rw [calibrateStore, calibrateEntry, hentry]
    cases hredis : s.redis row.1 with
    | none => rfl
    | some redisCtr =>
        dsimp only
        split
        · rfl
        · split
          · rw [ctrEntry_updateCtrByUid, if_pos rfl, hentry, hredis]
          · rw [ctrEntry_setRedis, if_pos rfl]
  · intro s row uid hne
    rw [calibrateStore]
    cases s.redis row.1 with
    | none => rfl
    | some redisCtr =>
        dsimp only
        split
        · rfl
        · split
          · rw [ctrEntry_updateCtrByUid, if_neg hne]
          · rw [ctrEntry_setRedis, if_neg hne]

end Entries

/-- The entry of a UID after a pass: its own row lists the counter of its own column. -/
def CtrEntry.calibrated (entry : CtrEntry) : CtrEntry :=
  match entry.1 with
  | none => entry
  | some ctr => calibrateEntry ("", ctr.getD 0) entry

section Whole
variable {db : Db} {s : Store} {uid : String}

theorem mem_selectUidsWithCtr {ctr : Option Int32} (h : db.selectLastVerifiedCtr uid = some ctr) :
    (uid, ctr.getD 0) ∈ db.selectUidsWithCtr := by
  obtain ⟨r, hr, rfl⟩ := Option.map_eq_some_iff.mp h
  apply List.mem_filterMap.mpr
  exact ⟨r, Db.assetByUid_mem hr, by rw [Db.assetByUid_uid hr]; rfl⟩

theorem selectLastVerifiedCtr_of_mem {row : String × Int32} (h : row ∈ db.selectUidsWithCtr) :
    ∃ ctr, db.selectLastVerifiedCtr row.1 = some ctr ∧ ctr.getD 0 = row.2 := by
  obtain ⟨r, hr, hrow⟩ := List.mem_filterMap.mp h
  obtain ⟨uid, huid, rfl⟩ := Option.map_eq_some_iff.mp hrow
  exact ⟨r.lastVerifiedCtr, by rw [Db.selectLastVerifiedCtr, Db.assetByUid_of_mem hr huid]; rfl, rfl⟩

/-- UIDs are unique among the assets. -/
theorem nodup_selectUidsWithCtr (db : Db) : (db.selectUidsWithCtr.map Prod.fst).Nodup := by
  have huids : db.selectUidsWithCtr.map Prod.fst = db.assets.rows.filterMap (·.uid) := by
    rw [Db.selectUidsWithCtr, List.map_filterMap]
    congr 1
    funext r
    cases r.uid <;> rfl
  rw [huids]
  apply List.pairwise_filterMap.mpr
  apply db.assets.unique.imp
  intro a b hclash uid ha uid' hb heq
  have hsame : a.uid = b.uid := by rw [ha, hb, heq]
  exact hclash (.inr ⟨hsame, Option.isSome_of_eq_some ha⟩)

theorem ctrEntry_runAuto (order : RowOrder) (s : Store) (uid : String) :
    (ctrMachine.run runAuto (fun _ => { order := order }) s).state.ctrEntry uid =
      (s.ctrEntry uid).calibrated := by
  have hperm := order.perm s.db.selectUidsWithCtr
  have hnodup : ((order.order s.db.selectUidsWithCtr).map Prod.fst).Nodup :=
    (hperm.map Prod.fst).nodup_iff.mpr (nodup_selectUidsWithCtr s.db)
  rw [run_runAuto, CtrEntry.calibrated]
  cases hctr : s.db.selectLastVerifiedCtr uid with
  | none =>
      have hentry : (s.ctrEntry uid).1 = none := hctr
      rw [hentry]
      apply local_calibrateStore.foldl_other
      intro row hrow heq
      obtain ⟨ctr, hread, -⟩ := selectLastVerifiedCtr_of_mem (hperm.subset hrow)
      rw [← heq, hctr] at hread
      cases hread
  | some ctr =>
      have hentry : (s.ctrEntry uid).1 = some ctr := hctr
      rw [hentry]
      exact local_calibrateStore.foldl_own hnodup (hperm.symm.subset (mem_selectUidsWithCtr hctr))

end Whole

/-- The counter of a column, where a NULL counts as zero. -/
def CtrEntry.pgCtr (entry : CtrEntry) : Option UInt32 :=
  entry.1.map fun ctr => (ctr.getD 0).toUInt32

/-- Nothing is left to correct. -/
def CtrEntry.Settled (entry : CtrEntry) : Prop :=
  ∀ pg redisCtr, entry.pgCtr = some pg → entry.2 = some redisCtr → redisCtr = pg ∨ ¬Near redisCtr pg

section Entry
variable {entry : CtrEntry} {pg redisCtr : UInt32}

theorem max_u32 (a b : UInt32) : max a b = if a ≤ b then b else a := rfl

theorem left_le_max_u32 (a b : UInt32) : a ≤ max a b := by
  rw [max_u32]
  split
  · assumption
  · exact UInt32.le_refl a

theorem right_le_max_u32 (a b : UInt32) : b ≤ max a b := by
  rw [max_u32]
  split
  · exact UInt32.le_refl b
  · next h => exact UInt32.le_of_lt (UInt32.not_le.mp h)

theorem calibrated_of_settled (h : entry.Settled) : entry.calibrated = entry := by
  rw [CtrEntry.calibrated]
  cases hctr : entry.1 with
  | none => rfl
  | some ctr =>
      dsimp only
      rw [calibrateEntry]
      cases hredis : entry.2 with
      | none => rfl
      | some redisCtr =>
          dsimp only
          have hpg : entry.pgCtr = some (ctr.getD 0).toUInt32 := by rw [CtrEntry.pgCtr, hctr]; rfl
          rw [if_pos (h _ _ hpg hredis)]

/-- Both sides take the larger counter. -/
theorem calibrated_of_near (hpg : entry.pgCtr = some pg) (hredis : entry.2 = some redisCtr)
    (hnear : Near redisCtr pg) :
    entry.calibrated.pgCtr = some (max pg redisCtr) ∧ entry.calibrated.2 = some (max pg redisCtr) := by
  obtain ⟨ctr, hctr, hvalue⟩ := Option.map_eq_some_iff.mp hpg
  rw [CtrEntry.calibrated, hctr]
  dsimp only
  rw [calibrateEntry, hredis]
  dsimp only
  rw [hvalue, max_u32]
  by_cases hsame : redisCtr = pg
  · rw [if_pos (.inl hsame), hpg, hredis, hsame, if_pos (UInt32.le_refl pg)]
    exact ⟨rfl, rfl⟩
  · rw [if_neg (not_or.mpr ⟨hsame, not_not.mpr hnear⟩)]
    by_cases hlarger : redisCtr > pg
    · rw [if_pos hlarger, if_pos (UInt32.le_of_lt hlarger), hctr]
      exact ⟨congrArg some redisCtr.toUInt32_toInt32, rfl⟩
    · have hle : ¬pg ≤ redisCtr := by
        intro hle
        exact hsame (UInt32.le_antisymm (UInt32.not_lt.mp hlarger) hle)
      rw [if_neg hlarger, if_neg hle]
      exact ⟨hpg, rfl⟩

theorem settled_calibrated (entry : CtrEntry) : entry.calibrated.Settled := by
  by_cases hsettled : entry.Settled
  · rw [calibrated_of_settled hsettled]
    exact hsettled
  · rw [CtrEntry.Settled] at hsettled
    push Not at hsettled
    obtain ⟨pg, redisCtr, hpg, hredis, -, hnear⟩ := hsettled
    obtain ⟨hpg', hredis'⟩ := calibrated_of_near hpg hredis hnear
    intro a b ha hb
    rw [hpg'] at ha
    rw [hredis'] at hb
    exact .inl ((Option.some.inj hb).symm.trans (Option.some.inj ha))

end Entry

/-- A row of an asset, of which at most the counter has changed, and that only under a UID. -/
def CounterMoved (r r' : AssetRow) : Prop :=
  r' = { r with lastVerifiedCtr := r'.lastVerifiedCtr } ∧ (r.uid = none → r' = r)

/-- Outside the two kinds of counters nothing has changed. -/
structure CountersMoved (s t : Store) : Prop where
  store : t = { s with db := { s.db with assets := t.db.assets }, redis := t.redis }
  rows : List.Forall₂ CounterMoved s.db.assets.rows t.db.assets.rows

section Frame
variable {s t : Store} {row : String × Int32}

theorem CountersMoved.refl (s : Store) : CountersMoved s s := by
  refine ⟨rfl, ?_⟩
  apply List.forall₂_same.mpr
  intro r _
  exact ⟨rfl, fun _ => rfl⟩

theorem CountersMoved.updateCtrByUid (h : CountersMoved s t) (uid : String) (ctr : Int32) :
    CountersMoved s { t with db := t.db.updateCtrByUid uid ctr } := by
  constructor
  · rw [h.store]
    rfl
  · apply List.forall₂_map_right_iff.mpr
    apply h.rows.imp
    intro r r' ⟨hrow, hnone⟩
    constructor
    · split
      · rw [hrow]
      · exact hrow
    · intro huid
      have hother : ¬decide (r'.uid = some uid) = true := by
        rw [hnone huid, huid]
        simp
      rw [if_neg hother, hnone huid]

theorem CountersMoved.setRedis (h : CountersMoved s t) (uid : String) (ctr : Option UInt32) :
    CountersMoved s (t.setRedis uid ctr) := by
  refine ⟨?_, h.rows⟩
  rw [h.store]
  rfl

theorem CountersMoved.calibrateStore (h : CountersMoved s t) (row : String × Int32) :
    CountersMoved s (calibrateStore t row) := by
  rw [RcProtocol.calibrateStore]
  split
  · exact h
  · split
    · exact h
    · split
      · exact h.updateCtrByUid _ _
      · exact h.setRedis _ _

end Frame

/-- What one run of the automatic mode is for. -/
structure Calibrated (s t : Store) : Prop where
  corrected : ∀ uid pg redisCtr, s.db.pgCtr uid = some pg → s.redis uid = some redisCtr →
    Near redisCtr pg →
    t.db.pgCtr uid = some (max pg redisCtr) ∧ t.redis uid = some (max pg redisCtr)
  unchanged : ∀ uid, (∀ pg redisCtr, s.db.pgCtr uid = some pg → s.redis uid = some redisCtr →
    redisCtr = pg ∨ ¬Near redisCtr pg) →
    t.db.selectLastVerifiedCtr uid = s.db.selectLastVerifiedCtr uid ∧ t.redis uid = s.redis uid
  pgRaised : ∀ uid pg, s.db.pgCtr uid = some pg → ∃ pg', t.db.pgCtr uid = some pg' ∧ pg ≤ pg'
  redisRaised : ∀ uid redisCtr, s.redis uid = some redisCtr →
    ∃ redisCtr', t.redis uid = some redisCtr' ∧ redisCtr ≤ redisCtr'
  rest : CountersMoved s t

section Calibration
variable {s t : Store}

theorem Calibrated.of_entries (hentries : ∀ uid, t.ctrEntry uid = (s.ctrEntry uid).calibrated)
    (hrest : CountersMoved s t) : Calibrated s t := by
  have hcorrected : ∀ uid pg redisCtr, s.db.pgCtr uid = some pg → s.redis uid = some redisCtr →
      Near redisCtr pg →
      t.db.pgCtr uid = some (max pg redisCtr) ∧ t.redis uid = some (max pg redisCtr) := by
    intro uid pg redisCtr hpg hredis hnear
    have hentry : (s.ctrEntry uid).pgCtr = some pg := hpg
    have hmax := calibrated_of_near hentry hredis hnear
    rw [← hentries uid] at hmax
    exact hmax
  have hunchanged : ∀ uid, (s.ctrEntry uid).Settled → t.ctrEntry uid = s.ctrEntry uid := by
    intro uid hsettled
    rw [hentries uid, calibrated_of_settled hsettled]
  have hcases : ∀ uid, t.ctrEntry uid = s.ctrEntry uid ∨
      ∃ pg redisCtr, s.db.pgCtr uid = some pg ∧ s.redis uid = some redisCtr ∧ Near redisCtr pg := by
    intro uid
    by_cases hsettled : (s.ctrEntry uid).Settled
    · exact .inl (hunchanged uid hsettled)
    · rw [CtrEntry.Settled] at hsettled
      push Not at hsettled
      obtain ⟨pg, redisCtr, hpg, hredis, -, hnear⟩ := hsettled
      exact .inr ⟨pg, redisCtr, hpg, hredis, hnear⟩
  refine
    { corrected := hcorrected
      unchanged := ?_
      pgRaised := ?_
      redisRaised := ?_
      rest := hrest }
  · intro uid hsettled
    have hentry := hunchanged uid hsettled
    exact ⟨congrArg Prod.fst hentry, congrArg Prod.snd hentry⟩
  · intro uid pg hpg
    cases hcases uid with
    | inl hentry =>
        exact ⟨pg, (congrArg CtrEntry.pgCtr hentry).trans hpg, UInt32.le_refl pg⟩
    | inr hnear =>
        obtain ⟨pg', redisCtr, hpg', hredis, hnear⟩ := hnear
        have hsame : pg' = pg := Option.some.inj (hpg'.symm.trans hpg)
        rw [← hsame]
        exact ⟨_, (hcorrected uid pg' redisCtr hpg' hredis hnear).1, left_le_max_u32 pg' redisCtr⟩
  · intro uid redisCtr hredis
    cases hcases uid with
    | inl hentry => exact ⟨redisCtr, (congrArg Prod.snd hentry).trans hredis, UInt32.le_refl redisCtr⟩
    | inr hnear =>
        obtain ⟨pg, redisCtr', hpg, hredis', hnear⟩ := hnear
        have hsame : redisCtr' = redisCtr := Option.some.inj (hredis'.symm.trans hredis)
        rw [← hsame]
        exact ⟨_, (hcorrected uid pg redisCtr' hpg hredis' hnear).2, right_le_max_u32 pg redisCtr'⟩

theorem calibrateStore_of_settled {row : String × Int32} (hrow : row ∈ s.db.selectUidsWithCtr)
    (hsettled : (s.ctrEntry row.1).Settled) : calibrateStore s row = s := by
  obtain ⟨ctr, hctr, hvalue⟩ := selectLastVerifiedCtr_of_mem hrow
  rw [calibrateStore]
  cases hredis : s.redis row.1 with
  | none => rfl
  | some redisCtr =>
      have hpg : (s.ctrEntry row.1).pgCtr = some row.2.toUInt32 := by
        rw [← hvalue, CtrEntry.pgCtr, Store.ctrEntry, hctr]
        rfl
      dsimp only
      rw [if_pos (hsettled _ _ hpg hredis)]

end Calibration

/-- One run corrects what is near and raises nothing else; another run then has nothing to do. -/
theorem run_auto_calibrates (s : Store) (order order' : RowOrder) :
    Calibrated s (ctrMachine.run runAuto (fun _ => { order := order }) s).state ∧
    (ctrMachine.run runAuto (fun _ => { order := order' })
      (ctrMachine.run runAuto (fun _ => { order := order }) s).state).state =
        (ctrMachine.run runAuto (fun _ => { order := order }) s).state := by
  have hentries := ctrEntry_runAuto order s
  have hrest : CountersMoved s (ctrMachine.run runAuto (fun _ => { order := order }) s).state := by
    rw [run_runAuto]
    apply List.foldlRecOn _ _ (CountersMoved.refl s)
    intro t ht row _
    exact ht.calibrateStore row
  generalize (ctrMachine.run runAuto (fun _ => { order := order }) s).state = t at hentries hrest
  constructor
  · exact Calibrated.of_entries hentries hrest
  · rw [run_runAuto]
    apply foldl_eq_self
    intro row hrow
    apply calibrateStore_of_settled ((order'.perm _).subset hrow)
    rw [hentries]
    exact settled_calibrated _

end RcProtocol
