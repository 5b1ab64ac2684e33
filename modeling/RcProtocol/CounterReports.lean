import RcProtocol.Api.CtrCommands
import RcProtocol.CtrCalibration

/-!
What the check reports before and after an automatic calibration. Both passes list the same
UIDs, and a row of either goes by the counters of its own UID, so that their counts are
counts of the same mismatches.
-/

namespace RcProtocol
open Library

/-- The mismatch of a row, if Redis has another counter of its UID. -/
def Store.mismatchOf (s : Store) (row : String × Int32) : Option Mismatch :=
  (s.redis row.1).bind fun r => if r = row.2.toUInt32 then none else some (row.1, r, row.2)

/-- The mismatch is left to an operator. -/
def Mismatch.Far (m : Mismatch) : Prop := ¬Near m.2.1 m.2.2.toUInt32

instance (m : Mismatch) : Decidable m.Far := inferInstanceAs (Decidable (¬_))

section Counts
variable {order : RowOrder} {s : Store} {row : String × Int32} {rows : List (String × Int32)}
  {m : Mismatch}

theorem mismatchOf_eq_some :
    s.mismatchOf row = some m ↔ s.redis row.1 = some m.2.1 ∧ m.2.1 ≠ row.2.toUInt32 ∧
      m = (row.1, m.2.1, row.2) := by
  rw [Store.mismatchOf, Option.bind_eq_some_iff]
  constructor
  · intro ⟨r, hr, hm⟩
    split at hm
    · cases hm
    · next hne =>
      cases hm
      exact ⟨hr, hne, rfl⟩
  · intro ⟨hr, hne, hm⟩
    exact ⟨_, hr, by rw [if_neg hne, ← hm]⟩

def CheckCounts.add (counts : CheckCounts) : Option Mismatch → CheckCounts
  | none => { counts with consistent := counts.consistent + 1 }
  | some m => { counts with mismatches := counts.mismatches ++ [m] }

theorem evaluates_checkRow (row : String × Int32) (counts : CheckCounts) :
    ctrMachine.Evaluates { order := order } (checkRow row counts) s (counts.add (s.mismatchOf row)) s := by
  have hread : ctrMachine.Evaluates { order := order } (getRedisCtr row.1) s (s.redis row.1) s :=
    evaluates_getRedisCtr row.1
  rw [checkRow]
  refine ⟨(hread.map _).answer.trans ?_, (hread.map _).state⟩
  rw [Store.mismatchOf]
  cases s.redis row.1 with
  | none => rfl
  | some r =>
      dsimp only [Option.bind_some]
      split <;> rfl

/-- By induction on the rows that are left. -/
theorem evaluates_checkRows (rows : List (String × Int32)) (counts : CheckCounts) :
    ctrMachine.Evaluates { order := order } (checkRows rows counts) s
      (rows.foldl (fun counts row => counts.add (s.mismatchOf row)) counts) s := by
  induction rows generalizing counts with
  | nil => exact Machine.evaluates_done
  | cons row rows ih => exact (evaluates_checkRow row counts).bind (ih _)

theorem foldl_add_mismatches (counts : CheckCounts) :
    (rows.foldl (fun counts row => counts.add (s.mismatchOf row)) counts).mismatches =
      counts.mismatches ++ rows.filterMap s.mismatchOf := by
  induction rows generalizing counts with
  | nil => simp
  | cons row rows ih =>
      rw [List.foldl_cons, ih]
      cases hm : s.mismatchOf row with
      | none => simp [CheckCounts.add, hm]
      | some m => simp [CheckCounts.add, hm]

/-- Each row is counted on one side. -/
theorem foldl_add_counted (counts : CheckCounts) :
    (rows.foldl (fun counts row => counts.add (s.mismatchOf row)) counts).consistent +
        (rows.foldl (fun counts row => counts.add (s.mismatchOf row)) counts).mismatches.length =
      counts.consistent + counts.mismatches.length + rows.length := by
  induction rows generalizing counts with
  | nil => rfl
  | cons row rows ih =>
      rw [List.foldl_cons, ih, List.length_cons]
      cases s.mismatchOf row with
      | none =>
          dsimp only [CheckCounts.add]
          omega
      | some m =>
          dsimp only [CheckCounts.add]
          rw [List.length_append, List.length_singleton]
          omega

/-- What a check leaves and reports. -/
structure Checked (order : RowOrder) (s : Store) (o : Machine.Outcome ctrApi Store CheckReport) :
    Prop where
  state : o.state = s
  total : o.answer.total = s.db.selectUidsWithCtr.length
  counted : o.answer.consistent + o.answer.mismatches.length = o.answer.total
  mismatches : o.answer.mismatches = (order.order s.db.selectUidsWithCtr).filterMap s.mismatchOf

theorem run_runCheck (order : RowOrder) (s : Store) :
    Checked order s (ctrMachine.run runCheck (fun _ => { order := order }) s) := by
  have hread : ctrMachine.Evaluates { order := order } fetchAllUidsWithCtr s
      (order.order s.db.selectUidsWithCtr) s := ⟨rfl, rfl⟩
  have hrows : ctrMachine.Evaluates { order := order }
      (checkRows (order.order s.db.selectUidsWithCtr) ⟨0, []⟩) s _ s :=
    evaluates_checkRows _ _
  have hreport : ctrMachine.Evaluates { order := order } runCheck s _ s :=
    hread.bind (hrows.map fun counts =>
      ({ counts with total := (order.order s.db.selectUidsWithCtr).length } : CheckReport))
  have hlength := (order.perm s.db.selectUidsWithCtr).length_eq
  refine ⟨hreport.state, ?_, ?_, ?_⟩
  · rw [hreport.answer]
    exact hlength
  · rw [hreport.answer]
    exact (foldl_add_counted ⟨0, []⟩).trans (Nat.zero_add _)
  · rw [hreport.answer]
    exact foldl_add_mismatches ⟨0, []⟩

def AutoCounts.add (counts : AutoCounts) : Option Mismatch → AutoCounts
  | none => counts
  | some m =>
      if m.Far then { counts with skipped := counts.skipped + 1 }
      else { counts with corrected := counts.corrected + 1 }

theorem evaluates_calibrateRow_add (row : String × Int32) (counts : AutoCounts) :
    ctrMachine.Evaluates { order := order } (calibrateRow row counts) s
      (counts.add (s.mismatchOf row)) (calibrateStore s row) := by
  obtain ⟨counts', hrow⟩ := @evaluates_calibrateRow order s row counts
  have hread : ctrMachine.Evaluates { order := order } (getRedisCtr row.1) s (s.redis row.1) s :=
    evaluates_getRedisCtr row.1
  suffices hanswer : ∃ t, ctrMachine.Evaluates { order := order } (calibrateRow row counts) s
      (counts.add (s.mismatchOf row)) t by
    obtain ⟨t, hanswer⟩ := hanswer
    exact ⟨hanswer.answer, hrow.state⟩
  rw [Store.mismatchOf]
  cases hredis : s.redis row.1 with
  | none =>
      rw [hredis] at hread
      exact ⟨s, hread.bind Machine.evaluates_done⟩
  | some r =>
      rw [hredis] at hread
      rw [Option.bind_some]
      by_cases hsame : r = row.2.toUInt32
      · refine ⟨s, hread.bind ?_⟩
        dsimp only
        rw [if_pos hsame, if_pos hsame]
        exact Machine.evaluates_done
      · rw [if_neg hsame, AutoCounts.add]
        by_cases hfar : Mismatch.Far (row.1, r, row.2)
        · refine ⟨s, hread.bind ?_⟩
          dsimp only
          rw [if_neg hsame, if_pos (Nat.not_le.mp hfar), if_pos hfar]
          exact Machine.evaluates_done
        · rw [if_neg hfar]
          by_cases hlarger : r > row.2.toUInt32
          · refine ⟨{ s with db := s.db.updateCtrByUid row.1 r.toInt32 }, hread.bind ?_⟩
            dsimp only
            rw [if_neg hsame, if_neg fun h => hfar (Nat.not_le.mpr h), if_pos hlarger]
            exact ⟨rfl, rfl⟩
          · refine ⟨s.setRedis row.1 (some row.2.toUInt32), hread.bind ?_⟩
            dsimp only
            rw [if_neg hsame, if_neg fun h => hfar (Nat.not_le.mpr h), if_neg hlarger]
            exact ⟨rfl, rfl⟩

/-- The rows after one of another UID find the counter of their own unchanged. -/
theorem mismatchOf_calibrateStore {row' : String × Int32} (hne : row'.1 ≠ row.1) :
    (calibrateStore s row).mismatchOf row' = s.mismatchOf row' := by
  have hentry := local_calibrateStore.other s row row'.1 hne
  have hredis : (calibrateStore s row).redis row'.1 = s.redis row'.1 := congrArg Prod.snd hentry
  rw [Store.mismatchOf, hredis, Store.mismatchOf]

theorem evaluates_calibrateRows_add (rows : List (String × Int32)) (counts : AutoCounts)
    (hnodup : (rows.map Prod.fst).Nodup) :
    ctrMachine.Evaluates { order := order } (calibrateRows rows counts) s
      (rows.foldl (fun counts row => counts.add (s.mismatchOf row)) counts)
      (rows.foldl calibrateStore s) := by
  induction rows generalizing counts s with
  | nil => exact Machine.evaluates_done
  | cons row rows ih =>
      obtain ⟨hfresh, hnodup⟩ := List.nodup_cons.mp hnodup
      have hrow := (evaluates_calibrateRow_add row counts).bind
        (f := fun counts => calibrateRows rows counts) (ih (counts.add (s.mismatchOf row)) hnodup)
      refine ⟨hrow.answer.trans ?_, hrow.state⟩
      rw [List.foldl_cons]
      apply List.foldl_ext
      intro counts' row' hrow'
      have hne : row'.1 ≠ row.1 := fun h => hfresh (h ▸ List.mem_map_of_mem hrow')
      rw [mismatchOf_calibrateStore hne]

theorem foldl_add_auto (counts : AutoCounts) :
    (rows.foldl (fun counts row => counts.add (s.mismatchOf row)) counts).skipped =
        counts.skipped + ((rows.filterMap s.mismatchOf).filter (·.Far)).length ∧
      (rows.foldl (fun counts row => counts.add (s.mismatchOf row)) counts).corrected +
          (rows.foldl (fun counts row => counts.add (s.mismatchOf row)) counts).skipped =
        counts.corrected + counts.skipped + (rows.filterMap s.mismatchOf).length := by
  induction rows generalizing counts with
  | nil => exact ⟨rfl, rfl⟩
  | cons row rows ih =>
      obtain ⟨hskipped, htotal⟩ := ih (counts.add (s.mismatchOf row))
      rw [List.foldl_cons, htotal, hskipped]
      cases hm : s.mismatchOf row with
      | none =>
          rw [List.filterMap_cons_none hm]
          exact ⟨rfl, rfl⟩
      | some m =>
          rw [List.filterMap_cons_some hm]
          by_cases hfar : m.Far
          · rw [List.filter_cons, if_pos (decide_eq_true hfar), AutoCounts.add, if_pos hfar]
            dsimp only [List.length_cons]
            omega
          · rw [List.filter_cons, if_neg (by simpa using hfar), AutoCounts.add, if_neg hfar]
            dsimp only [List.length_cons]
            omega

/-- What an automatic calibration counts. -/
theorem run_runAuto_counts (order : RowOrder) (s : Store) :
    (ctrMachine.run runAuto (fun _ => { order := order }) s).answer =
      (order.order s.db.selectUidsWithCtr).foldl (fun counts row => counts.add (s.mismatchOf row))
        ⟨0, 0⟩ := by
  have hnodup : ((order.order s.db.selectUidsWithCtr).map Prod.fst).Nodup :=
    ((order.perm s.db.selectUidsWithCtr).map Prod.fst).nodup_iff.mpr (nodup_selectUidsWithCtr s.db)
  have hread : ctrMachine.Evaluates { order := order } fetchAllUidsWithCtr s
      (order.order s.db.selectUidsWithCtr) s := ⟨rfl, rfl⟩
  exact (hread.bind (evaluates_calibrateRows_add _ ⟨0, 0⟩ hnodup)).answer

end Counts

/-- The mismatches of a state, in the order in which its assets are stored. -/
def Store.mismatches (s : Store) : List Mismatch := s.db.selectUidsWithCtr.filterMap s.mismatchOf

section After
variable {s t : Store} {m : Mismatch}

theorem mem_mismatches :
    m ∈ s.mismatches ↔ ∃ ctr, s.ctrEntry m.1 = (some ctr, some m.2.1) ∧ ctr.getD 0 = m.2.2 ∧
      m.2.1 ≠ m.2.2.toUInt32 := by
  rw [Store.mismatches, List.mem_filterMap]
  constructor
  · rintro ⟨row, hrow, hm⟩
    obtain ⟨hredis, hne, heq⟩ := mismatchOf_eq_some.mp hm
    obtain ⟨ctr, hctr, hvalue⟩ := selectLastVerifiedCtr_of_mem hrow
    have huid : m.1 = row.1 := congrArg Prod.fst heq
    have hpg : m.2.2 = row.2 := congrArg (·.2.2) heq
    refine ⟨ctr, ?_, hvalue.trans hpg.symm, hpg ▸ hne⟩
    rw [Store.ctrEntry, huid, hctr, hredis]
  · rintro ⟨ctr, hentry, hvalue, hne⟩
    have hctr : s.db.selectLastVerifiedCtr m.1 = some ctr := congrArg Prod.fst hentry
    refine ⟨(m.1, m.2.2), hvalue ▸ mem_selectUidsWithCtr hctr, ?_⟩
    exact mismatchOf_eq_some.mpr ⟨congrArg Prod.snd hentry, hne, rfl⟩

/-- UIDs are unique among the mismatches as they are among the assets. -/
theorem nodup_mismatches (s : Store) : s.mismatches.Nodup := by
  have hrows : s.db.selectUidsWithCtr.Nodup := (nodup_selectUidsWithCtr s.db).of_map _
  apply hrows.filterMap
  intro row row' m hm hm'
  have heq := (mismatchOf_eq_some.mp hm).2.2
  have heq' := (mismatchOf_eq_some.mp hm').2.2
  have huid : row.1 = row'.1 := (congrArg Prod.fst heq).symm.trans (congrArg Prod.fst heq')
  have hpg : row.2 = row'.2 := (congrArg (·.2.2) heq).symm.trans (congrArg (·.2.2) heq')
  exact Prod.ext huid hpg

theorem mismatches_order (order : RowOrder) (s : Store) :
    ((order.order s.db.selectUidsWithCtr).filterMap s.mismatchOf).Perm s.mismatches :=
  (order.perm _).filterMap _

/-- What is left to report is what was too far apart, as it was. -/
theorem mem_mismatches_calibrated (hentries : ∀ uid, t.ctrEntry uid = (s.ctrEntry uid).calibrated) :
    m ∈ t.mismatches ↔ m ∈ s.mismatches ∧ m.Far := by
  have hfar : ∀ ctr, s.ctrEntry m.1 = (some ctr, some m.2.1) → ctr.getD 0 = m.2.2 →
      (s.ctrEntry m.1).pgCtr = some m.2.2.toUInt32 := by
    intro ctr hentry hvalue
    rw [CtrEntry.pgCtr, hentry, ← hvalue]
    rfl
  constructor
  · intro hm
    obtain ⟨ctr, hentry, hvalue, hne⟩ := mem_mismatches.mp hm
    rw [hentries] at hentry
    by_cases hsettled : (s.ctrEntry m.1).Settled
    · rw [calibrated_of_settled hsettled] at hentry
      refine ⟨mem_mismatches.mpr ⟨ctr, hentry, hvalue, hne⟩, ?_⟩
      have hredis : (s.ctrEntry m.1).2 = some m.2.1 := congrArg Prod.snd hentry
      exact (hsettled _ _ (hfar ctr hentry hvalue) hredis).resolve_left hne
    · rw [CtrEntry.Settled] at hsettled
      push Not at hsettled
      obtain ⟨pg, redisCtr, hpg, hredis, -, hnear⟩ := hsettled
      obtain ⟨hpg', hredis'⟩ := calibrated_of_near hpg hredis hnear
      rw [hentry] at hpg' hredis'
      have hsame : m.2.1 = (ctr.getD 0).toUInt32 :=
        (Option.some.inj hredis').trans (Option.some.inj hpg').symm
      rw [hvalue] at hsame
      exact absurd hsame hne
  · rintro ⟨hm, hnotNear⟩
    obtain ⟨ctr, hentry, hvalue, hne⟩ := mem_mismatches.mp hm
    have hsettled : (s.ctrEntry m.1).Settled := by
      intro pg redisCtr hpg hredis
      rw [hfar ctr hentry hvalue] at hpg
      rw [hentry] at hredis
      cases hpg
      cases hredis
      exact .inr hnotNear
    refine mem_mismatches.mpr ⟨ctr, ?_, hvalue, hne⟩
    rw [hentries, calibrated_of_settled hsettled, hentry]

theorem length_selectUidsWithCtr (h : CountersMoved s t) :
    t.db.selectUidsWithCtr.length = s.db.selectUidsWithCtr.length := by
  have hrows := h.rows
  rw [Db.selectUidsWithCtr, Db.selectUidsWithCtr]
  generalize s.db.assets.rows = rows at hrows
  generalize t.db.assets.rows = rows' at hrows
  induction hrows with
  | nil => rfl
  | @cons r r' rows rows' hmoved _ ih =>
      have huid : r'.uid = r.uid := congrArg (·.uid) hmoved.1
      rw [List.filterMap_cons, List.filterMap_cons, huid]
      cases r.uid with
      | none => exact ih
      | some uid => exact congrArg (· + 1) ih

theorem moved_runAuto (order : RowOrder) (s : Store) :
    CountersMoved s (ctrMachine.run runAuto (fun _ => { order := order }) s).state := by
  rw [run_runAuto]
  apply List.foldlRecOn _ _ (CountersMoved.refl s)
  intro t ht row _
  exact ht.calibrateStore row

end After

/-- The automatic mode corrects or skips each UID a check before it reports, and a check after
it reports those it skipped, as they were. -/
theorem checks_account_for_auto (s : Store) (order order' order'' : RowOrder) :
    let before := ctrMachine.run runCheck (fun _ => { order := order }) s
    let auto := ctrMachine.run runAuto (fun _ => { order := order' }) s
    let after := ctrMachine.run runCheck (fun _ => { order := order'' }) auto.state
    before.state = s ∧
    (before.answer.consistent + before.answer.mismatches.length = before.answer.total ∧
      after.answer.total = before.answer.total) ∧
    auto.answer.corrected + auto.answer.skipped = before.answer.mismatches.length ∧
    auto.answer.skipped = after.answer.mismatches.length ∧
    after.answer.mismatches.Perm (before.answer.mismatches.filter (·.Far)) := by
  intro before auto after
  have hbefore := run_runCheck order s
  have hafter := run_runCheck order'' auto.state
  have hentries : ∀ uid, auto.state.ctrEntry uid = (s.ctrEntry uid).calibrated :=
    ctrEntry_runAuto order' s
  have hmoved : CountersMoved s auto.state := moved_runAuto order' s
  obtain ⟨hskipped, htotal⟩ := @foldl_add_auto s (order'.order s.db.selectUidsWithCtr) ⟨0, 0⟩
  rw [← run_runAuto_counts] at hskipped htotal
  have hreported : before.answer.mismatches.Perm s.mismatches := by
    rw [hbefore.mismatches]
    exact mismatches_order order s
  have hleft : auto.state.mismatches.Perm (s.mismatches.filter (·.Far)) := by
    apply (List.perm_ext_iff_of_nodup (nodup_mismatches _) ((nodup_mismatches s).filter _)).mpr
    intro m
    rw [mem_mismatches_calibrated hentries, List.mem_filter, decide_eq_true_iff]
  have hafterLeft : after.answer.mismatches.Perm (before.answer.mismatches.filter (·.Far)) := by
    rw [hafter.mismatches]
    exact ((mismatches_order order'' auto.state).trans hleft).trans (hreported.filter _).symm
  have hlisted := (mismatches_order order' s)
  refine ⟨hbefore.state, ⟨hbefore.counted, ?_⟩, ?_, ?_, hafterLeft⟩
  · rw [hafter.total, hbefore.total]
    exact length_selectUidsWithCtr hmoved
  · rw [htotal, hlisted.length_eq, hreported.length_eq]
    exact Nat.zero_add _
  · rw [hskipped, hafterLeft.length_eq, (hlisted.filter _).length_eq, (hreported.filter _).length_eq]
    exact Nat.zero_add _

end RcProtocol
