import RcProtocol.Api.CtrCommands
import RcProtocol.CtrCalibration

/-!
The calibration commands on one store, any number of them at a time. A command that takes
the larger counter writes the larger of what it read, and what it reads has been read or
written by a command before it, so that in every order of their calls both counters of a
UID come to the larger of the two they started with.
-/

namespace RcProtocol
open Library

/-- The UID and the counter a call writes, on whichever side. -/
def CtrOp.writes : CtrOp → Option (String × UInt32)
  | .updateCtrByUid uid ctr => some (uid, ctr.toUInt32)
  | .redisSetEx uid ctr => some (uid, ctr)
  | _ => none

def ctrCliWrites : ctrCliApi.Op → Option (String × UInt32)
  | .inl op => op.writes
  | .inr _ => none

def CtrOp.failed : (op : CtrOp) → op.Answer → Bool
  | .selectUidsWithCtr, answer => !answer.isOk
  | .redisGet _, answer => !answer.isOk
  | .updateCtrByUid _ _, answer => !answer.isOk
  | .redisSetEx _ _, answer => !answer.isOk

/-- The database or Redis answered the call with an error. -/
def CtrFailed : Event ctrCliApi → Prop
  | ⟨.inl op, answer⟩ => op.failed answer = true
  | ⟨.inr (.selectLastVerifiedCtr _), answer⟩ => answer.isOk = false

section Reads
variable (uid : String) (log : List (Event ctrCliApi))

/-- The counter PostgreSQL answered for the UID, in a listing or by itself. -/
inductive PgRead : UInt32 → Prop
  | listed (rows : List (String × Int32)) (ctr : Int32)
      (h : (⟨.inl .selectUidsWithCtr, .ok rows⟩ : Event ctrCliApi) ∈ log) (hrow : (uid, ctr) ∈ rows) :
      PgRead ctr.toUInt32
  | asked (ctr : Option (Option Int32))
      (h : (⟨.inr (.selectLastVerifiedCtr uid), .ok ctr⟩ : Event ctrCliApi) ∈ log) :
      PgRead (ctr.join.getD 0).toUInt32

def RedisRead (r : UInt32) : Prop :=
  ∃ ctr : Option UInt32, (⟨.inl (.redisGet uid), .ok ctr⟩ : Event ctrCliApi) ∈ log ∧ r = ctr.getD 0

/-- A read of the UID's counter that was answered with an error. -/
def LostRead : Prop :=
  ∃ e, (⟨.inl (.redisGet uid), .error e⟩ : Event ctrCliApi) ∈ log ∨
    (⟨.inr (.selectLastVerifiedCtr uid), .error e⟩ : Event ctrCliApi) ∈ log

end Reads

/-- A command of the UID takes the larger counter. -/
def CtrAction.Raises (uid : String) : CtrAction → Prop
  | .uid tag strategy _ => tag = uid → strategy = .useMax
  | _ => True

instance (uid : String) : (a : CtrAction) → Decidable (a.Raises uid)
  | .check => .isTrue trivial
  | .auto => .isTrue trivial
  | .uid tag strategy _ => inferInstanceAs (Decidable (tag = uid → strategy = .useMax))

/-- What is written to the UID is the larger of two counters read, unless a read was lost. -/
def WritesMax (uid : String) (log : List (Event ctrCliApi)) (op : ctrCliApi.Op) : Prop :=
  ∀ ctr, ctrCliWrites op = some (uid, ctr) →
    ∃ p r, PgRead uid log p ∧ RedisRead uid log r ∧ ctr = max r p

/-- The counters a program went by, each of them the larger one or overwritten by it. -/
structure AutoRaise (uid : String) (log : List (Event ctrCliApi)) (p r : UInt32) : Prop where
  pg : PgRead uid log p
  redis : RedisRead uid log r
  pgWritten : p = max r p ∨
    ∃ answer, (⟨.inl (.updateCtrByUid uid (max r p).toInt32), answer⟩ : Event ctrCliApi) ∈ log
  redisWritten : r = max r p ∨
    ∃ answer, (⟨.inl (.redisSetEx uid (max r p)), answer⟩ : Event ctrCliApi) ∈ log

section Auto
variable {uid : String} {rows : List (String × Int32)} {row : String × Int32} {counts : AutoCounts}
  {log log' : List (Event ctrApi)}

/-- `WritesMax` of the automatic mode, whose reads are its listing and what Redis has. -/
def AutoWrites (uid : String) (log : List (Event ctrApi)) (op : CtrOp) : Prop :=
  ∀ ctr, op.writes = some (uid, ctr) → ∃ rows c r,
    (⟨.selectUidsWithCtr, .ok rows⟩ : Event ctrApi) ∈ log ∧ (uid, c) ∈ rows ∧
      (⟨.redisGet uid, .ok (some r)⟩ : Event ctrApi) ∈ log ∧ ctr = max r c.toUInt32

/-- A row is done once the smaller of two near counters has been overwritten. -/
def RowDone (log : List (Event ctrApi)) (row : String × Int32) : Prop :=
  ∃ answer, (⟨.redisGet row.1, answer⟩ : Event ctrApi) ∈ log ∧
    ∀ r, answer = .ok (some r) → Near r row.2.toUInt32 →
      (row.2.toUInt32 = max r row.2.toUInt32 ∨ ∃ answer',
        (⟨.updateCtrByUid row.1 (max r row.2.toUInt32).toInt32, answer'⟩ : Event ctrApi) ∈ log) ∧
      (r = max r row.2.toUInt32 ∨ ∃ answer',
        (⟨.redisSetEx row.1 (max r row.2.toUInt32), answer'⟩ : Event ctrApi) ∈ log)

theorem autoWrites_of_read {op : CtrOp} (h : op.writes = none) : AutoWrites uid log op := by
  intro ctr hctr
  rw [h] at hctr
  cases hctr

theorem RowDone.mono (h : RowDone log row) (hsub : log ⊆ log') : RowDone log' row := by
  obtain ⟨answer, hread, hdone⟩ := h
  refine ⟨answer, hsub hread, ?_⟩
  intro r hr hnear
  apply (hdone r hr hnear).imp
  · exact Or.imp_right fun ⟨answer', hwritten⟩ => ⟨answer', hsub hwritten⟩
  · exact Or.imp_right fun ⟨answer', hwritten⟩ => ⟨answer', hsub hwritten⟩

theorem max_eq_left_u32 {a b : UInt32} (h : b ≤ a) : max a b = a := by
  rw [max_u32]
  split
  · next hle => exact UInt32.le_antisymm h hle
  · rfl

theorem max_eq_right_u32 {a b : UInt32} (h : a ≤ b) : max a b = b := by
  rw [max_u32, if_pos h]

theorem meets_calibrateRow (hrows : (⟨.selectUidsWithCtr, .ok rows⟩ : Event ctrApi) ∈ log)
    (hrow : row ∈ rows) :
    Meets (AutoWrites uid) (fun log' _ => log ⊆ log' ∧ RowDone log' row) log
      (calibrateRow row counts) := by
  rw [calibrateRow, getRedisCtr, meets_bind, meets_map, meets_perform]
  refine ⟨autoWrites_of_read rfl, fun answer => ?_⟩
  have hsub : log ⊆ log ++ [⟨.redisGet row.1, answer⟩] := List.subset_append_left _ _
  have hread : (⟨.redisGet row.1, answer⟩ : Event ctrApi) ∈ log ++ [⟨.redisGet row.1, answer⟩] :=
    List.mem_append_right _ (List.mem_singleton_self _)
  cases hctr : answer.toOption.join with
  | none =>
      refine ⟨hsub, answer, hread, ?_⟩
      intro r hr
      rw [hr] at hctr
      cases hctr
  | some r =>
      have hanswer : answer = .ok (some r) := by
        cases answer with
        | error e => cases hctr
        | ok ctr => exact congrArg Except.ok hctr
      have hreads : ∀ r', answer = .ok (some r') → r' = r := by
        intro r' hr'
        rw [hanswer] at hr'
        cases hr'
        rfl
      have hcounter : (⟨.redisGet row.1, .ok (some r)⟩ : Event ctrApi) ∈
          log ++ [⟨.redisGet row.1, answer⟩] := by
        rw [← hanswer]
        exact hread
      have hwrites : ∀ op : CtrOp, op.writes = some (row.1, max r row.2.toUInt32) →
          AutoWrites uid (log ++ [⟨.redisGet row.1, answer⟩]) op := by
        intro op hop ctr hctr
        rw [hop] at hctr
        obtain ⟨huid, hmax⟩ := Prod.mk.inj (Option.some.inj hctr)
        rw [← huid, ← hmax]
        exact ⟨rows, row.2, r, hsub hrows, hrow, hcounter, rfl⟩
      dsimp only
      split
      · next hsame =>
        have hmax : max r row.2.toUInt32 = r := max_eq_left_u32 (hsame ▸ UInt32.le_refl _)
        refine ⟨hsub, answer, hread, ?_⟩
        intro r' hr' _
        rw [hreads r' hr', hmax]
        exact ⟨.inl hsame.symm, .inl rfl⟩
      · split
        · next hfar =>
          refine ⟨hsub, answer, hread, ?_⟩
          intro r' hr' hnear
          rw [hreads r' hr'] at hnear
          exact absurd hnear (Nat.not_le.mpr hfar)
        · split
          · next hlarger =>
            have hmax : max r row.2.toUInt32 = r := max_eq_left_u32 (UInt32.le_of_lt hlarger)
            rw [updatePgCtr, meets_map, meets_map, meets_perform]
            refine ⟨hwrites _ (by simp [CtrOp.writes, hmax]), fun written => ?_⟩
            refine ⟨fun e he => List.mem_append_left _ (hsub he), answer, List.mem_append_left _ hread, ?_⟩
            intro r' hr' _
            rw [hreads r' hr', hmax]
            exact ⟨.inr ⟨written, List.mem_append_right _ (List.mem_singleton_self _)⟩, .inl rfl⟩
          · next hlarger =>
            have hmax : max r row.2.toUInt32 = row.2.toUInt32 :=
              max_eq_right_u32 (UInt32.not_lt.mp hlarger)
            rw [setRedisCtr, meets_map, meets_map, meets_perform]
            refine ⟨hwrites _ (by simp [CtrOp.writes, hmax]), fun written => ?_⟩
            refine ⟨fun e he => List.mem_append_left _ (hsub he), answer, List.mem_append_left _ hread, ?_⟩
            intro r' hr' _
            rw [hreads r' hr', hmax]
            exact ⟨.inl rfl, .inr ⟨written, List.mem_append_right _ (List.mem_singleton_self _)⟩⟩

/-- By induction on the rows that are left: those done stay done. -/
theorem meets_calibrateRows (rest : List (String × Int32))
    (hrows : (⟨.selectUidsWithCtr, .ok rows⟩ : Event ctrApi) ∈ log) (hrest : rest ⊆ rows) :
    Meets (AutoWrites uid) (fun log' _ => log ⊆ log' ∧ ∀ row ∈ rest, RowDone log' row) log
      (calibrateRows rest counts) := by
  induction rest generalizing counts log with
  | nil => exact ⟨fun _ he => he, fun row hrow => by cases hrow⟩
  | cons row rest ih =>
      rw [calibrateRows, meets_bind]
      have hhead : Meets (AutoWrites uid) (fun log' _ => log ⊆ log' ∧ RowDone log' row) log
          (calibrateRow row counts) := meets_calibrateRow hrows (hrest (List.mem_cons_self ..))
      apply hhead.mono fun _ _ h => h
      intro log₁ counts₁ ⟨hsub, hdone⟩
      have htail := @ih counts₁ log₁ (hsub hrows) fun r hr => hrest (List.mem_cons_of_mem _ hr)
      apply htail.mono fun _ _ h => h
      intro log₂ _ ⟨hsub', hdone'⟩
      refine ⟨fun e he => hsub' (hsub he), ?_⟩
      intro r hr
      cases List.mem_cons.mp hr with
      | inl heq => exact heq ▸ hdone.mono hsub'
      | inr hmem => exact hdone' r hmem

theorem meets_runAuto (uid : String) :
    Meets (AutoWrites uid) (fun log _ => (∃ e, (⟨.selectUidsWithCtr, .error e⟩ : Event ctrApi) ∈ log) ∨
      ∃ rows, (⟨.selectUidsWithCtr, .ok rows⟩ : Event ctrApi) ∈ log ∧ ∀ row ∈ rows, RowDone log row)
      [] runAuto := by
  rw [runAuto, fetchAllUidsWithCtr, meets_bind, meets_map, meets_perform]
  refine ⟨autoWrites_of_read rfl, fun answer => ?_⟩
  cases answer with
  | error e => exact .inl ⟨e, List.mem_singleton_self _⟩
  | ok rows =>
      have hlisted : (⟨.selectUidsWithCtr, .ok rows⟩ : Event ctrApi) ∈
          [] ++ [(⟨.selectUidsWithCtr, .ok rows⟩ : Event ctrApi)] := List.mem_singleton_self _
      have hrows := @meets_calibrateRows uid rows ⟨0, 0⟩ _ rows hlisted fun _ h => h
      apply hrows.mono fun _ _ h => h
      intro log _ ⟨hsub, hdone⟩
      exact .inr ⟨rows, hsub hlisted, hdone⟩

end Auto

section Commands
variable {uid tag : String} {value : Option UInt32} {command : CtrAction}

/-- A call that writes no UID but the one, or none but the counter. -/
def CtrOp.WritesUid (tag : String) (op : CtrOp) : Prop :=
  ∀ uid ctr, op.writes = some (uid, ctr) → uid = tag

def CtrOp.WritesCtr (m : UInt32) (op : CtrOp) : Prop :=
  ∀ uid ctr, op.writes = some (uid, ctr) → ctr = m

theorem writes_updateCtrByUid {ctr : UInt32} :
    (CtrOp.updateCtrByUid tag ctr.toInt32).WritesUid tag ∧
      (CtrOp.updateCtrByUid tag ctr.toInt32).WritesCtr ctr := by
  constructor
  · intro uid m h
    exact (Prod.mk.inj (Option.some.inj h)).1.symm
  · intro uid m h
    rw [← (Prod.mk.inj (Option.some.inj h)).2, UInt32.toUInt32_toInt32]

theorem writes_redisSetEx {ctr : UInt32} :
    (CtrOp.redisSetEx tag ctr).WritesUid tag ∧ (CtrOp.redisSetEx tag ctr).WritesCtr ctr := by
  constructor
  · intro uid m h
    exact (Prod.mk.inj (Option.some.inj h)).1.symm
  · intro uid m h
    exact (Prod.mk.inj (Option.some.inj h)).2.symm

/-- The check writes nothing. -/
theorem meets_runCheck :
    Meets (fun _ (op : CtrOp) => op.writes = none) (fun _ _ => True) [] runCheck := by
  have hrows : ∀ (rows : List (String × Int32)) (counts : CheckCounts) (log : List (Event ctrApi)),
      Meets (fun _ (op : CtrOp) => op.writes = none) (fun _ _ => True) log (checkRows rows counts) := by
    intro rows
    induction rows with
    | nil => exact fun _ _ => trivial
    | cons row rows ih =>
        intro counts log
        rw [checkRows, meets_bind, checkRow, meets_map, getRedisCtr, meets_map, meets_perform]
        exact ⟨rfl, fun _ => ih _ _⟩
  rw [runCheck, fetchAllUidsWithCtr, meets_bind, meets_map, meets_perform]
  refine ⟨rfl, fun answer => ?_⟩
  rw [meets_map]
  exact hrows _ _ _

theorem meets_updatePgCtr {calls : List (Event ctrApi) → CtrOp → Prop}
    {answers : List (Event ctrApi) → Unit → Prop} {log : List (Event ctrApi)} {ctr : UInt32} :
    Meets calls answers log (updatePgCtr tag ctr) ↔ calls log (.updateCtrByUid tag ctr.toInt32) ∧
      ∀ a, answers (log ++ [⟨.updateCtrByUid tag ctr.toInt32, a⟩]) () := Iff.rfl

theorem meets_setRedisCtr {calls : List (Event ctrApi) → CtrOp → Prop}
    {answers : List (Event ctrApi) → Unit → Prop} {log : List (Event ctrApi)} {ctr : UInt32} :
    Meets calls answers log (setRedisCtr tag ctr) ↔ calls log (.redisSetEx tag ctr) ∧
      ∀ a, answers (log ++ [⟨.redisSetEx tag ctr, a⟩]) () := Iff.rfl

/-- Each side is written unless it is the larger one. -/
theorem meets_writeMax (r p : UInt32) (log : List (Event ctrApi)) :
    Meets (fun _ (op : CtrOp) => op.WritesUid tag ∧ op.WritesCtr (max r p))
      (fun log _ =>
        (p = max r p ∨ ∃ a, (⟨.updateCtrByUid tag (max r p).toInt32, a⟩ : Event ctrApi) ∈ log) ∧
        (r = max r p ∨ ∃ a, (⟨.redisSetEx tag (max r p), a⟩ : Event ctrApi) ∈ log)) log
      (writeMax tag r p) := by
  have hpg : ∀ log : List (Event ctrApi),
      (r = max r p ∨ ∃ a, (⟨.redisSetEx tag (max r p), a⟩ : Event ctrApi) ∈ log) →
      Meets (fun _ (op : CtrOp) => op.WritesUid tag ∧ op.WritesCtr (max r p))
        (fun log _ =>
          (p = max r p ∨ ∃ a, (⟨.updateCtrByUid tag (max r p).toInt32, a⟩ : Event ctrApi) ∈ log) ∧
          (r = max r p ∨ ∃ a, (⟨.redisSetEx tag (max r p), a⟩ : Event ctrApi) ∈ log)) log
        (if p < max r p then updatePgCtr tag (max r p) else .done ()) := by
    intro log hredis
    split
    · rw [meets_updatePgCtr]
      refine ⟨writes_updateCtrByUid, fun a => ?_⟩
      refine ⟨.inr ⟨a, List.mem_append_right _ (List.mem_singleton_self _)⟩, ?_⟩
      exact hredis.imp_right fun ⟨a', ha'⟩ => ⟨a', List.mem_append_left _ ha'⟩
    · next hle =>
      exact ⟨.inl (UInt32.le_antisymm (right_le_max_u32 r p) (UInt32.not_lt.mp hle)), hredis⟩
  rw [writeMax, meets_bind]
  by_cases hsmaller : r < max r p
  · rw [if_pos hsmaller, meets_setRedisCtr]
    refine ⟨writes_redisSetEx, fun a => ?_⟩
    exact hpg _ (.inr ⟨a, List.mem_append_right _ (List.mem_singleton_self _)⟩)
  · rw [if_neg hsmaller]
    exact hpg log (.inl (UInt32.le_antisymm (left_le_max_u32 r p) (UInt32.not_lt.mp hsmaller)))

/-- A command of a single UID writes its UID only. -/
theorem meets_calibrateUid (pgCtr : Option Int32) (redisCtr : Option UInt32)
    (strategy : CalibrateAction) (log : List (Event ctrApi)) :
    Meets (fun _ (op : CtrOp) => op.WritesUid tag) (fun _ _ => True) log
      (calibrateUid tag value pgCtr redisCtr strategy) := by
  cases strategy with
  | useRedis =>
      cases redisCtr with
      | none => trivial
      | some r => exact meets_updatePgCtr.mpr ⟨writes_updateCtrByUid.1, fun _ => trivial⟩
  | usePg =>
      cases pgCtr with
      | none => trivial
      | some pg => exact meets_setRedisCtr.mpr ⟨writes_redisSetEx.1, fun _ => trivial⟩
  | useMax => exact (meets_writeMax _ _ log).mono (fun _ _ h => h.1) fun _ _ _ => trivial
  | setValue =>
      cases value with
      | none => trivial
      | some v =>
          rw [calibrateUid, meets_bind, meets_setRedisCtr]
          refine ⟨writes_redisSetEx.1, fun _ => ?_⟩
          rw [meets_updatePgCtr]
          exact ⟨writes_updateCtrByUid.1, fun _ => trivial⟩

/-- What a command has gone by when it is through. -/
def CtrAction.Through (uid : String) (log : List (Event ctrCliApi)) : CtrAction → Prop
  | .check => True
  | .auto =>
      (∃ e, (⟨.inl .selectUidsWithCtr, .error e⟩ : Event ctrCliApi) ∈ log) ∨
        ∃ rows, (⟨.inl .selectUidsWithCtr, .ok rows⟩ : Event ctrCliApi) ∈ log ∧
          ∀ ctr, (uid, ctr) ∈ rows →
            ∃ answer, (⟨.inl (.redisGet uid), answer⟩ : Event ctrCliApi) ∈ log ∧
              ∀ r, answer = .ok (some r) → Near r ctr.toUInt32 → AutoRaise uid log ctr.toUInt32 r
  | .uid tag strategy _ =>
      tag = uid ∧ strategy = .useMax → LostRead uid log ∨ ∃ p r, AutoRaise uid log p r

/-- The calls a command of a UID may make. -/
def CtrAction.Calls (uid : String) (command : CtrAction) (log : List (Event ctrCliApi))
    (op : ctrCliApi.Op) : Prop :=
  (∃ value, command = .uid uid .useMax value) ∧ LostRead uid log ∨ WritesMax uid log op

theorem writesMax_of_other {log : List (Event ctrCliApi)} {op : ctrCliApi.Op}
    (h : ∀ ctr, ctrCliWrites op ≠ some (uid, ctr)) : WritesMax uid log op :=
  fun ctr hctr => absurd hctr (h ctr)

theorem writesMax_of_read {log : List (Event ctrCliApi)} {op : ctrCliApi.Op}
    (h : ctrCliWrites op = none) : WritesMax uid log op := by
  apply writesMax_of_other
  intro ctr hctr
  rw [h] at hctr
  cases hctr

theorem meets_auto (uid : String) :
    Meets (CtrAction.auto.Calls uid) (fun log _ => CtrAction.auto.Through uid log) []
      CtrAction.auto.run := by
  have hauto : Meets (AutoWrites uid) (fun log _ =>
      (∃ e, (⟨.selectUidsWithCtr, .error e⟩ : Event ctrApi) ∈ log) ∨
        ∃ rows, (⟨.selectUidsWithCtr, .ok rows⟩ : Event ctrApi) ∈ log ∧ ∀ row ∈ rows, RowDone log row)
      [] (runAuto.map fun _ => ()) := by
    rw [meets_map]
    exact meets_runAuto uid
  have hleft : Meets _ _ ([] : List (Event ctrCliApi)) CtrAction.auto.run := Meets.left hauto
  apply hleft.mono
  · intro log op ⟨op', hop, hwrites⟩
    right
    intro ctr hctr
    rw [hop] at hctr
    obtain ⟨rows, c, r, hrows, hrow, hredis, hmax⟩ := hwrites ctr hctr
    refine ⟨c.toUInt32, r, .listed rows c (mem_leftEvents.mp hrows) hrow, ?_, hmax⟩
    exact ⟨some r, mem_leftEvents.mp hredis, rfl⟩
  · intro log _ hdone
    apply hdone.imp
    · intro ⟨e, he⟩
      exact ⟨e, mem_leftEvents.mp he⟩
    · intro ⟨rows, hrows, hall⟩
      refine ⟨rows, mem_leftEvents.mp hrows, ?_⟩
      intro ctr hctr
      obtain ⟨answer, hread, hraised⟩ := hall (uid, ctr) hctr
      refine ⟨answer, mem_leftEvents.mp hread, ?_⟩
      intro r hr hnear
      obtain ⟨hpg, hredis⟩ := hraised r hr hnear
      constructor
      · exact .listed rows ctr (mem_leftEvents.mp hrows) hctr
      · exact ⟨some r, hr ▸ mem_leftEvents.mp hread, rfl⟩
      · exact hpg.imp_right fun ⟨a, ha⟩ => ⟨a, mem_leftEvents.mp ha⟩
      · exact hredis.imp_right fun ⟨a, ha⟩ => ⟨a, mem_leftEvents.mp ha⟩

/-- The reads a command of a single UID starts with. -/
abbrev uidReads (tag : String) (pgCtr : Except String (Option (Option Int32)))
    (redisCtr : Except String (Option UInt32)) : List (Event ctrCliApi) :=
  [⟨.inr (.selectLastVerifiedCtr tag), pgCtr⟩, ⟨.inl (.redisGet tag), redisCtr⟩]

theorem meets_runUid {calls : List (Event ctrCliApi) → ctrCliApi.Op → Prop}
    {answers : List (Event ctrCliApi) → Unit → Prop} {strategy : CalibrateAction} :
    Meets calls answers [] (runUid tag strategy value) ↔
      calls [] (.inr (.selectLastVerifiedCtr tag)) ∧ ∀ pgCtr : Except String (Option (Option Int32)),
        calls [⟨.inr (.selectLastVerifiedCtr tag), pgCtr⟩] (.inl (.redisGet tag)) ∧
          ∀ redisCtr : Except String (Option UInt32),
            Meets calls answers (uidReads tag pgCtr redisCtr)
              (calibrateUid tag value pgCtr.toOption.join.join redisCtr.toOption.join strategy).left :=
  Iff.rfl

/-- Answers of the two reads, either lost or both counters read. -/
theorem read_or_lost (uid : String) (pgCtr : Except String (Option (Option Int32)))
    (redisCtr : Except String (Option UInt32)) {log : List (Event ctrCliApi)}
    (hpg : (⟨.inr (.selectLastVerifiedCtr uid), pgCtr⟩ : Event ctrCliApi) ∈ log)
    (hredis : (⟨.inl (.redisGet uid), redisCtr⟩ : Event ctrCliApi) ∈ log) :
    LostRead uid log ∨ PgRead uid log (pgCtr.toOption.join.join.getD 0).toUInt32 ∧
      RedisRead uid log (redisCtr.toOption.join.getD 0) := by
  cases pgCtr with
  | error e => exact .inl ⟨e, .inr hpg⟩
  | ok pg =>
      cases redisCtr with
      | error e => exact .inl ⟨e, .inl hredis⟩
      | ok r => exact .inr ⟨.asked pg hpg, r, hredis, rfl⟩

theorem meets_useMax (uid : String) (value : Option UInt32) :
    Meets ((CtrAction.uid uid .useMax value).Calls uid)
      (fun log _ => (CtrAction.uid uid .useMax value).Through uid log) [] (runUid uid .useMax value) := by
  rw [meets_runUid]
  refine ⟨.inr (writesMax_of_read rfl), fun pgCtr => ⟨.inr (writesMax_of_read rfl), fun redisCtr => ?_⟩⟩
  have hreads : ∀ log : List (Event ctrCliApi),
      uidReads uid pgCtr redisCtr ⊆ log →
      LostRead uid log ∨ PgRead uid log (pgCtr.toOption.join.join.getD 0).toUInt32 ∧
        RedisRead uid log (redisCtr.toOption.join.getD 0) := by
    intro log hlog
    apply read_or_lost uid pgCtr redisCtr
    · exact hlog (List.mem_cons_self ..)
    · exact hlog (List.mem_cons_of_mem _ (List.mem_cons_self ..))
  rw [calibrateUid]
  generalize redisCtr.toOption.join.getD 0 = r at hreads ⊢
  generalize (pgCtr.toOption.join.join.getD 0).toUInt32 = p at hreads ⊢
  have hleft : Meets _ _ (uidReads uid pgCtr redisCtr) (writeMax uid r p).left :=
    Meets.left (meets_writeMax r p _)
  apply hleft.extends.mono
  · rintro log op ⟨⟨op', rfl, huid, hmax⟩, rest, rfl, -⟩
    cases hreads _ (List.subset_append_left _ rest) with
    | inl hlost => exact .inl ⟨⟨value, rfl⟩, hlost⟩
    | inr hread => exact .inr fun ctr hctr => ⟨p, r, hread.1, hread.2, hmax uid ctr hctr⟩
  · rintro log _ ⟨⟨hpg, hredis⟩, rest, rfl, -⟩ -
    apply (hreads _ (List.subset_append_left _ rest)).imp_right
    intro hread
    refine ⟨p, r, hread.1, hread.2, ?_, ?_⟩
    · exact hpg.imp_right fun ⟨a, ha⟩ => ⟨a, mem_leftEvents.mp ha⟩
    · exact hredis.imp_right fun ⟨a, ha⟩ => ⟨a, mem_leftEvents.mp ha⟩

/-- Every command but those that lower a counter of the UID. -/
theorem meets_run (h : command.Raises uid) :
    Meets (command.Calls uid) (fun log _ => command.Through uid log) [] command.run := by
  cases command with
  | check =>
      have hcheck : Meets (fun _ (op : CtrOp) => op.writes = none) (fun _ _ => True) []
          (runCheck.map fun _ => ()) := by
        rw [meets_map]
        exact meets_runCheck
      have hleft : Meets _ _ ([] : List (Event ctrCliApi)) CtrAction.check.run := Meets.left hcheck
      apply hleft.mono
      · rintro log op ⟨op', rfl, hnone⟩
        exact .inr (writesMax_of_read hnone)
      · exact fun _ _ _ => trivial
  | auto => exact meets_auto uid
  | uid tag strategy value =>
      by_cases htag : tag = uid
      · rw [h htag, htag]
        exact meets_useMax uid value
      · rw [CtrAction.run, meets_runUid]
        refine ⟨.inr (writesMax_of_read rfl), fun pgCtr => ⟨.inr (writesMax_of_read rfl), fun redisCtr => ?_⟩⟩
        have hleft : Meets _ _ (uidReads tag pgCtr redisCtr)
            (calibrateUid tag value pgCtr.toOption.join.join redisCtr.toOption.join strategy).left :=
          Meets.left (meets_calibrateUid _ _ strategy _)
        apply hleft.mono
        · rintro log op ⟨op', rfl, hwrites⟩
          right
          apply writesMax_of_other
          intro ctr hctr
          exact htag (hwrites uid ctr hctr).symm
        · intro _ _ _ hmax
          exact absurd hmax.1 htag

end Commands

/-- The larger counter of the UID, where a missing one counts as zero. -/
def Store.topCtr (s : Store) (uid : String) : UInt32 :=
  max ((s.redis uid).getD 0) ((s.db.pgCtr uid).getD 0)

/-- Each counter of `t` is the one of `t'` or the larger one of `s`. -/
structure CtrMoved (uid : String) (s t' t : Store) : Prop where
  pg : t.db.pgCtr uid = t'.db.pgCtr uid ∨ t.db.pgCtr uid = (s.db.pgCtr uid).map fun _ => s.topCtr uid
  redis : t.redis uid = t'.redis uid ∨ t.redis uid = some (s.topCtr uid)

/-- No counter of the UID goes down or away. -/
structure NotLowered (uid : String) (s t : Store) : Prop where
  pg : ∀ p, s.db.pgCtr uid = some p → ∃ p', t.db.pgCtr uid = some p' ∧ p ≤ p'
  redis : ∀ r, s.redis uid = some r → ∃ r', t.redis uid = some r' ∧ r ≤ r'

section Steps
variable {uid : String} {s t : Store} {env : CtrEnv} {p r : UInt32}

theorem pgCtr_updateCtrByUid {db : Db} {tag : String} {ctr : Int32} :
    (db.updateCtrByUid tag ctr).pgCtr uid =
      if uid = tag then (db.pgCtr uid).map fun _ => ctr.toUInt32 else db.pgCtr uid := by
  rw [Db.pgCtr, selectLastVerifiedCtr_updateCtrByUid, Db.pgCtr]
  split
  · next huid =>
    rw [huid, Option.map_map, Option.map_map]
    rfl
  · rfl

theorem redis_setRedis {tag : String} {ctr : Option UInt32} :
    (s.setRedis tag ctr).redis uid = if uid = tag then ctr else s.redis uid := by
  simp only [Store.setRedis, Function.update_apply]

/-- A call that does not write the UID leaves its counters. -/
theorem exec_keeps {op : ctrCliApi.Op} (h : ∀ ctr, ctrCliWrites op ≠ some (uid, ctr)) :
    (ctrCliMachine.exec env op s).2.db.pgCtr uid = s.db.pgCtr uid ∧
      (ctrCliMachine.exec env op s).2.redis uid = s.redis uid := by
  cases op with
  | inr op => cases op with
    | selectLastVerifiedCtr tag =>
        dsimp only [ctrCliMachine]
        split <;> exact ⟨rfl, rfl⟩
  | inl op => cases op with
    | selectUidsWithCtr =>
        dsimp only [ctrCliMachine, ctrMachine]
        split <;> exact ⟨rfl, rfl⟩
    | redisGet tag =>
        dsimp only [ctrCliMachine, ctrMachine]
        split <;> exact ⟨rfl, rfl⟩
    | updateCtrByUid tag ctr =>
        have hne : uid ≠ tag := fun huid => h ctr.toUInt32 (by rw [huid]; rfl)
        dsimp only [ctrCliMachine, ctrMachine]
        split
        · exact ⟨rfl, rfl⟩
        · exact ⟨by rw [pgCtr_updateCtrByUid, if_neg hne], rfl⟩
    | redisSetEx tag ctr =>
        have hne : uid ≠ tag := fun huid => h ctr (by rw [huid]; rfl)
        dsimp only [ctrCliMachine, ctrMachine]
        split
        · exact ⟨rfl, rfl⟩
        · exact ⟨rfl, by rw [redis_setRedis, if_neg hne]⟩

/-- A call that writes the UID writes one side, unless it is answered with an error. -/
theorem exec_writes {op : ctrCliApi.Op} {ctr : UInt32} (h : ctrCliWrites op = some (uid, ctr)) :
    (ctrCliMachine.exec env op s).2 = s ∨
      op = .inl (.updateCtrByUid uid ctr.toInt32) ∧
        (ctrCliMachine.exec env op s).2.db.pgCtr uid = ((s.db.pgCtr uid).map fun _ => ctr) ∧
        (ctrCliMachine.exec env op s).2.redis uid = s.redis uid ∨
      op = .inl (.redisSetEx uid ctr) ∧ (ctrCliMachine.exec env op s).2.db = s.db ∧
        (ctrCliMachine.exec env op s).2.redis uid = some ctr := by
  cases op with
  | inr op => cases h
  | inl op => cases op with
    | selectUidsWithCtr => cases h
    | redisGet tag => cases h
    | updateCtrByUid tag c =>
        obtain ⟨rfl, rfl⟩ := Prod.mk.inj (Option.some.inj h)
        dsimp only [ctrCliMachine, ctrMachine]
        split
        · exact .inl rfl
        · refine .inr (.inl ⟨by rw [Int32.toInt32_toUInt32], ?_, rfl⟩)
          rw [pgCtr_updateCtrByUid, if_pos rfl]
    | redisSetEx tag c =>
        obtain ⟨rfl, rfl⟩ := Prod.mk.inj (Option.some.inj h)
        dsimp only [ctrCliMachine, ctrMachine]
        split
        · exact .inl rfl
        · exact .inr (.inr ⟨rfl, rfl, by rw [redis_setRedis, if_pos rfl]⟩)

/-! What a read answers is what is stored. -/

theorem exec_listed {rows : List (String × Int32)} {ctr : Int32}
    (h : ctrCliMachine.exec env (.inl .selectUidsWithCtr) s = (.ok rows, t)) (hrow : (uid, ctr) ∈ rows) :
    s.db.pgCtr uid = some ctr.toUInt32 := by
  dsimp only [ctrCliMachine, ctrMachine] at h
  split at h
  · cases h
  · cases h
    obtain ⟨c, hread, hvalue⟩ := selectLastVerifiedCtr_of_mem ((env.order.perm _).subset hrow)
    have hread : s.db.selectLastVerifiedCtr uid = some c := hread
    have hvalue : c.getD 0 = ctr := hvalue
    rw [Db.pgCtr, hread, ← hvalue]
    rfl

theorem exec_asked {ctr : Option (Option Int32)}
    (h : ctrCliMachine.exec env (.inr (.selectLastVerifiedCtr uid)) s = (.ok ctr, t)) :
    (s.db.pgCtr uid).getD 0 = (ctr.join.getD 0).toUInt32 := by
  dsimp only [ctrCliMachine] at h
  split at h
  · cases h
  · cases h
    rw [Db.pgCtr]
    cases s.db.selectLastVerifiedCtr uid <;> rfl

theorem exec_ctrGet {ctr : Option UInt32}
    (h : ctrCliMachine.exec env (.inl (.redisGet uid)) s = (.ok ctr, t)) : s.redis uid = ctr := by
  dsimp only [ctrCliMachine, ctrMachine] at h
  split at h
  · cases h
  · cases h
    rfl

theorem exec_updated {ctr : UInt32} {answer : Except String Unit}
    (h : ctrCliMachine.exec env (.inl (.updateCtrByUid uid ctr.toInt32)) s = (answer, t))
    (hanswer : ¬CtrFailed ⟨.inl (.updateCtrByUid uid ctr.toInt32), answer⟩) :
    t.db.pgCtr uid = (s.db.pgCtr uid).map fun _ => ctr := by
  dsimp only [ctrCliMachine, ctrMachine] at h
  split at h
  · cases h
    exact absurd rfl hanswer
  · cases h
    rw [pgCtr_updateCtrByUid, if_pos rfl, UInt32.toUInt32_toInt32]

theorem exec_set {ctr : UInt32} {answer : Except String Unit}
    (h : ctrCliMachine.exec env (.inl (.redisSetEx uid ctr)) s = (answer, t))
    (hanswer : ¬CtrFailed ⟨.inl (.redisSetEx uid ctr), answer⟩) : t.redis uid = some ctr := by
  dsimp only [ctrCliMachine, ctrMachine] at h
  split at h
  · cases h
    exact absurd rfl hanswer
  · cases h
    rw [redis_setRedis, if_pos rfl]

/-! The counters of a run are among three. -/

theorem CtrMoved.refl (uid : String) (s t : Store) : CtrMoved uid s t t := ⟨.inl rfl, .inl rfl⟩

theorem CtrMoved.trans {t' : Store} (h : CtrMoved uid s s t) (h' : CtrMoved uid s t t') :
    CtrMoved uid s s t' := by
  constructor
  · cases h'.pg with
    | inl hsame => exact h.pg.imp hsame.trans hsame.trans
    | inr htop => exact .inr htop
  · cases h'.redis with
    | inl hsame => exact h.redis.imp hsame.trans hsame.trans
    | inr htop => exact .inr htop

theorem CtrMoved.pg_getD (h : CtrMoved uid s s t) :
    (t.db.pgCtr uid).getD 0 = (s.db.pgCtr uid).getD 0 ∨ (t.db.pgCtr uid).getD 0 = s.topCtr uid := by
  cases h.pg with
  | inl hsame => exact .inl (by rw [hsame])
  | inr htop =>
      rw [htop]
      cases s.db.pgCtr uid with
      | none => exact .inl rfl
      | some p => exact .inr rfl

theorem CtrMoved.redis_getD (h : CtrMoved uid s s t) :
    (t.redis uid).getD 0 = (s.redis uid).getD 0 ∨ (t.redis uid).getD 0 = s.topCtr uid := by
  apply h.redis.imp
  · intro hsame
    rw [hsame]
  · intro htop
    rw [htop]
    rfl

theorem CtrMoved.map_top (h : CtrMoved uid s s t) :
    ((t.db.pgCtr uid).map fun _ => s.topCtr uid) = (s.db.pgCtr uid).map fun _ => s.topCtr uid := by
  cases h.pg with
  | inl hsame => rw [hsame]
  | inr htop =>
      rw [htop, Option.map_map]
      rfl

theorem max_of_between {a b : UInt32} (hr : r = a ∨ r = max a b) (hp : p = b ∨ p = max a b) :
    max r p = max a b := by
  have hcases : max a b = a ∨ max a b = b := by
    rw [max_u32]
    split
    · exact .inr rfl
    · exact .inl rfl
  have hr' : r ≤ max a b := by
    cases hr with
    | inl hr => exact hr ▸ left_le_max_u32 a b
    | inr hr => exact hr ▸ UInt32.le_refl _
  have hp' : p ≤ max a b := by
    cases hp with
    | inl hp => exact hp ▸ right_le_max_u32 a b
    | inr hp => exact hp ▸ UInt32.le_refl _
  cases hcases with
  | inl hmax =>
      have hr : r = max a b := by
        cases hr with
        | inl hr => exact hr.trans hmax.symm
        | inr hr => exact hr
      rw [← hr] at hp' ⊢
      exact max_eq_left_u32 hp'
  | inr hmax =>
      have hp : p = max a b := by
        cases hp with
        | inl hp => exact hp.trans hmax.symm
        | inr hp => exact hp
      rw [← hp] at hr' ⊢
      exact max_eq_right_u32 hr'

theorem near_of_between {a b : UInt32} (hr : r = a ∨ r = max a b) (hp : p = b ∨ p = max a b)
    (hnear : Near a b) : Near r p := by
  rw [max_u32] at hr hp
  rw [Near] at hnear ⊢
  split at hr
  · next hle =>
    rw [if_pos hle] at hp
    have hle : a.toNat ≤ b.toNat := hle
    rcases hr with rfl | rfl <;> rcases hp with rfl | rfl <;> omega
  · next hle =>
    rw [if_neg hle] at hp
    rcases hr with rfl | rfl <;> rcases hp with rfl | rfl <;> omega

/-- A call that writes no more than the larger counter, from between the two. -/
theorem exec_moved {op : ctrCliApi.Op}
    (hop : ∀ ctr, ctrCliWrites op = some (uid, ctr) → ctr = s.topCtr uid) (h : CtrMoved uid s s t) :
    CtrMoved uid s t (ctrCliMachine.exec env op t).2 := by
  by_cases hwrites : ∃ ctr, ctrCliWrites op = some (uid, ctr)
  · obtain ⟨ctr, hctr⟩ := hwrites
    have htop := hop ctr hctr
    obtain hsame | ⟨-, hpg, hredis⟩ | ⟨-, hdb, hredis⟩ := @exec_writes uid t env op ctr hctr
    · rw [hsame]
      exact .refl uid s t
    · exact ⟨.inr (by rw [hpg, htop, h.map_top]), .inl hredis⟩
    · exact ⟨.inl (by rw [hdb]), .inr (by rw [hredis, htop])⟩
  · push Not at hwrites
    obtain ⟨hpg, hredis⟩ := @exec_keeps uid t env op hwrites
    exact ⟨.inl hpg, .inl hredis⟩

theorem CtrMoved.notLowered {t' : Store} (h : CtrMoved uid s s t) (h' : CtrMoved uid s t t') :
    NotLowered uid t t' := by
  constructor
  · intro p hp
    cases h'.pg with
    | inl hsame => exact ⟨p, hsame.trans hp, UInt32.le_refl p⟩
    | inr htop =>
        cases h.pg with
        | inl hstart =>
            have hs := hstart.symm.trans hp
            refine ⟨s.topCtr uid, by rw [htop, hs]; rfl, ?_⟩
            rw [Store.topCtr, hs]
            exact right_le_max_u32 _ _
        | inr hmoved => exact ⟨p, htop.trans (hmoved.symm.trans hp), UInt32.le_refl p⟩
  · intro r hr
    cases h'.redis with
    | inl hsame => exact ⟨r, hsame.trans hr, UInt32.le_refl r⟩
    | inr htop =>
        refine ⟨s.topCtr uid, htop, ?_⟩
        cases h.redis with
        | inl hstart =>
            rw [Store.topCtr, ← hstart, hr]
            exact left_le_max_u32 _ _
        | inr hmoved =>
            rw [Option.some.inj (hr.symm.trans hmoved)]
            exact UInt32.le_refl _

end Steps

/-- The commands started on the store. -/
def ctrPool {ι : Type} (commands : ι → CtrAction) (s : Store) : Pool ctrCliApi Store ι Unit :=
  ⟨s, fun i => (commands i).run⟩

/-- A strategy that takes the larger counter of the UID has lost no read of it. -/
def ReadsAnswered {ι : Type} [DecidableEq ι] (uid : String) (commands : ι → CtrAction)
    (h : List (Move ctrCliApi Store ι)) : Prop :=
  ∀ i value, commands i = .uid uid .useMax value → ¬LostRead uid (eventsOf i h)

section Runs
variable {ι : Type} [DecidableEq ι] {commands : ι → CtrAction} {uid : String} {s : Store}
  {h h' : List (Move ctrCliApi Store ι)} {c : Pool ctrCliApi Store ι Unit} {i : ι} {p r : UInt32}

theorem LostRead.mono {log log' : List (Event ctrCliApi)} (hlost : LostRead uid log)
    (hsub : log ⊆ log') : LostRead uid log' := by
  obtain ⟨e, he⟩ := hlost
  exact ⟨e, he.imp (@hsub _) (@hsub _)⟩

theorem ReadsAnswered.left (hreads : ReadsAnswered uid commands (h ++ h')) :
    ReadsAnswered uid commands h := by
  intro i value hi hlost
  apply hreads i value hi
  rw [eventsOf_append]
  exact hlost.mono (List.subset_append_left _ _)

/-- What a command has read was stored when it read it. -/
theorem pgRead_move {start : Pool ctrCliApi Store ι Unit}
    (run : Interleaves ctrCliMachine start h c)
    (hp : PgRead uid (eventsOf i h) p) : ∃ v ∈ h, (v.before.db.pgCtr uid).getD 0 = p := by
  cases hp with
  | listed rows ctr hevent hrow =>
      obtain ⟨v, hv, -, he⟩ := mem_eventsOf.mp hevent
      obtain ⟨env, hexec⟩ := run.move hv
      rw [he] at hexec
      exact ⟨v, hv, by rw [exec_listed hexec hrow]; rfl⟩
  | asked ctr hevent =>
      obtain ⟨v, hv, -, he⟩ := mem_eventsOf.mp hevent
      obtain ⟨env, hexec⟩ := run.move hv
      rw [he] at hexec
      exact ⟨v, hv, exec_asked hexec⟩

theorem redisRead_move {start : Pool ctrCliApi Store ι Unit}
    (run : Interleaves ctrCliMachine start h c) (hr : RedisRead uid (eventsOf i h) r) :
    ∃ v ∈ h, (v.before.redis uid).getD 0 = r := by
  obtain ⟨ctr, hevent, rfl⟩ := hr
  obtain ⟨v, hv, -, he⟩ := mem_eventsOf.mp hevent
  obtain ⟨env, hexec⟩ := run.move hv
  rw [he] at hexec
  exact ⟨v, hv, by rw [exec_ctrGet hexec]⟩

/-- The larger of two counters read along a run from between is the larger one of the start. -/
theorem max_read {start : Pool ctrCliApi Store ι Unit} (run : Interleaves ctrCliMachine start h c)
    (hbefore : ∀ v ∈ h, CtrMoved uid s s v.before) (hp : PgRead uid (eventsOf i h) p)
    (hr : RedisRead uid (eventsOf i h) r) : max r p = s.topCtr uid := by
  obtain ⟨v, hv, rfl⟩ := pgRead_move run hp
  obtain ⟨w, hw, rfl⟩ := redisRead_move run hr
  exact max_of_between (hbefore w hw).redis_getD (hbefore v hv).pg_getD

/-- By induction on the run: what the next call writes was read before it. -/
theorem run_between (run : Interleaves ctrCliMachine (ctrPool commands s) h c)
    (hkind : ∀ i, (commands i).Raises uid) (hreads : ReadsAnswered uid commands h) :
    CtrMoved uid s s c.state ∧
      ∀ v ∈ h, CtrMoved uid s s v.before ∧ CtrMoved uid s v.before v.after := by
  induction run with
  | start => exact ⟨.refl uid s s, fun v hv => by cases hv⟩
  | @step h c run i op next hi env ih =>
      obtain ⟨hstate, hmoves⟩ := ih hreads.left
      have hmeets := run.meets (fun i => meets_run (hkind i)) i
      rw [hi] at hmeets
      have hwrites : ∀ ctr, ctrCliWrites op = some (uid, ctr) → ctr = s.topCtr uid := by
        intro ctr hctr
        cases hmeets.1 with
        | inl hlost =>
            obtain ⟨⟨value, hvalue⟩, hlost⟩ := hlost
            exact absurd hlost (hreads.left i value hvalue)
        | inr hmax =>
            obtain ⟨p, r, hp, hr, rfl⟩ := hmax ctr hctr
            exact max_read run (fun v hv => (hmoves v hv).1) hp hr
      have hstep : CtrMoved uid s c.state (ctrCliMachine.exec env op c.state).2 :=
        exec_moved hwrites hstate
      refine ⟨hstate.trans hstep, ?_⟩
      intro v hv
      cases List.mem_append.mp hv with
      | inl hv => exact hmoves v hv
      | inr hv =>
          rw [List.mem_singleton.mp hv]
          exact ⟨hstate, hstep⟩

/-- The side of PostgreSQL is done. -/
def PgAtTop (uid : String) (s t : Store) : Prop :=
  t.db.pgCtr uid = (s.db.pgCtr uid).map fun _ => s.topCtr uid

def RedisAtTop (uid : String) (s t : Store) : Prop := (t.redis uid).getD 0 = s.topCtr uid

theorem pgAtTop_of_getD {t : Store} (hbetween : CtrMoved uid s s t)
    (htop : (t.db.pgCtr uid).getD 0 = s.topCtr uid) : PgAtTop uid s t := by
  cases hbetween.pg with
  | inr hmoved => exact hmoved
  | inl hsame =>
      rw [PgAtTop, hsame]
      cases hpg : s.db.pgCtr uid with
      | none => rfl
      | some p =>
          rw [hsame, hpg] at htop
          exact congrArg some htop

theorem CtrMoved.keepsPg {t t' : Store} (h : CtrMoved uid s t t') (ht : PgAtTop uid s t) :
    PgAtTop uid s t' :=
  h.pg.elim (fun hsame => hsame.trans ht) id

theorem CtrMoved.keepsRedis {t t' : Store} (h : CtrMoved uid s t t') (ht : RedisAtTop uid s t) :
    RedisAtTop uid s t' := by
  rw [RedisAtTop]
  cases h.redis with
  | inl hsame => rw [hsame, ht]
  | inr htop => rw [htop]; rfl

/-- What was overwritten, or was the larger one when it was read, lasts. -/
theorem raised_lasts (run : Interleaves ctrCliMachine (ctrPool commands s) h c)
    (hmoves : ∀ v ∈ h, CtrMoved uid s s v.before ∧ CtrMoved uid s v.before v.after)
    (hanswered : ∀ e ∈ eventsOf i h, ¬CtrFailed e) (hraised : AutoRaise uid (eventsOf i h) p r) :
    PgAtTop uid s c.state ∧ RedisAtTop uid s c.state := by
  have hmax : max r p = s.topCtr uid :=
    max_read run (fun v hv => (hmoves v hv).1) hraised.pg hraised.redis
  have hpgLasts : ∀ v ∈ h, PgAtTop uid s v.after → PgAtTop uid s c.state := by
    intro v hv
    exact run.lasts (fun u hu => (hmoves u hu).2.keepsPg) hv
  have hredisLasts : ∀ v ∈ h, RedisAtTop uid s v.after → RedisAtTop uid s c.state := by
    intro v hv
    exact run.lasts (fun u hu => (hmoves u hu).2.keepsRedis) hv
  constructor
  · cases hraised.pgWritten with
    | inl hp =>
        obtain ⟨v, hv, hread⟩ := pgRead_move run hraised.pg
        have hbefore : PgAtTop uid s v.before :=
          pgAtTop_of_getD (hmoves v hv).1 (hread.trans (hp.trans hmax))
        exact hpgLasts v hv ((hmoves v hv).2.keepsPg hbefore)
    | inr hwritten =>
        obtain ⟨answer, hevent⟩ := hwritten
        obtain ⟨v, hv, -, he⟩ := mem_eventsOf.mp hevent
        obtain ⟨env, hexec⟩ := run.move hv
        rw [he, hmax] at hexec
        have hnotFailed := hanswered _ hevent
        rw [hmax] at hnotFailed
        apply hpgLasts v hv
        rw [PgAtTop, exec_updated hexec hnotFailed, (hmoves v hv).1.map_top]
  · cases hraised.redisWritten with
    | inl hr =>
        obtain ⟨v, hv, hread⟩ := redisRead_move run hraised.redis
        have hbefore : RedisAtTop uid s v.before := hread.trans (hr.trans hmax)
        exact hredisLasts v hv ((hmoves v hv).2.keepsRedis hbefore)
    | inr hwritten =>
        obtain ⟨answer, hevent⟩ := hwritten
        obtain ⟨v, hv, -, he⟩ := mem_eventsOf.mp hevent
        obtain ⟨env, hexec⟩ := run.move hv
        rw [he, hmax] at hexec
        have hnotFailed := hanswered _ hevent
        rw [hmax] at hnotFailed
        apply hredisLasts v hv
        rw [RedisAtTop, exec_set hexec hnotFailed]
        rfl

/-- The commands that bring the counters of the UID together: the strategy that takes the
larger one, and the automatic mode where the two are near. -/
def CtrAction.Unites (uid : String) (s : Store) (command : CtrAction) : Prop :=
  (∃ value, command = .uid uid .useMax value) ∨
    command = .auto ∧ ∃ p r, s.db.pgCtr uid = some p ∧ s.redis uid = some r ∧ Near r p

/-- A listing has a row for each UID that is stored. -/
theorem listed_of_stored {env : CtrEnv} {t t' : Store} {rows : List (String × Int32)}
    (hexec : ctrCliMachine.exec env (.inl .selectUidsWithCtr) t = (.ok rows, t'))
    (hstored : t.db.pgCtr uid = some p) : ∃ ctr, (uid, ctr) ∈ rows := by
  dsimp only [ctrCliMachine, ctrMachine] at hexec
  split at hexec
  · cases hexec
  · cases hexec
    obtain ⟨ctr, hctr, -⟩ := Option.map_eq_some_iff.mp hstored
    exact ⟨ctr.getD 0, (env.order.perm _).symm.subset (mem_selectUidsWithCtr hctr)⟩

/-- A command that is through has gone by two counters of a run. -/
theorem raised_of_through (run : Interleaves ctrCliMachine (ctrPool commands s) h c)
    (hbefore : ∀ v ∈ h, CtrMoved uid s s v.before) (hreads : ReadsAnswered uid commands h)
    (hanswered : ∀ e ∈ eventsOf i h, ¬CtrFailed e) (hunites : (commands i).Unites uid s)
    (hthrough : (commands i).Through uid (eventsOf i h)) :
    ∃ p r, AutoRaise uid (eventsOf i h) p r := by
  obtain ⟨value, hvalue⟩ | ⟨hauto, p, r, hp, hr, hnear⟩ := hunites
  · rw [hvalue] at hthrough
    exact (hthrough ⟨rfl, rfl⟩).resolve_left (hreads i value hvalue)
  · rw [hauto] at hthrough
    obtain ⟨e, he⟩ | ⟨rows, hrows, hall⟩ := hthrough
    · exact absurd rfl (hanswered _ he)
    · obtain ⟨v, hv, -, hevent⟩ := mem_eventsOf.mp hrows
      obtain ⟨env, hexec⟩ := run.move hv
      rw [hevent] at hexec
      have hstored : ∃ p', v.before.db.pgCtr uid = some p' := by
        cases (hbefore v hv).pg with
        | inl hsame => exact ⟨p, hsame.trans hp⟩
        | inr htop => exact ⟨s.topCtr uid, by rw [htop, hp]; rfl⟩
      obtain ⟨p', hp'⟩ := hstored
      obtain ⟨ctr, hctr⟩ := listed_of_stored hexec hp'
      obtain ⟨answer, hread, hraised⟩ := hall ctr hctr
      obtain ⟨w, hw, -, hevent'⟩ := mem_eventsOf.mp hread
      obtain ⟨env', hexec'⟩ := run.move hw
      rw [hevent'] at hexec'
      have hcached : ∃ r', answer = .ok (some r') := by
        cases answer with
        | error e => exact absurd rfl (hanswered _ hread)
        | ok ctr' =>
            have hctr' := exec_ctrGet hexec'
            cases (hbefore w hw).redis with
            | inl hsame => exact ⟨r, by rw [← hctr', hsame, hr]⟩
            | inr htop => exact ⟨_, by rw [← hctr', htop]⟩
      obtain ⟨r', rfl⟩ := hcached
      have hpg : ctr.toUInt32 = p ∨ ctr.toUInt32 = max r p := by
        have hget := (hbefore v hv).pg_getD
        rw [exec_listed hexec hctr, hp, Store.topCtr, hp, hr] at hget
        exact hget
      have hredis : r' = r ∨ r' = max r p := by
        have hget := (hbefore w hw).redis_getD
        rw [exec_ctrGet hexec', hr, Store.topCtr, hp, hr] at hget
        exact hget
      exact ⟨ctr.toUInt32, r', hraised r' rfl (near_of_between hredis hpg hnear)⟩

end Runs

/-- Commands that take the larger counter, in any order of their calls and however often they
are interrupted, leave each counter of a UID at its start or at the larger of the two, and
none of their calls lowers one. -/
theorem commands_never_lower {ι : Type} [DecidableEq ι] (commands : ι → CtrAction) (s : Store)
    (uid : String) (h : List (Move ctrCliApi Store ι)) (c : Pool ctrCliApi Store ι Unit)
    (run : Interleaves ctrCliMachine (ctrPool commands s) h c)
    (hkind : ∀ i, (commands i).Raises uid) (hreads : ReadsAnswered uid commands h) :
    CtrMoved uid s s c.state ∧ ∀ v ∈ h, NotLowered uid v.before v.after := by
  obtain ⟨hstate, hmoves⟩ := run_between run hkind hreads
  refine ⟨hstate, ?_⟩
  intro v hv
  exact (hmoves v hv).1.notLowered (hmoves v hv).2

/-- Once a command that brings the counters together is through, and was answered throughout,
both are the larger one of the start, whatever ran beside it. -/
theorem commands_unite {ι : Type} [DecidableEq ι] (commands : ι → CtrAction) (s : Store)
    (uid : String) (h : List (Move ctrCliApi Store ι)) (c : Pool ctrCliApi Store ι Unit)
    (run : Interleaves ctrCliMachine (ctrPool commands s) h c)
    (hkind : ∀ i, (commands i).Raises uid) (hreads : ReadsAnswered uid commands h) (i : ι)
    (hunites : (commands i).Unites uid s) (hdone : c.threads i = .done ())
    (hanswered : ∀ e ∈ eventsOf i h, ¬CtrFailed e) :
    PgAtTop uid s c.state ∧ RedisAtTop uid s c.state := by
  obtain ⟨-, hmoves⟩ := run_between run hkind hreads
  have hthrough := run.answers (fun i => meets_run (hkind i)) hdone
  obtain ⟨p, r, hraised⟩ :=
    raised_of_through run (fun v hv => (hmoves v hv).1) hreads hanswered hunites hthrough
  exact raised_lasts run hmoves hanswered hraised

section Sample

instance : (e : Event ctrCliApi) → Decidable (CtrFailed e)
  | ⟨.inl op, answer⟩ => inferInstanceAs (Decidable (op.failed answer = true))
  | ⟨.inr (.selectLastVerifiedCtr _), answer⟩ => inferInstanceAs (Decidable (answer.isOk = false))

theorem readsAnswered_of_answered {ι : Type} [DecidableEq ι] {uid : String}
    {commands : ι → CtrAction}
    {h : List (Move ctrCliApi Store ι)} (hall : ∀ v ∈ h, ¬CtrFailed v.event) :
    ReadsAnswered uid commands h := by
  intro i value _ hlost
  obtain ⟨e, he | he⟩ := hlost
  · obtain ⟨v, hv, -, hevent⟩ := mem_eventsOf.mp he
    exact hall v hv (hevent ▸ rfl)
  · obtain ⟨v, hv, -, hevent⟩ := mem_eventsOf.mp he
    exact hall v hv (hevent ▸ rfl)

/-- A tag that Redis has seen nine scans of and PostgreSQL five. -/
def behindStore : Store where
  db :=
    { brands := ["brand"]
      assets :=
        .single
          { assetId := "a", brandId := "brand", currentState := .activated, uid := some "t",
            lastVerifiedCtr := some 5 } }
  redis := fun _ => some 9

/-- The automatic mode beside a single calibration of the tag. -/
def bothCommands : Bool → CtrAction
  | true => .auto
  | false => .uid "t" .useMax none

/-- The single calibration reads first and writes last. -/
def calibrationTurns : List (Bool × ctrCliMachine.Env) :=
  [false, false, true, true, true, false].map fun i => (i, { order := ⟨id, fun _ => .refl _⟩ })

def calibrationRun : List (Move ctrCliApi Store Bool) × Pool ctrCliApi Store Bool Unit :=
  (ctrPool bothCommands behindStore).schedule ctrCliMachine calibrationTurns

theorem commands_never_lower_sample :
    CtrMoved "t" behindStore behindStore calibrationRun.2.state ∧
      ∀ v ∈ calibrationRun.1, NotLowered "t" v.before v.after :=
  commands_never_lower bothCommands behindStore "t" _ _ (schedule_interleaves _ _)
    (by decide) (readsAnswered_of_answered (by decide +kernel))

theorem commands_unite_sample :
    PgAtTop "t" behindStore calibrationRun.2.state ∧ RedisAtTop "t" behindStore calibrationRun.2.state :=
  commands_unite bothCommands behindStore "t" _ _ (schedule_interleaves _ _)
    (by decide) (readsAnswered_of_answered (by decide +kernel)) false
    (.inl ⟨none, rfl⟩) (by rfl) (by decide +kernel)

end Sample

end RcProtocol
