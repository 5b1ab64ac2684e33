import RcProtocol.CounterCache
import RcProtocol.Library.Endings

/-!
What becomes of the counter of a tag when a scan of it is not accepted. The counter is
written after the check against the first level that has one, and before the summary of
the second version is read.
-/

namespace RcProtocol
open Library

/-- The counters a verification may be given for a tag. -/
inductive MayRead (app : AppState) (s : Store) (uid : String) : UInt32 → Prop
  | l1 {ctr : UInt32} (h : s.l1 app.process uid = some ctr) : MayRead app s uid ctr
  | redis {ctr : UInt32} (havailable : app.redisAvailable = true) (h : s.redis uid = some ctr) :
      MayRead app s uid ctr
  | stored : MayRead app s uid (s.db.counterOf uid)

/-- The counter of an asset as it is read, zero before the first scan. -/
def Db.counterValue (db : Db) (assetId : String) : Option Int32 :=
  (db.storedCtr assetId).map (·.getD 0)

/-- No level has come by a counter of its own. -/
structure NotAdvanced (app : AppState) (s s' : Store) : Prop where
  stored : ∀ id, s'.db.counterValue id = s.db.counterValue id
  l1 : ∀ uid ctr, s'.l1 app.process uid = some ctr → MayRead app s uid ctr
  redis : ∀ uid ctr, s'.redis uid = some ctr → s.redis uid = some ctr ∨ MayRead app s uid ctr

section Request
variable (app : AppState) (uidHex : String) (parsed : SunMessage) (v2 : Bool)

/-- However the request ends: an accepted scan moved the counter of its own asset only,
and forward; after any other one nothing is advanced, and the same scan is answered as it
could have been at first. -/
structure CounterKept (s : Store) : Prop where
  accepted : ∀ now reply s', machine.Ends (handleFullVerify app uidHex parsed v2 now) s reply s' →
    reply.accepted = true → ∃ row, s.db.selectAssetByUid uidHex = some row ∧
      checkTag app row.brandId row.epoch parsed = .ok true ∧
      ∀ id, s'.db.counterValue id ≠ s.db.counterValue id →
        id = row.assetId ∧ s.db.counterOf uidHex < parsed.ctrValue
  refused : ∀ now reply s', machine.Ends (handleFullVerify app uidHex parsed v2 now) s reply s' →
    reply.accepted = false → NotAdvanced app s s'
  repeated : ∀ now reply s' now' reply' s'',
    machine.Ends (handleFullVerify app uidHex parsed v2 now) s reply s' → reply.accepted = false →
      machine.Ends (handleFullVerify app uidHex parsed v2 now') s' reply' s'' →
        ∃ t, machine.Ends (handleFullVerify app uidHex parsed v2 now') s reply' t

end Request

section Answers
variable {α : Type} {s s' : Store}

theorem exists_query {q : Db → α} {r : Except String α} :
    (∃ env, query env s q = (r, s')) ↔ s' = s ∧ (r = .ok (q s.db) ∨ ∃ e, r = .error e) := by
  constructor
  · rintro ⟨env, h⟩
    have hstate := query_changes h
    refine ⟨hstate, ?_⟩
    cases r with
    | error e => exact .inr ⟨e, rfl⟩
    | ok a => exact .inl (congrArg Except.ok (query_ok (congrArg Prod.fst h)).symm)
  · rintro ⟨rfl, rfl | ⟨e, rfl⟩⟩
    · exact ⟨{}, rfl⟩
    · exact ⟨{ fails := some e }, rfl⟩

theorem exists_update {c : Db → Db} {r : Except String Unit} :
    (∃ env, update env s c = (r, s')) ↔
      r = .ok () ∧ s' = { s with db := c s.db } ∨ ∃ e, r = .error e ∧ s' = s := by
  constructor
  · rintro ⟨env, h⟩
    cases hfails : env.fails with
    | some e =>
        simp only [update, command, hfails, Prod.mk.injEq] at h
        exact .inr ⟨e, h.1.symm, h.2.symm⟩
    | none =>
        simp only [update, command, hfails, Prod.mk.injEq] at h
        exact .inl ⟨h.1.symm, h.2.symm⟩
  · rintro (⟨rfl, rfl⟩ | ⟨e, rfl, rfl⟩)
    · exact ⟨{}, rfl⟩
    · exact ⟨{ fails := some e }, rfl⟩

end Answers

/-- Assets and attestations are left, and only such counters have come into the caches. -/
structure Touches (app : AppState) (uid : String) (P : UInt32 → Prop) (s s' : Store) : Prop where
  assets : s'.db.assets = s.db.assets
  attestations : s'.db.attestations = s.db.attestations
  l1 : ∀ uid' ctr, s'.l1 app.process uid' = some ctr →
    s.l1 app.process uid' = some ctr ∨ uid' = uid ∧ P ctr
  redis : ∀ uid' ctr, s'.redis uid' = some ctr → s.redis uid' = some ctr ∨ uid' = uid ∧ P ctr

namespace Touches
variable {app : AppState} {uid : String} {P Q : UInt32 → Prop} {s s' s'' : Store}

theorem refl (app : AppState) (uid : String) (P : UInt32 → Prop) (s : Store) :
    Touches app uid P s s :=
  ⟨rfl, rfl, fun _ _ => .inl, fun _ _ => .inl⟩

theorem mono (h : Touches app uid P s s') (hP : ∀ ctr, P ctr → Q ctr) : Touches app uid Q s s' where
  assets := h.assets
  attestations := h.attestations
  l1 uid' ctr hctr := (h.l1 uid' ctr hctr).imp_right fun h => ⟨h.1, hP ctr h.2⟩
  redis uid' ctr hctr := (h.redis uid' ctr hctr).imp_right fun h => ⟨h.1, hP ctr h.2⟩

theorem trans (h : Touches app uid P s s') (h' : Touches app uid P s' s'') :
    Touches app uid P s s'' where
  assets := h'.assets.trans h.assets
  attestations := h'.attestations.trans h.attestations
  l1 uid' ctr hctr := (h'.l1 uid' ctr hctr).elim (h.l1 uid' ctr) .inr
  redis uid' ctr hctr := (h'.redis uid' ctr hctr).elim (h.redis uid' ctr) .inr

theorem selectAssetByUid (h : Touches app uid P s s') (uid' : String) :
    s'.db.selectAssetByUid uid' = s.db.selectAssetByUid uid' := by
  simp only [Db.selectAssetByUid, Db.assetByUid, h.assets]

theorem counterOf (h : Touches app uid P s s') (uid' : String) :
    s'.db.counterOf uid' = s.db.counterOf uid' := by
  simp only [Db.counterOf, Db.selectLastVerifiedCtr, Db.assetByUid, h.assets]

theorem counterValue (h : Touches app uid P s s') (id : String) :
    s'.db.counterValue id = s.db.counterValue id := by
  simp only [Db.counterValue, Db.storedCtr, Db.asset, h.assets]

theorem setL1 {ctr : UInt32} (hctr : P ctr) :
    Touches app uid P s (s.setL1 app.process uid (some ctr)) where
  assets := rfl
  attestations := rfl
  l1 uid' c hc := by
    rw [l1_setL1] at hc
    split at hc
    · next huid => exact .inr ⟨huid, Option.some.inj hc ▸ hctr⟩
    · exact .inl hc
  redis _ _ := .inl

theorem setRedis {ctr : UInt32}
    (hctr : P ctr) : Touches app uid P s (s.setRedis uid (some ctr)) where
  assets := rfl
  attestations := rfl
  l1 _ _ := .inl
  redis uid' c hc := by
    by_cases huid : uid' = uid
    · subst huid
      simp only [Store.setRedis, Function.update_self] at hc
      exact .inr ⟨rfl, Option.some.inj hc ▸ hctr⟩
    · simp only [Store.setRedis, Function.update_of_ne huid] at hc
      exact .inl hc

theorem clearL1 : Touches app uid P s (s.setL1 app.process uid none) where
  assets := rfl
  attestations := rfl
  l1 uid' c hc := by
    rw [l1_setL1] at hc
    split at hc
    · cases hc
    · exact .inl hc
  redis _ _ := .inl

theorem clearRedis : Touches app uid P s (s.setRedis uid none) where
  assets := rfl
  attestations := rfl
  l1 _ _ := .inl
  redis uid' c hc := by
    by_cases huid : uid' = uid
    · subst huid
      simp [Store.setRedis] at hc
    · simp only [Store.setRedis, Function.update_of_ne huid] at hc
      exact .inl hc

end Touches

section Cache
variable {app : AppState} {uid : String} {ctr : UInt32} {P : UInt32 → Prop} {s s' : Store}

theorem ends_l1Get {r : Option UInt32} :
    machine.Ends (ask (.l1Get app.process uid)) s r s' ↔
      r = s.l1 app.process uid ∧ s' = s ∨ r = none ∧ s' = s.setL1 app.process uid none := by
  have hexec : ∀ e, exec e (.l1Get app.process uid) s =
      if e.expired then (none, s.setL1 app.process uid none) else (s.l1 app.process uid, s) :=
    fun _ => rfl
  rw [Machine.ends_perform]
  constructor
  · rintro ⟨e, h⟩
    have h := (hexec e).symm.trans h
    split at h
    · cases h
      exact .inr ⟨rfl, rfl⟩
    · cases h
      exact .inl ⟨rfl, rfl⟩
  · rintro (⟨rfl, rfl⟩ | ⟨rfl, rfl⟩)
    · exact ⟨{}, rfl⟩
    · exact ⟨{ expired := true }, rfl⟩

theorem ends_redisGet {r : Except String (Option UInt32)} :
    machine.Ends (ask (.redisGet uid)) s r s' ↔
      r = .ok (s.redis uid) ∧ s' = s ∨ r = .ok none ∧ s' = s.setRedis uid none ∨
        ∃ e, r = .error e ∧ s' = s := by
  rw [Machine.ends_perform]
  constructor
  · rintro ⟨e, h⟩
    dsimp only [machine, exec] at h
    split at h
    · cases h
      exact .inr (.inr ⟨_, rfl, rfl⟩)
    · split at h
      · cases h
        exact .inr (.inl ⟨rfl, rfl⟩)
      · cases h
        exact .inl ⟨rfl, rfl⟩
  · rintro (⟨rfl, rfl⟩ | ⟨rfl, rfl⟩ | ⟨e, rfl, rfl⟩)
    · exact ⟨{}, rfl⟩
    · exact ⟨{ expired := true }, rfl⟩
    · exact ⟨{ fails := some e }, rfl⟩

theorem ends_l1Insert {u : Unit} :
    machine.Ends (ask (.l1Insert app.process uid ctr)) s u s' ↔
      s' = s.setL1 app.process uid (some ctr) := by
  rw [Machine.ends_perform]
  constructor
  · rintro ⟨e, h⟩
    exact (congrArg Prod.snd h).symm
  · rintro rfl
    exact ⟨{}, rfl⟩

theorem touches_l1Get {r : Option UInt32}
    (h : machine.Ends (ask (.l1Get app.process uid)) s r s') :
    Touches app uid P s s' ∧ ∀ ctr, r = some ctr → s.l1 app.process uid = some ctr := by
  obtain ⟨rfl, rfl⟩ | ⟨rfl, rfl⟩ := ends_l1Get.mp h
  · exact ⟨.refl .., fun _ h => h⟩
  · exact ⟨.clearL1, fun _ => nofun⟩

theorem touches_redisGet {r : Except String (Option UInt32)}
    (h : machine.Ends (ask (.redisGet uid)) s r s') :
    Touches app uid P s s' ∧ ∀ ctr, r = .ok (some ctr) → s.redis uid = some ctr := by
  obtain ⟨rfl, rfl⟩ | ⟨rfl, rfl⟩ | ⟨e, rfl, rfl⟩ := ends_redisGet.mp h
  · exact ⟨.refl .., fun _ h => Except.ok.inj h⟩
  · exact ⟨.clearRedis, by simp⟩
  · exact ⟨.refl .., by simp⟩

theorem touches_l1Insert {u : Unit} (hctr : P ctr)
    (h : machine.Ends (ask (.l1Insert app.process uid ctr)) s u s') : Touches app uid P s s' := by
  rw [ends_l1Insert.mp h]
  exact .setL1 hctr

theorem touches_backfillL2 {u : Unit} (hctr : P ctr)
    (h : machine.Ends (backfillL2 app uid ctr) s u s') : Touches app uid P s s' := by
  rw [backfillL2] at h
  split at h
  · obtain ⟨r, h, -⟩ := Machine.ends_map.mp h
    obtain ⟨e, h⟩ := Machine.ends_perform.mp h
    dsimp only [machine, exec] at h
    split at h
    · cases h
      exact .refl ..
    · cases h
      exact .setRedis hctr
  · obtain ⟨-, rfl⟩ := h
    exact .refl ..

theorem ends_backfillL2 (app : AppState) (uid : String) (ctr : UInt32) (s : Store) :
    ∃ t, machine.Ends (backfillL2 app uid ctr) s () t ∧ t.db = s.db := by
  have hrun := machine.ends_run (backfillL2 app uid ctr) (fun _ => {}) s
  refine ⟨_, hrun, ?_⟩
  rw [backfillL2]
  split <;> rfl

theorem ends_selectLastVerifiedCtr {r : Except String (Option (Option Int32))} :
    machine.Ends (ask (.selectLastVerifiedCtr uid)) s r s' ↔
      s' = s ∧ (r = .ok (s.db.selectLastVerifiedCtr uid) ∨ ∃ e, r = .error e) :=
  Machine.ends_perform.trans (exists_query (q := (·.selectLastVerifiedCtr uid)))

theorem touches_getCtrL3 {r : Except RcError UInt32} (h : machine.Ends (getCtrL3 app uid) s r s') :
    Touches app uid (· = s.db.counterOf uid) s s' ∧ ∀ ctr, r = .ok ctr → ctr = s.db.counterOf uid := by
  rw [getCtrL3] at h
  obtain ⟨e, hread, rfl⟩ | ⟨stored, s₁, hread, h⟩ := Machine.ends_attempt.mp h
  · obtain ⟨answer, hread, -⟩ := Machine.ends_map.mp hread
    obtain ⟨rfl, -⟩ := ends_selectLastVerifiedCtr.mp hread
    exact ⟨.refl .., by simp⟩
  · obtain ⟨answer, hread, hanswer⟩ := Machine.ends_map.mp hread
    obtain ⟨rfl, rfl | ⟨e, rfl⟩⟩ := ends_selectLastVerifiedCtr.mp hread
    · obtain rfl := Except.ok.inj hanswer
      obtain ⟨_, s₂, hl1, h⟩ := Machine.ends_bind.mp h
      obtain ⟨_, hl2, rfl⟩ := Machine.ends_map.mp h
      have hfill : Touches app uid (· = s₁.db.counterOf uid) s₁ s₂ := touches_l1Insert rfl hl1
      refine ⟨hfill.trans (touches_backfillL2 rfl hl2), fun ctr hctr => ?_⟩
      exact (Except.ok.inj hctr).symm
    · cases hanswer

/-- A read fills the caches from the levels below, and returns what one of them has. -/
theorem touches_getCtr {r : Except RcError UInt32} (h : machine.Ends (getCtr app uid) s r s') :
    Touches app uid (MayRead app s uid) s s' ∧ ∀ ctr, r = .ok ctr → MayRead app s uid ctr := by
  have hl3 : ∀ {s₁}, Touches app uid (MayRead app s uid) s s₁ →
      machine.Ends (getCtrL3 app uid) s₁ r s' →
        Touches app uid (MayRead app s uid) s s' ∧ ∀ ctr, r = .ok ctr → MayRead app s uid ctr := by
    intro s₁ hs₁ h
    obtain ⟨htouches, hread⟩ := touches_getCtrL3 h
    have hstored : ∀ ctr, ctr = s₁.db.counterOf uid → MayRead app s uid ctr := by
      rintro ctr rfl
      rw [hs₁.counterOf]
      exact .stored
    exact ⟨hs₁.trans (htouches.mono hstored), fun ctr hctr => hstored ctr (hread ctr hctr)⟩
  obtain ⟨cached, s₁, hl1, h⟩ := Machine.ends_bind.mp h
  obtain ⟨hs₁, hcached⟩ := touches_l1Get (P := MayRead app s uid) hl1
  cases cached with
  | some c =>
      obtain ⟨rfl, rfl⟩ := h
      refine ⟨hs₁, fun ctr hctr => ?_⟩
      cases hctr
      exact .l1 (hcached c rfl)
  | none =>
      dsimp only at h
      split at h
      · next havailable =>
        obtain ⟨answer, s₂, hl2, h⟩ := Machine.ends_bind.mp h
        obtain ⟨hs₂, hanswer⟩ :
            Touches app uid (MayRead app s uid) s₁ s₂ ∧ _ := touches_redisGet hl2
        have hs₂ := hs₁.trans hs₂
        split at h
        · next c =>
          obtain ⟨_, hfill, rfl⟩ := Machine.ends_map.mp h
          have hc : MayRead app s uid c :=
            (hs₁.redis uid c (hanswer c rfl)).elim (.redis havailable) (·.2)
          refine ⟨hs₂.trans (touches_l1Insert hc hfill), fun ctr hctr => ?_⟩
          cases hctr
          exact hc
        · exact hl3 hs₂ h
      · exact hl3 hs₁ h

theorem touches_updateCtr {u : Unit} (h : machine.Ends (updateCtr app uid ctr) s u s') :
    Touches app uid (· = ctr) s s' := by
  rw [updateCtr] at h
  obtain ⟨_, s₁, hl1, hl2⟩ := Machine.ends_bind.mp h
  have hfill : Touches app uid (· = ctr) s s₁ := touches_l1Insert rfl hl1
  exact hfill.trans (touches_backfillL2 rfl hl2)

theorem ends_updateCtr (app : AppState) (uid : String) (ctr : UInt32) (s : Store) :
    ∃ t, machine.Ends (updateCtr app uid ctr) s () t ∧ t.db = s.db := by
  obtain ⟨t, ht, hdb⟩ := ends_backfillL2 app uid ctr (s.setL1 app.process uid (some ctr))
  exact ⟨t, Machine.ends_bind.mpr ⟨(), _, ends_l1Insert.mpr rfl, ht⟩, hdb⟩

/-- A read may go down to PostgreSQL, whatever the caches have. -/
theorem ends_getCtr_of_L3 (app : AppState) (uid : String) (s : Store) :
    ∃ s₁, s₁.db = s.db ∧ ∀ r t, machine.Ends (getCtrL3 app uid) s₁ r t →
      machine.Ends (getCtr app uid) s r t := by
  have hl1 : machine.Ends (ask (.l1Get app.process uid)) s none (s.setL1 app.process uid none) :=
    ends_l1Get.mpr (.inr ⟨rfl, rfl⟩)
  cases havailable : app.redisAvailable with
  | false =>
      refine ⟨_, Store.setL1_db s app.process uid none, fun r t h => ?_⟩
      refine Machine.ends_bind.mpr ⟨none, _, hl1, ?_⟩
      dsimp only
      rw [if_neg (by simp [havailable])]
      exact h
  | true =>
      have hl2 : machine.Ends (ask (.redisGet uid)) (s.setL1 app.process uid none) (.error "")
          (s.setL1 app.process uid none) := ends_redisGet.mpr (.inr (.inr ⟨"", rfl, rfl⟩))
      refine ⟨_, Store.setL1_db s app.process uid none, fun r t h => ?_⟩
      refine Machine.ends_bind.mpr ⟨none, _, hl1, ?_⟩
      dsimp only
      rw [if_pos havailable]
      exact Machine.ends_bind.mpr ⟨.error "", _, hl2, h⟩

theorem ends_getCtr_error (app : AppState) (uid e : String) (s : Store) :
    ∃ t, machine.Ends (getCtr app uid) s (.error (.database e)) t := by
  obtain ⟨s₁, -, hread⟩ := ends_getCtr_of_L3 app uid s
  refine ⟨s₁, hread _ _ (Machine.ends_attempt.mpr (.inl ⟨.database e, ?_, rfl⟩))⟩
  exact Machine.ends_map.mpr ⟨.error e, ends_selectLastVerifiedCtr.mpr ⟨rfl, .inr ⟨e, rfl⟩⟩, rfl⟩

/-- Each level may be the one that answers. -/
theorem MayRead.ends_getCtr (h : MayRead app s uid ctr) :
    ∃ t, machine.Ends (getCtr app uid) s (.ok ctr) t ∧ t.db = s.db := by
  cases h with
  | l1 h =>
      refine ⟨s, Machine.ends_bind.mpr ⟨some ctr, s, ends_l1Get.mpr (.inl ⟨h.symm, rfl⟩), ?_⟩, rfl⟩
      exact ⟨rfl, rfl⟩
  | redis havailable h =>
      have hl2 : machine.Ends (ask (.redisGet uid)) (s.setL1 app.process uid none) (.ok (some ctr))
          (s.setL1 app.process uid none) :=
            ends_redisGet.mpr (.inl ⟨congrArg Except.ok h.symm, rfl⟩)
      refine ⟨(s.setL1 app.process uid none).setL1 app.process uid (some ctr), ?_, rfl⟩
      refine Machine.ends_bind.mpr ⟨none, _, ends_l1Get.mpr (.inr ⟨rfl, rfl⟩), ?_⟩
      dsimp only
      rw [if_pos havailable]
      refine Machine.ends_bind.mpr ⟨.ok (some ctr), _, hl2, ?_⟩
      exact Machine.ends_map.mpr ⟨(), ends_l1Insert.mpr rfl, rfl⟩
  | stored =>
      obtain ⟨s₁, hdb, hread⟩ := ends_getCtr_of_L3 app uid s
      obtain ⟨t, ht, htdb⟩ := ends_backfillL2 app uid (s.db.counterOf uid)
        (s₁.setL1 app.process uid (some (s.db.counterOf uid)))
      refine ⟨t, hread _ _ (Machine.ends_attempt.mpr (.inr ⟨s.db.selectLastVerifiedCtr uid, s₁, ?_, ?_⟩)),
        htdb.trans hdb⟩
      · refine Machine.ends_map.mpr ⟨.ok (s.db.selectLastVerifiedCtr uid), ?_, rfl⟩
        exact ends_selectLastVerifiedCtr.mpr ⟨rfl, .inl (by rw [hdb])⟩
      · refine Machine.ends_bind.mpr ⟨(), _, ends_l1Insert.mpr rfl, ?_⟩
        exact Machine.ends_map.mpr ⟨(), ht, rfl⟩

end Cache

section Handler
variable {app : AppState} {uid uidHex now : String} {asset row : AssetVerifyRow} {newCtr : UInt32}
  {previousCtr : Option UInt32} {replay v2 : Bool} {parsed : SunMessage} {reply : Reply}
  {P : UInt32 → Prop} {s s' t : Store}

theorem exec_summaryOp {op : Op} (hop : SummaryOp op) (e : machine.Env) (s : Store) :
    (machine.exec e op s).2 = s := by
  cases hop with
  | commitment => exact query_state _
  | brand => exact query_state _
  | platform => exact query_state _

theorem touches_event {e : Env} {assetId : Option String} {row : String → VerificationEventRow} :
    Touches app uid P s (exec e (.insertVerificationEvent assetId row) s).2 := by
  have hattestations := (machine_changes e (.insertVerificationEvent assetId row) s).attestations
    (.inl .event)
  cases hexec : command e s fun db => db.insertVerificationEvent assetId row with
  | mk r s' =>
      have hstate : (exec e (.insertVerificationEvent assetId row) s).2 = s' :=
        congrArg Prod.snd hexec
      have hattestations : s'.db.attestations = s.db.attestations := hstate ▸ hattestations
      rw [hstate]
      cases r with
      | error err =>
          obtain rfl := command_error hexec
          exact .refl ..
      | ok u =>
          obtain ⟨db, hinsert, rfl⟩ := command_ok hexec
          exact ⟨insertVerificationEvent_assets hinsert, hattestations, fun _ _ => .inl, fun _ _ => .inl⟩

theorem touches_insertVerificationEvent {assetId : Option String} {ctr : Int32} {status : String}
    {riskFlags : List String} {cmacValid : Bool} {u : Unit}
    (h : machine.Ends (insertVerificationEvent uidHex assetId ctr status riskFlags cmacValid) s u s') :
    Touches app uid P s s' := by
  obtain ⟨_, h, -⟩ := Machine.ends_map.mp h
  obtain ⟨e, h⟩ := Machine.ends_perform.mp h
  obtain rfl : _ = s' := congrArg Prod.snd h
  exact touches_event

theorem touches_answerScan (h : machine.Ends (answerScan app uidHex asset newCtr previousCtr replay v2 now)
    s reply s') : Touches app uid P s s' := by
  have haside : Meets (fun _ => AsideOp) (fun _ _ => True) []
      (answerScan app uidHex asset newCtr previousCtr replay v2 now) := aside_answerScan
  apply h.invariant (I := Touches app uid P s) haside
  · intro op hop e t ht
    obtain ⟨hop, hcache⟩ := hop
    cases hop with
    | l1Get | l1Insert | redisGet | redisSetEx => cases hcache
    | asset | ctr | commitment | brand | platform =>
        have hstate : ∀ {α : Type} (q : Db → α), (query e t q).2 = t := query_state
        exact (hstate _).symm ▸ ht
    | event => exact ht.trans touches_event
  · exact .refl ..

theorem replay_not_flagged (state : AssetState) : "replay_suspected" ∉ (evaluateStatus state).2 := by
  cases state <;> decide

theorem contains_replay (state : AssetState) :
    ((if replay then ["replay_suspected"] else []) ++ (evaluateStatus state).2).contains
      "replay_suspected" = replay := by
  have hstate : (evaluateStatus state).2.contains "replay_suspected" = false := by
    simpa using replay_not_flagged state
  cases replay with
  | false => simpa using hstate
  | true => rfl

/-- The first version always answers with a verdict, the second one if it has a summary. -/
theorem accepted_answerScan
    (h : machine.Ends (answerScan app uidHex asset newCtr previousCtr replay v2 now) s reply s') :
    reply.accepted = !replay ∨ v2 = true ∧ reply = serverError true := by
  cases v2 with
  | false =>
      obtain ⟨_, -, rfl⟩ := Machine.ends_map.mp h
      left
      simp only [Reply.accepted, Reply.ok, Body.accepts, contains_replay]
      rfl
  | true =>
      obtain ⟨e, -, rfl⟩ | ⟨summary, s₁, -, h⟩ := Machine.ends_attempt.mp h
      · exact .inr ⟨rfl, rfl⟩
      · obtain ⟨_, -, rfl⟩ := Machine.ends_map.mp h
        left
        simp only [Reply.accepted, Reply.ok, Body.accepts, contains_replay]
        rfl

theorem ends_fetchAssetByUid {r : Except RcError AssetVerifyRow} :
    machine.Ends (fetchAssetByUid uid) s r s' ↔
      s' = s ∧ (r = found .assetNotFound (.ok (s.db.selectAssetByUid uid)) ∨
        ∃ e, r = .error (.database e)) := by
  have hquery : ∀ {r : Except String (Option AssetVerifyRow)},
      machine.Ends (ask (.selectAssetByUid uid)) s r s' ↔
        s' = s ∧ (r = .ok (s.db.selectAssetByUid uid) ∨ ∃ e, r = .error e) :=
    Machine.ends_perform.trans (exists_query (q := (·.selectAssetByUid uid)))
  rw [fetchAssetByUid, Machine.ends_map]
  constructor
  · rintro ⟨a, h, rfl⟩
    obtain ⟨rfl, rfl | ⟨e, rfl⟩⟩ := hquery.mp h
    · exact ⟨rfl, .inl rfl⟩
    · exact ⟨rfl, .inr ⟨e, rfl⟩⟩
  · rintro ⟨rfl, rfl | ⟨e, rfl⟩⟩
    · exact ⟨_, hquery.mpr ⟨rfl, .inl rfl⟩, rfl⟩
    · exact ⟨.error e, hquery.mpr ⟨rfl, .inr ⟨e, rfl⟩⟩, rfl⟩

theorem ends_updateAssetCtr {ctr : Int32} {assetId : String} {r : Except String Unit} :
    machine.Ends (ask (.updateAssetCtr assetId ctr)) s r s' ↔
      r = .ok () ∧ s' = { s with db := s.db.updateAssetCtr assetId ctr } ∨ ∃ e, r = .error e ∧ s' = s :=
  Machine.ends_perform.trans (exists_update (c := (·.updateAssetCtr assetId ctr)))

theorem serverError_accepted (v2 : Bool) : (serverError v2).accepted = false := by
  cases v2 <;> rfl

/-- How a scan may end: not accepted and at most read, or with its counter written. -/
inductive ScanEnd (app : AppState) (uidHex : String) (parsed : SunMessage) (v2 : Bool) (s : Store) :
    Reply → Store → Prop
  | read {reply : Reply} {s' : Store} (hreply : reply.accepted = false)
      (h : Touches app uidHex (MayRead app s uidHex) s s') : ScanEnd app uidHex parsed v2 s reply s'
  | written {reply : Reply} {s₁ s' : Store} {row : AssetVerifyRow} {ctr : UInt32}
      (hrow : s.db.selectAssetByUid uidHex = some row)
      (htag : checkTag app row.brandId row.epoch parsed = .ok true)
      (hread : MayRead app s uidHex ctr) (hfresh : ¬(parsed.ctrValue ≤ ctr ∧ ctr > 0))
      (hs₁ : Touches app uidHex (MayRead app s uidHex) s s₁)
      (h : Touches app uidHex (· = parsed.ctrValue)
        { s₁ with db := s₁.db.updateAssetCtr row.assetId parsed.ctrValue.toInt32 } s')
      (hreply : reply.accepted = true ∨ v2 = true) : ScanEnd app uidHex parsed v2 s reply s'

theorem scanEnd_checkCounter (hrow : s.db.selectAssetByUid uidHex = some row)
    (htag : checkTag app row.brandId row.epoch parsed = .ok true)
    (h : machine.Ends (checkCounter app uidHex row parsed.ctrValue v2 now) s reply s') :
    ScanEnd app uidHex parsed v2 s reply s' := by
  obtain ⟨e, hread, rfl⟩ | ⟨ctr, s₁, hread, h⟩ := Machine.ends_attempt.mp h
  · exact .read (serverError_accepted v2) (touches_getCtr hread).1
  obtain ⟨hs₁, hctr⟩ := touches_getCtr hread
  have hctr := hctr ctr rfl
  dsimp only at h
  split at h
  · have hs' := hs₁.trans (touches_answerScan h)
    obtain hreply | ⟨-, rfl⟩ := accepted_answerScan h
    · exact .read hreply hs'
    · exact .read (serverError_accepted true) hs'
  · next hfresh =>
    obtain ⟨e, hwrite, rfl⟩ | ⟨_, s₂, hwrite, h⟩ := Machine.ends_attempt.mp h
    · obtain ⟨hr, -⟩ | ⟨_, -, rfl⟩ := ends_updateAssetCtr.mp hwrite
      · cases hr
      · exact .read (serverError_accepted v2) hs₁
    · obtain ⟨-, rfl⟩ | ⟨_, hr, -⟩ := ends_updateAssetCtr.mp hwrite
      · obtain ⟨_, s₃, hfill, h⟩ := Machine.ends_bind.mp h
        refine .written hrow htag hctr hfresh hs₁
          ((touches_updateCtr hfill).trans (touches_answerScan h)) ?_
        exact (accepted_answerScan h).imp_right And.left
      · cases hr

theorem scanEnd (h : machine.Ends (handleFullVerify app uidHex parsed v2 now) s reply s') :
    ScanEnd app uidHex parsed v2 s reply s' := by
  obtain ⟨r, s₁, hfetch, h⟩ := Machine.ends_bind.mp h
  obtain ⟨rfl, rfl | ⟨e, rfl⟩⟩ := ends_fetchAssetByUid.mp hfetch
  · cases hrow : s₁.db.selectAssetByUid uidHex with
    | none =>
        rw [hrow] at h
        obtain ⟨_, hevent, rfl⟩ := Machine.ends_map.mp h
        exact .read (by cases v2 <;> rfl) (touches_insertVerificationEvent hevent)
    | some row =>
        rw [hrow] at h
        dsimp only [found] at h
        split at h
        · obtain ⟨rfl, rfl⟩ := h
          exact .read (serverError_accepted v2) (.refl ..)
        · obtain ⟨_, hevent, rfl⟩ := Machine.ends_map.mp h
          exact .read (by cases v2 <;> rfl) (touches_insertVerificationEvent hevent)
        · next htag => exact scanEnd_checkCounter hrow htag h
  · obtain ⟨rfl, rfl⟩ := h
    exact .read (serverError_accepted v2) (.refl ..)

end Handler

/-- What a verification goes by of a row. -/
def AssetVerifyRow.unread (row : AssetVerifyRow) : AssetVerifyRow :=
  { row with lastVerifiedCtr := none }

/-- A scan finds all as it was, but for a counter of zero stored where there was none. -/
structure Unmoved (app : AppState) (uid : String) (s s' : Store) : Prop where
  row : (s'.db.selectAssetByUid uid).map (·.unread) = (s.db.selectAssetByUid uid).map (·.unread)
  attestations : s'.db.attestations = s.db.attestations
  stored : ∀ id, s'.db.counterValue id = s.db.counterValue id
  counterOf : s'.db.counterOf uid = s.db.counterOf uid
  l1 : ∀ uid' ctr, s'.l1 app.process uid' = some ctr →
    s.l1 app.process uid' = some ctr ∨ uid' = uid ∧ MayRead app s uid ctr
  redis : ∀ uid' ctr, s'.redis uid' = some ctr →
    s.redis uid' = some ctr ∨ uid' = uid ∧ MayRead app s uid ctr

/-- The rest of the handler, once the row is read. -/
def verifyRow (app : AppState) (uidHex : String) (row : AssetVerifyRow) (parsed : SunMessage)
    (v2 : Bool) (now : String) : Service Reply :=
  match checkTag app row.brandId row.epoch parsed with
  | .error _ => .done (serverError v2)
  | .ok false =>
      (insertVerificationEvent uidHex (some row.assetId) parsed.ctrValue.toInt32
        "authentication_failed" [] false).map fun _ => authenticationFailed row v2
  | .ok true => checkCounter app uidHex row parsed.ctrValue v2 now

section Repeat
variable {app : AppState} {uid uidHex now : String} {asset row : AssetVerifyRow} {newCtr : UInt32}
  {previousCtr : Option UInt32} {replay v2 : Bool} {parsed : SunMessage} {reply : Reply}
  {s s' s₁ t : Store}

theorem Touches.unmoved (h : Touches app uid (MayRead app s uid) s s') : Unmoved app uid s s' where
  row := by rw [h.selectAssetByUid]
  attestations := h.attestations
  stored := h.counterValue
  counterOf := h.counterOf uid
  l1 := h.l1
  redis := h.redis

theorem Unmoved.notAdvanced (h : Unmoved app uid s s') : NotAdvanced app s s' where
  stored := h.stored
  l1 uid' ctr hctr := by
    obtain hctr | ⟨rfl, hctr⟩ := h.l1 uid' ctr hctr
    · exact .l1 hctr
    · exact hctr
  redis uid' ctr hctr := by
    obtain hctr | ⟨rfl, hctr⟩ := h.redis uid' ctr hctr
    · exact .inl hctr
    · exact .inr hctr

theorem Unmoved.mayRead {ctr : UInt32} (h : Unmoved app uid s s') (hctr : MayRead app s' uid ctr) :
    MayRead app s uid ctr := by
  cases hctr with
  | l1 hctr => exact (h.l1 uid ctr hctr).elim .l1 And.right
  | redis havailable hctr => exact (h.redis uid ctr hctr).elim (.redis havailable) And.right
  | stored =>
      rw [h.counterOf]
      exact .stored

theorem ends_insertVerificationEvent {assetId : Option String} {ctr : Int32} {status : String}
    {riskFlags : List String} {cmacValid : Bool} (s : Store) :
    ∃ t, machine.Ends (insertVerificationEvent uidHex assetId ctr status riskFlags cmacValid) s () t :=
  ⟨_, machine.ends_run _ (fun _ => {}) s⟩

theorem buildSummary_transfer {r : Except RcError Summary}
    (hattestations : t.db.attestations = s.db.attestations)
    (h : machine.Ends (buildSummary app asset) t r s') :
    ∃ t', machine.Ends (buildSummary app asset) s r t' := by
  have hstep : ∀ op, SummaryOp op → ∀ e t s, t.db.attestations = s.db.attestations →
      ∃ e', (machine.exec e' op s).1 = (machine.exec e op t).1 ∧
        (machine.exec e op t).2.db.attestations = (machine.exec e' op s).2.db.attestations := by
    intro op hop e t s hts
    have hcommitments : t.db.commitments = s.db.commitments := congrArg Prod.fst hts
    have hbrand : t.db.brandAttestations = s.db.brandAttestations := congrArg (·.2.1) hts
    have hplatform : t.db.platformAttestations = s.db.platformAttestations := congrArg (·.2.2) hts
    refine ⟨e, ?_, ?_⟩
    · cases hop with
      | commitment =>
          simp only [machine, exec, query, Db.selectCommitmentByUidEpoch, hcommitments]
          split <;> rfl
      | brand =>
          simp only [machine, exec, query, Db.selectBrandAttestation, hbrand]
          split <;> rfl
      | platform =>
          simp only [machine, exec, query, Db.selectPlatformAttestation, hplatform]
          split <;> rfl
    · rw [exec_summaryOp hop, exec_summaryOp hop, hts]
  have hops : Meets (fun _ => SummaryOp) (fun _ _ => True) [] (buildSummary app asset) :=
    summary_buildSummary asset
  obtain ⟨t', h', -⟩ := h.transfer hops hstep hattestations
  exact ⟨t', h'⟩

theorem answerScan_transfer (hattestations : t.db.attestations = s.db.attestations)
    (h : machine.Ends (answerScan app uidHex asset newCtr previousCtr replay v2 now) t reply s') :
    ∃ t', machine.Ends (answerScan app uidHex asset newCtr previousCtr replay v2 now) s reply t' := by
  cases v2 with
  | false =>
      obtain ⟨_, -, rfl⟩ := Machine.ends_map.mp h
      obtain ⟨t', ht'⟩ := ends_insertVerificationEvent s
      exact ⟨t', Machine.ends_map.mpr ⟨(), ht', rfl⟩⟩
  | true =>
      obtain ⟨e, hsummary, rfl⟩ | ⟨summary, s₁, hsummary, h⟩ := Machine.ends_attempt.mp h
      · obtain ⟨t', ht'⟩ := buildSummary_transfer hattestations hsummary
        exact ⟨t', Machine.ends_attempt.mpr (.inl ⟨e, ht', rfl⟩)⟩
      · obtain ⟨_, -, rfl⟩ := Machine.ends_map.mp h
        obtain ⟨t', ht'⟩ := buildSummary_transfer hattestations hsummary
        exact ⟨_, Machine.ends_attempt.mpr (.inr ⟨summary, t', ht',
          Machine.ends_map.mpr ⟨_, machine.ends_run _ (fun _ => {}) t', rfl⟩⟩)⟩

theorem checkCounter_transfer (hst : Unmoved app uidHex s t)
    (h : machine.Ends (checkCounter app uidHex row newCtr v2 now) t reply s') :
    ∃ t', machine.Ends (checkCounter app uidHex row newCtr v2 now) s reply t' := by
  obtain ⟨e, -, rfl⟩ | ⟨ctr, s₁, hread, h⟩ := Machine.ends_attempt.mp h
  · obtain ⟨t', ht'⟩ := ends_getCtr_error app uidHex "" s
    exact ⟨t', Machine.ends_attempt.mpr (.inl ⟨_, ht', rfl⟩)⟩
  obtain ⟨hs₁, hctr⟩ := touches_getCtr hread
  obtain ⟨t₁, ht₁, hdb⟩ := (hst.mayRead (hctr ctr rfl)).ends_getCtr
  have hattestations : s₁.db.attestations = t₁.db.attestations := by
    rw [hs₁.attestations, hst.attestations, hdb]
  dsimp only at h
  split at h
  · next hreplay =>
    obtain ⟨t', ht'⟩ := answerScan_transfer hattestations h
    refine ⟨t', Machine.ends_attempt.mpr (.inr ⟨ctr, t₁, ht₁, ?_⟩)⟩
    dsimp only
    rw [if_pos hreplay]
    exact ht'
  · next hfresh =>
    obtain ⟨e, -, rfl⟩ | ⟨_, s₂, hwrite, h⟩ := Machine.ends_attempt.mp h
    · refine ⟨t₁, Machine.ends_attempt.mpr (.inr ⟨ctr, t₁, ht₁, ?_⟩)⟩
      dsimp only
      rw [if_neg hfresh]
      exact Machine.ends_attempt.mpr (.inl ⟨e, ends_updateAssetCtr.mpr (.inr ⟨e, rfl, rfl⟩), rfl⟩)
    · obtain ⟨-, rfl⟩ | ⟨_, hr, -⟩ := ends_updateAssetCtr.mp hwrite
      · obtain ⟨_, s₃, hfill, h⟩ := Machine.ends_bind.mp h
        obtain ⟨t₃, ht₃, hdb₃⟩ := ends_updateCtr app uidHex newCtr
          { t₁ with db := t₁.db.updateAssetCtr row.assetId newCtr.toInt32 }
        have hattestations : s₃.db.attestations = t₃.db.attestations := by
          rw [(touches_updateCtr hfill).attestations, hdb₃]
          exact hattestations
        obtain ⟨t', ht'⟩ := answerScan_transfer hattestations h
        refine ⟨t', Machine.ends_attempt.mpr (.inr ⟨ctr, t₁, ht₁, ?_⟩)⟩
        dsimp only
        rw [if_neg hfresh]
        refine Machine.ends_attempt.mpr (.inr ⟨(), _, ends_updateAssetCtr.mpr (.inl ⟨rfl, rfl⟩), ?_⟩)
        exact Machine.ends_bind.mpr ⟨(), t₃, ht₃, ht'⟩
      · cases hr

theorem verifyRow_transfer (hst : Unmoved app uidHex s t)
    (h : machine.Ends (verifyRow app uidHex row parsed v2 now) t reply s') :
    ∃ t', machine.Ends (verifyRow app uidHex row parsed v2 now) s reply t' := by
  rw [verifyRow] at h ⊢
  split at h
  · obtain ⟨rfl, rfl⟩ := h
    exact ⟨s, rfl, rfl⟩
  · obtain ⟨_, -, rfl⟩ := Machine.ends_map.mp h
    obtain ⟨t', ht'⟩ := ends_insertVerificationEvent s
    exact ⟨t', Machine.ends_map.mpr ⟨(), ht', rfl⟩⟩
  · exact checkCounter_transfer hst h

/-- The repeated scan is answered as it could have been at first. -/
theorem Unmoved.repeated (hst : Unmoved app uidHex s t)
    (h : machine.Ends (handleFullVerify app uidHex parsed v2 now) t reply s') :
    ∃ t', machine.Ends (handleFullVerify app uidHex parsed v2 now) s reply t' := by
  obtain ⟨r, s₁, hfetch, h⟩ := Machine.ends_bind.mp h
  obtain ⟨rfl, rfl | ⟨e, rfl⟩⟩ := ends_fetchAssetByUid.mp hfetch
  · have hrows := hst.row
    cases hrow' : s₁.db.selectAssetByUid uidHex with
    | none =>
        rw [hrow', Option.map_none] at hrows
        have hrow := Option.map_eq_none_iff.mp hrows.symm
        rw [hrow'] at h
        obtain ⟨_, -, rfl⟩ := Machine.ends_map.mp h
        obtain ⟨t', ht'⟩ := ends_insertVerificationEvent s
        refine ⟨t', Machine.ends_bind.mpr ⟨_, s, ends_fetchAssetByUid.mpr ⟨rfl, .inl rfl⟩, ?_⟩⟩
        rw [hrow]
        exact Machine.ends_map.mpr ⟨(), ht', rfl⟩
    | some row' =>
        rw [hrow', Option.map_some] at hrows
        obtain ⟨row, hrow, hunread⟩ := Option.map_eq_some_iff.mp hrows.symm
        rw [hrow'] at h
        have hfirst : ∀ t', machine.Ends (verifyRow app uidHex row.unread parsed v2 now) s reply t' →
            machine.Ends (handleFullVerify app uidHex parsed v2 now) s reply t' := by
          intro t' ht'
          refine Machine.ends_bind.mpr ⟨_, s, ends_fetchAssetByUid.mpr ⟨rfl, .inl rfl⟩, ?_⟩
          rw [hrow]
          exact ht'
        have h : machine.Ends (verifyRow app uidHex row.unread parsed v2 now) s₁ reply s' := by
          rw [hunread]
          exact h
        obtain ⟨t', ht'⟩ := verifyRow_transfer hst h
        exact ⟨t', hfirst t' ht'⟩
  · obtain ⟨rfl, rfl⟩ := h
    refine ⟨s, Machine.ends_bind.mpr ⟨.error (.database e), s, ?_, rfl, rfl⟩⟩
    exact ends_fetchAssetByUid.mpr ⟨rfl, .inr ⟨e, rfl⟩⟩

end Repeat

section Written
variable {app : AppState} {uidHex now : String} {row : AssetVerifyRow} {parsed : SunMessage}
  {v2 : Bool} {ctr : UInt32} {db : Db} {s s' s₁ : Store}

theorem counterValue_eq (h : db.selectAssetByUid uidHex = some row) :
    db.counterValue row.assetId = some (db.counterOf uidHex).toInt32 := by
  obtain ⟨r, hr, rfl⟩ := Option.map_eq_some_iff.mp h
  have hstored : db.storedCtr r.assetId = some r.lastVerifiedCtr := by
    rw [Db.storedCtr, Db.asset_of_mem (Db.assetByUid_mem hr), Option.map_some]
  rw [Db.counterValue, hstored, Db.counterOf, Db.selectLastVerifiedCtr, hr]
  simp

theorem counterValue_updateAssetCtr (assetId id : String) (c : Int32) :
    (db.updateAssetCtr assetId c).counterValue id =
      if assetId = id then (db.counterValue id).map fun _ => c else db.counterValue id := by
  rw [Db.counterValue, Db.storedCtr, Db.updateAssetCtr, Db.asset_updateAsset_ite]
  split
  · cases hid : db.asset id <;> simp [Db.counterValue, Db.storedCtr, hid]
  · rfl

theorem unread_updateAssetCtr (assetId uid : String) (c : Int32) :
    ((db.updateAssetCtr assetId c).selectAssetByUid uid).map (·.unread) =
      (db.selectAssetByUid uid).map (·.unread) := by
  have hq : ∀ a : AssetRow, decide ({ a with lastVerifiedCtr := some c }.uid = some uid) =
      decide (a.uid = some uid) := fun _ => rfl
  have hfind : (db.updateAssetCtr assetId c).assetByUid uid = (db.assetByUid uid).map fun a =>
      if a.assetId = assetId then { a with lastVerifiedCtr := some c } else a := by
    simpa only [Db.assetByUid, Db.updateAssetCtr, Db.updateAsset, decide_eq_true_eq] using
      Table.find_update (t := db.assets) (p := fun a => a.assetId = assetId) hq
  rw [Db.selectAssetByUid, Db.selectAssetByUid, hfind]
  cases db.assetByUid uid with
  | none => rfl
  | some a =>
      simp only [Option.map_some]
      split <;> rfl

/-- A scan of the stored counter itself leaves all as it was. -/
theorem unmoved_of_same (hrow : s.db.selectAssetByUid uidHex = some row)
    (hsame : parsed.ctrValue = s.db.counterOf uidHex)
    (hs₁ : Touches app uidHex (MayRead app s uidHex) s s₁)
    (h : Touches app uidHex (· = parsed.ctrValue)
      { s₁ with db := s₁.db.updateAssetCtr row.assetId parsed.ctrValue.toInt32 } s') :
    Unmoved app uidHex s s' := by
  have hread : ∀ ctr, ctr = parsed.ctrValue → MayRead app s uidHex ctr := by
    rintro ctr rfl
    rw [hsame]
    exact .stored
  have h := h.mono hread
  have hrow₁ : s₁.db.selectAssetByUid uidHex = some row := (hs₁.selectAssetByUid uidHex).trans hrow
  constructor
  · rw [h.selectAssetByUid, unread_updateAssetCtr, hs₁.selectAssetByUid]
  · exact h.attestations.trans hs₁.attestations
  · intro id
    rw [h.counterValue, counterValue_updateAssetCtr, hs₁.counterValue]
    split
    · next hid =>
      rw [← hid, counterValue_eq hrow, hsame]
      rfl
    · rfl
  · rw [h.counterOf, counterOf_updateAssetCtr hrow₁, if_pos rfl, hsame]
  · intro uid' c hc
    exact (h.l1 uid' c hc).elim (hs₁.l1 uid' c) .inr
  · intro uid' c hc
    exact (h.redis uid' c hc).elim (hs₁.redis uid' c) .inr

/-- Only the counter of the scanned asset is another one. -/
theorem moved_of_written (hrow : s.db.selectAssetByUid uidHex = some row)
    (hs₁ : Touches app uidHex (MayRead app s uidHex) s s₁)
    (h : Touches app uidHex (· = parsed.ctrValue)
      { s₁ with db := s₁.db.updateAssetCtr row.assetId parsed.ctrValue.toInt32 } s') {id : String}
    (hid : s'.db.counterValue id ≠ s.db.counterValue id) :
    id = row.assetId ∧ parsed.ctrValue ≠ s.db.counterOf uidHex := by
  rw [h.counterValue, counterValue_updateAssetCtr, hs₁.counterValue] at hid
  split at hid
  · next hsame =>
    refine ⟨hsame.symm, fun hctr => hid ?_⟩
    rw [← hsame, counterValue_eq hrow, hctr]
    rfl
  · exact absurd rfl hid

/-- A counter that lets the scan through is followed by the write, whatever comes after. -/
theorem ends_fresh (hrow : s.db.selectAssetByUid uidHex = some row)
    (htag : checkTag app row.brandId row.epoch parsed = .ok true) (hctr : MayRead app s uidHex ctr)
    (hfresh : ¬(parsed.ctrValue ≤ ctr ∧ ctr > 0)) (v2 : Bool) (now : String) :
    ∃ t previousCtr, t.db = s.db.updateAssetCtr row.assetId parsed.ctrValue.toInt32 ∧
      ∀ reply s', machine.Ends
          (answerScan app uidHex row parsed.ctrValue previousCtr false v2 now) t reply s' →
        machine.Ends (handleFullVerify app uidHex parsed v2 now) s reply s' := by
  obtain ⟨t₁, ht₁, hdb⟩ := hctr.ends_getCtr
  obtain ⟨t, ht, htdb⟩ := ends_updateCtr app uidHex parsed.ctrValue
    { t₁ with db := t₁.db.updateAssetCtr row.assetId parsed.ctrValue.toInt32 }
  refine ⟨t, if ctr = 0 then none else some ctr, htdb.trans (by rw [hdb]), fun reply s' h => ?_⟩
  refine Machine.ends_bind.mpr ⟨_, s, ends_fetchAssetByUid.mpr ⟨rfl, .inl rfl⟩, ?_⟩
  rw [hrow]
  show machine.Ends (verifyRow app uidHex row parsed v2 now) s reply s'
  rw [verifyRow, htag]
  refine Machine.ends_attempt.mpr (.inr ⟨ctr, t₁, ht₁, ?_⟩)
  dsimp only
  rw [if_neg hfresh]
  refine Machine.ends_attempt.mpr (.inr ⟨(), _, ends_updateAssetCtr.mpr (.inl ⟨rfl, rfl⟩), ?_⟩)
  exact Machine.ends_bind.mpr ⟨(), t, ht, h⟩

theorem ends_buildSummary_error (app : AppState) (asset : AssetVerifyRow) (s : Store) :
    machine.Ends (buildSummary app asset) s (.error (.database "")) s := by
  cases hid : asset.assetCommitmentId with
  | none =>
      have hresolve : machine.Ends (resolveAssetCommitmentId asset) s (.error (.database "")) s := by
        rw [resolveAssetCommitmentId, hid]
        exact ⟨{ fails := some "" }, rfl, rfl⟩
      exact Machine.ends_attempt.mpr (.inl ⟨.database "", hresolve, rfl⟩)
  | some id =>
      have hresolve : machine.Ends (resolveAssetCommitmentId asset) s (.ok (some id)) s := by
        rw [resolveAssetCommitmentId, hid]
        exact ⟨rfl, rfl⟩
      have hbrand : machine.Ends (validateBrandAttestation app asset id) s (.error (.database "")) s :=
        ⟨{ fails := some "" }, rfl, rfl⟩
      refine Machine.ends_attempt.mpr (.inr ⟨some id, s, hresolve, ?_⟩)
      exact Machine.ends_attempt.mpr (.inl ⟨.database "", hbrand, rfl⟩)

end Written

/-- The counters a scan gets past, and is stored over: the first version must not store it
over a later one, the second over any other. -/
def SafeOver (v2 : Bool) (newCtr stored cached : UInt32) : Prop :=
  (newCtr ≤ cached ∧ cached > 0) ∨ if v2 then newCtr = stored else stored ≤ newCtr

/-- However the database, Redis and the caches answer. -/
theorem counter_kept_iff (app : AppState) (uidHex : String) (parsed : SunMessage) (v2 : Bool)
    (s : Store) :
    CounterKept app uidHex parsed v2 s ↔
      ∀ row, s.db.selectAssetByUid uidHex = some row →
        checkTag app row.brandId row.epoch parsed = .ok true →
          ∀ ctr, MayRead app s uidHex ctr →
            SafeOver v2 parsed.ctrValue (s.db.counterOf uidHex) ctr := by
  constructor
  · intro hkept row hrow htag ctr hctr
    by_cases hfresh : parsed.ctrValue ≤ ctr ∧ ctr > 0
    · exact .inl hfresh
    obtain ⟨t, previousCtr, hdb, hends⟩ := ends_fresh hrow htag hctr hfresh v2 ""
    have hstored : s.db.counterValue row.assetId = some (s.db.counterOf uidHex).toInt32 :=
      counterValue_eq hrow
    have hwritten : t.db.counterValue row.assetId = some parsed.ctrValue.toInt32 := by
      rw [hdb, counterValue_updateAssetCtr, if_pos rfl, hstored, Option.map_some]
    right
    cases v2 with
    | false =>
        have hanswer := machine.ends_run
          (answerScan app uidHex row parsed.ctrValue previousCtr false false "") (fun _ => {}) t
        generalize machine.run (answerScan app uidHex row parsed.ctrValue previousCtr false false "")
          (fun _ => {}) t = o at hanswer
        have haccepted : o.answer.accepted = true :=
          (accepted_answerScan hanswer).resolve_right fun h => nomatch h.1
        obtain ⟨_, -, -, hmoved⟩ := hkept.accepted _ _ _ (hends _ _ hanswer) haccepted
        have hstate : Touches app uidHex (fun _ => False) t o.state := touches_answerScan hanswer
        by_cases hsame : o.state.db.counterValue row.assetId = s.db.counterValue row.assetId
        · rw [hstate.counterValue, hwritten, hstored, Option.some.injEq] at hsame
          have hsame : parsed.ctrValue = s.db.counterOf uidHex := congrArg Int32.toUInt32 hsame
          rw [hsame]
          exact UInt32.le_refl _
        · exact UInt32.le_of_lt (hmoved _ hsame).2
    | true =>
        have hanswer : machine.Ends (answerScan app uidHex row parsed.ctrValue previousCtr false true "") t
            (serverError true) t :=
              Machine.ends_attempt.mpr (.inl ⟨_, ends_buildSummary_error app row t, rfl⟩)
        have hkeeps := (hkept.refused _ _ _ (hends _ _ hanswer) rfl).stored row.assetId
        rw [hwritten, hstored, Option.some.injEq] at hkeeps
        exact congrArg Int32.toUInt32 hkeeps
  · intro hsafe
    have hunmoved : ∀ {now reply s'}, machine.Ends (handleFullVerify app uidHex parsed v2 now) s reply s' →
        reply.accepted = false → Unmoved app uidHex s s' := by
      intro now reply s' h hreply
      cases scanEnd h with
      | read _ h => exact h.unmoved
      | written hrow htag hread hfresh hs₁ hs' hverdict =>
          have hover := (hsafe _ hrow htag _ hread).resolve_left hfresh
          obtain hverdict | hv2 := hverdict
          · rw [hverdict] at hreply
            cases hreply
          · rw [if_pos hv2] at hover
            exact unmoved_of_same hrow hover hs₁ hs'
    constructor
    · intro now reply s' h hreply
      cases scanEnd h with
      | read hrefused =>
          rw [hrefused] at hreply
          cases hreply
      | written hrow htag hread hfresh hs₁ hs' =>
          refine ⟨_, hrow, htag, fun id hid => ?_⟩
          obtain ⟨hasset, hne⟩ := moved_of_written hrow hs₁ hs' hid
          refine ⟨hasset, ?_⟩
          have hover := (hsafe _ hrow htag _ hread).resolve_left hfresh
          cases v2 with
          | false => exact UInt32.lt_of_le_of_ne hover hne.symm
          | true => exact absurd hover hne
    · intro now reply s' h hreply
      exact (hunmoved h hreply).notAdvanced
    · intro now reply s' now' reply' s'' h hreply h'
      exact (hunmoved h hreply).repeated h'

section Sample

/-- The database is lost after the counter is stored, and the commitment cannot be read. -/
theorem fresh_scan_is_lost :
    ¬CounterKept (scanApp 0) "04A31B2C3D4E5F" scanMessage true taggedStore := by
  intro hkept
  have hends := machine.ends_run
    (handleFullVerify (scanApp 0) "04A31B2C3D4E5F" scanMessage true "")
    (fun n => { fails := if n = 6 then some "connection closed" else none }) taggedStore
  have hstored := (hkept.refused _ _ _ hends (by decide +kernel)).stored "a"
  revert hstored
  decide +kernel

end Sample

end RcProtocol
