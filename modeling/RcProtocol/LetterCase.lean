import RcProtocol.AttestationVerdicts
import RcProtocol.Library.Observation

/-!
Scans that differ in the letter case of their digits. The bytes of a scan are compared as
bytes; the asset and the counter are looked up by the text of the UID as it was sent.
-/

namespace RcProtocol
open Library

/-- A counter written, or a verification recorded. -/
inductive ScanNote where
  | counter (assetId : String) (ctr : Int32)
  | event (assetId : Option String)
  deriving DecidableEq

def ScanNote.asset : ScanNote → Option String
  | .counter assetId _ => some assetId
  | .event assetId => assetId

def scanNote (e : Event api) : Option ScanNote :=
  match e.op with
  | .updateAssetCtr assetId ctr => some (.counter assetId ctr)
  | .insertVerificationEvent assetId _ => some (.event assetId)
  | _ => none

/-- The verdict of a scan with the counters it updates and the assets its events record. -/
structure ScanResult where
  verdict : Reply
  notes : List ScanNote

def scanResult (p : Service Reply) (s : Store) : ScanResult :=
  let o := machine.run p (fun _ => {}) s
  ⟨o.answer, o.log.filterMap scanNote⟩

theorem scanResult_of_observes {p : Service Reply} {s t : Store} {reply : Reply}
    {notes : List ScanNote} (h : machine.Observes scanNote {} p s reply notes t) :
    scanResult p s = ⟨reply, notes⟩ := by
  rw [scanResult, h.answer, h.seen]

/-- Something is written, and all of it about the one asset. -/
structure Names (asset : Option String) (notes : List ScanNote) : Prop where
  some : notes ≠ []
  all : ∀ note ∈ notes, note.asset = asset

theorem Names.unique {asset asset' : Option String} {notes : List ScanNote} (h : Names asset notes)
    (h' : Names asset' notes) : asset = asset' := by
  obtain ⟨note, hnote⟩ := List.exists_mem_of_ne_nil notes h.some
  exact (h.all note hnote).symm.trans (h'.all note hnote)

section Names
variable {asset : Option String} {note : ScanNote} {notes : List ScanNote}

theorem names_singleton (hnote : note.asset = asset) : Names asset [note] := by
  refine ⟨List.cons_ne_nil _ _, fun note' hmem => ?_⟩
  rw [List.mem_singleton.mp hmem, hnote]

theorem Names.cons (hnote : note.asset = asset)
    (h : Names asset notes) : Names asset (note :: notes) := by
  refine ⟨List.cons_ne_nil _ _, fun note' hmem => ?_⟩
  cases List.mem_cons.mp hmem with
  | inl heq => rw [heq, hnote]
  | inr hmem => exact h.all note' hmem

end Names

def Silent (op : Op) : Prop := ∀ r, scanNote ⟨op, r⟩ = none

section Silent
variable {app : AppState} {uid : String} {log : Log} {s t : Store}

theorem silent_backfillL2 (ctr : UInt32) :
    Meets (fun _ => Silent) (fun _ _ => True) log (backfillL2 app uid ctr) := by
  rw [backfillL2]
  split
  · exact ⟨fun _ => rfl, fun _ => trivial⟩
  · trivial

theorem silent_getCtrL3 : Meets (fun _ => Silent) (fun _ _ => True) log (getCtrL3 app uid) := by
  have hread : Silent (.selectLastVerifiedCtr uid) := fun _ => rfl
  apply calls_attempt (calls_map hread)
  intro stored log'
  rw [meets_bind]
  refine ⟨fun _ => rfl, fun _ => ?_⟩
  rw [meets_done, meets_map]
  exact silent_backfillL2 _

theorem silent_getCtr : Meets (fun _ => Silent) (fun _ _ => True) log (getCtr app uid) := by
  rw [getCtr, meets_bind]
  refine ⟨fun _ => rfl, fun cached => ?_⟩
  rw [meets_done]
  split
  · trivial
  · split
    · rw [meets_bind]
      refine ⟨fun _ => rfl, fun answer => ?_⟩
      rw [meets_done]
      split
      · exact ⟨fun _ => rfl, fun _ => trivial⟩
      · exact silent_getCtrL3
    · exact silent_getCtrL3

theorem silent_updateCtr (ctr : UInt32) :
    Meets (fun _ => Silent) (fun _ _ => True) log (updateCtr app uid ctr) := by
  rw [updateCtr, meets_bind]
  exact ⟨fun _ => rfl, fun _ => silent_backfillL2 ctr⟩

theorem SummaryOp.silent {op : Op} (h : SummaryOp op) : Silent op := by
  cases h <;> exact fun _ => rfl

end Silent

/-- Every attestation the summary of the asset reads decodes. -/
def Summarized (asset : AssetVerifyRow) (s : Store) : Prop :=
  ∀ id, resolvedIn s asset = .ok (some id) → AllDecode id s

/-- The scan of a registered asset that ends in an error before it writes anything: the key of
its tag cannot be derived, or it is replayed over attestations that do not decode. -/
def Unanswered (app : AppState) (s : Store) (uidHex : String) (parsed : SunMessage) (v2 : Bool)
    (asset : AssetVerifyRow) : Prop :=
  (∃ e, checkTag app asset.brandId asset.epoch parsed = .error e) ∨
    v2 = true ∧ checkTag app asset.brandId asset.epoch parsed = .ok true ∧
      (parsed.ctrValue ≤ s.cachedCtr app uidHex ∧ s.cachedCtr app uidHex > 0) ∧
      ¬Summarized asset s

section Scan
variable {app : AppState} {asset : AssetVerifyRow} {uidHex now : String} {parsed : SunMessage}
  {newCtr : UInt32} {previousCtr : Option UInt32} {replay v2 : Bool} {s t : Store}

theorem evaluates_summary_ok (h : Summarized asset s) (hsame : AttestedAs s.db t.db) :
    ∃ summary, machine.Evaluates {} (buildSummary app asset) t (.ok summary) t := by
  have hresolved : ∃ id, resolvedIn s asset = .ok id := by
    cases hid : asset.assetCommitmentId with
    | some id => exact ⟨_, resolvedIn_bound hid⟩
    | none => exact ⟨_, resolvedIn_unbound hid⟩
  obtain ⟨id, hid⟩ := hresolved
  cases id with
  | none => exact evaluates_buildSummary_none (hsame.resolvedIn.trans hid)
  | some id => exact (h id hid).summary hid hsame

theorem evaluates_summary_error (h : ¬Summarized asset s) (hsame : AttestedAs s.db t.db) :
    ∃ e, machine.Evaluates {} (buildSummary app asset) t (.error e) t := by
  rw [Summarized] at h
  push Not at h
  obtain ⟨id, hid, hdecode⟩ := h
  apply evaluates_buildSummary_error (hsame.resolvedIn.trans hid)
  intro hall
  apply hdecode
  constructor
  · intro record hrecord
    apply hall.brand
    rw [Db.selectBrandAttestation, hsame.brand]
    exact hrecord
  · intro record hrecord
    apply hall.platform
    rw [Db.selectPlatformAttestation, hsame.platform]
    exact hrecord

theorem observes_summary {r : Except RcError Summary}
    (h : machine.Evaluates {} (buildSummary app asset) s r s) :
    machine.Observes scanNote {} (buildSummary app asset) s r [] s :=
  h.unseen (summary_buildSummary asset) fun _ => SummaryOp.silent

theorem observes_event (assetId : Option String) (row : String → VerificationEventRow) (s : Store) :
    ∃ r t, machine.Observes scanNote {} (ask (.insertVerificationEvent assetId row)) s r
      [.event assetId] t :=
  ⟨(machine.exec {} (.insertVerificationEvent assetId row) s).1,
    (machine.exec {} (.insertVerificationEvent assetId row) s).2, Machine.observes_perform rfl⟩

theorem observes_insertVerificationEvent (assetId : Option String) (ctr : Int32) (status : String)
    (riskFlags : List String) (cmacValid : Bool) (s : Store) :
    ∃ t, machine.Observes scanNote {}
      (insertVerificationEvent uidHex assetId ctr status riskFlags cmacValid) s ()
      [.event assetId] t := by
  obtain ⟨_, t, h⟩ := observes_event assetId _ s
  exact ⟨t, h.map _⟩

theorem observes_answerScan_error (h : ¬Summarized asset s) (hsame : AttestedAs s.db t.db) :
    machine.Observes scanNote {} (answerScan app uidHex asset newCtr previousCtr replay true now) t
      (serverError true) [] t := by
  obtain ⟨e, he⟩ : ∃ e, machine.Evaluates {} (buildSummary app asset) t (.error e) t :=
    evaluates_summary_error h hsame
  exact (observes_summary he).refuse

theorem observes_answerScan_ok (h : v2 = true → Summarized asset s) (hsame : AttestedAs s.db t.db) :
    ∃ reply t', machine.Observes scanNote {}
      (answerScan app uidHex asset newCtr previousCtr replay v2 now) t reply
      [.event (some asset.assetId)] t' := by
  cases v2 with
  | false =>
      obtain ⟨t', hevent⟩ := observes_insertVerificationEvent (some asset.assetId) _ _ _ _ t
      exact ⟨_, t', hevent.map _⟩
  | true =>
      obtain ⟨summary, hsummary⟩ : ∃ summary, machine.Evaluates {} (buildSummary app asset) t
          (.ok summary) t := evaluates_summary_ok (h rfl) hsame
      obtain ⟨_, t', hevent⟩ := observes_event (some asset.assetId) _ t
      exact ⟨_, t', (observes_summary hsummary).attempt (hevent.map _)⟩

theorem observes_getCtr (app : AppState) (uid : String) (s : Store) :
    ∃ t, machine.Observes scanNote {} (getCtr app uid) s (.ok (s.cachedCtr app uid)) [] t ∧
      t.db = s.db := by
  obtain ⟨t, h, hdb⟩ := evaluates_getCtr app uid s
  exact ⟨t, h.unseen silent_getCtr fun _ => id, hdb⟩

/-- A replay is answered without an update, so that an error leaves no trace. -/
theorem observes_checkCounter_error
    (hold : newCtr ≤ s.cachedCtr app uidHex ∧ s.cachedCtr app uidHex > 0)
    (h : ¬Summarized asset s) :
    ∃ t, machine.Observes scanNote {} (checkCounter app uidHex asset newCtr true now) s
      (serverError true) [] t := by
  obtain ⟨t, hread, hdb⟩ := observes_getCtr app uidHex s
  have hsame : AttestedAs s.db t.db := by
    rw [hdb]
    exact ⟨rfl, rfl, rfl⟩
  refine ⟨t, hread.attempt ?_⟩
  dsimp only
  rw [if_pos hold]
  exact observes_answerScan_error h hsame

theorem observes_checkCounter
    (h : v2 = true → newCtr ≤ s.cachedCtr app uidHex ∧ s.cachedCtr app uidHex > 0 →
      Summarized asset s) :
    ∃ reply notes t, machine.Observes scanNote {} (checkCounter app uidHex asset newCtr v2 now) s
      reply notes t ∧ Names (some asset.assetId) notes := by
  obtain ⟨s₁, hread, hdb₁⟩ := observes_getCtr app uidHex s
  by_cases hold : newCtr ≤ s.cachedCtr app uidHex ∧ s.cachedCtr app uidHex > 0
  · have hsame : AttestedAs s.db s₁.db := by
      rw [hdb₁]
      exact ⟨rfl, rfl, rfl⟩
    obtain ⟨reply, t, hreply⟩ : ∃ reply t, machine.Observes scanNote {} (answerScan app uidHex asset
        newCtr (if s.cachedCtr app uidHex = 0 then none else some (s.cachedCtr app uidHex)) true v2
          now) s₁ reply [.event (some asset.assetId)] t :=
      observes_answerScan_ok (fun hv => h hv hold) hsame
    refine ⟨reply, [.event (some asset.assetId)], t, hread.attempt ?_, names_singleton rfl⟩
    dsimp only
    rw [if_pos hold]
    exact hreply
  · have hwrite : machine.Observes scanNote {} (ask (.updateAssetCtr asset.assetId newCtr.toInt32)) s₁
        (.ok ()) [.counter asset.assetId newCtr.toInt32]
        { s₁ with db := s₁.db.updateAssetCtr asset.assetId newCtr.toInt32 } :=
      Machine.observes_perform rfl
    obtain ⟨s₃, hcache, hdb₃⟩ := evaluates_updateCtr app uidHex newCtr
      { s₁ with db := s₁.db.updateAssetCtr asset.assetId newCtr.toInt32 }
    have hcache := hcache.unseen (silent_updateCtr newCtr) (fun _ => id)
    have hsame : AttestedAs s.db s₃.db := by
      rw [hdb₃, ← hdb₁]
      exact ⟨rfl, rfl, rfl⟩
    obtain ⟨reply, rest, t, hreply, hrest⟩ : ∃ reply rest t, machine.Observes scanNote {}
        (answerScan app uidHex asset newCtr
          (if s.cachedCtr app uidHex = 0 then none else some (s.cachedCtr app uidHex)) false v2 now)
          s₃ reply rest t ∧ Names (some asset.assetId) (.counter asset.assetId newCtr.toInt32 :: rest) := by
      by_cases hanswered : v2 = true → Summarized asset s
      · obtain ⟨reply, t, hreply⟩ : ∃ reply t, machine.Observes scanNote {} (answerScan app uidHex asset
            newCtr (if s.cachedCtr app uidHex = 0 then none else some (s.cachedCtr app uidHex)) false v2
              now) s₃ reply [.event (some asset.assetId)] t := observes_answerScan_ok hanswered hsame
        have hevent : Names (some asset.assetId) [.event (some asset.assetId)] :=
          names_singleton rfl
        exact ⟨reply, _, t, hreply, hevent.cons rfl⟩
      · push Not at hanswered
        obtain ⟨rfl, hunread⟩ := hanswered
        exact ⟨_, _, s₃, observes_answerScan_error hunread hsame, names_singleton rfl⟩
    refine ⟨reply, _, t, hread.attempt ?_, hrest⟩
    dsimp only
    rw [if_neg hold]
    exact hwrite.attempt (hcache.bind hreply)

/-- A registered asset is answered for by name, or not at all. -/
theorem scanResult_registered (h : s.db.selectAssetByUid uidHex = some asset) :
    (Unanswered app s uidHex parsed v2 asset ∧
      scanResult (handleFullVerify app uidHex parsed v2 now) s = ⟨serverError v2, []⟩) ∨
    (¬Unanswered app s uidHex parsed v2 asset ∧
      Names (some asset.assetId) (scanResult (handleFullVerify app uidHex parsed v2 now) s).notes) := by
  have hfetch : machine.Observes scanNote {} (fetchAssetByUid uidHex) s (.ok asset) [] s :=
    ⟨evaluates_fetchAssetByUid h, rfl⟩
  cases htag : checkTag app asset.brandId asset.epoch parsed with
  | error e =>
      have hrun : machine.Observes scanNote {} (handleFullVerify app uidHex parsed v2 now) s
          (serverError v2) [] s := by
        apply hfetch.bind
        dsimp only
        rw [htag]
        exact Machine.observes_done
      exact .inl ⟨.inl ⟨e, htag⟩, scanResult_of_observes hrun⟩
  | ok valid =>
      cases valid with
      | false =>
          obtain ⟨t, hevent⟩ : ∃ t, machine.Observes scanNote {} (insertVerificationEvent uidHex
              (some asset.assetId) parsed.ctrValue.toInt32 "authentication_failed" [] false) s ()
              [.event (some asset.assetId)] t := observes_insertVerificationEvent _ _ _ _ _ s
          have hrun : machine.Observes scanNote {} (handleFullVerify app uidHex parsed v2 now) s
              (authenticationFailed asset v2) [.event (some asset.assetId)] t := by
            apply hfetch.bind
            dsimp only
            rw [htag]
            exact hevent.map _
          refine .inr ⟨?_, ?_⟩
          · rintro (⟨e, he⟩ | ⟨-, hvalid, -⟩)
            · rw [htag] at he
              cases he
            · rw [htag] at hvalid
              cases hvalid
          · rw [scanResult_of_observes hrun]
            exact names_singleton rfl
      | true =>
          have hrun : ∀ reply notes t, machine.Observes scanNote {}
              (checkCounter app uidHex asset parsed.ctrValue v2 now) s reply notes t →
              machine.Observes scanNote {} (handleFullVerify app uidHex parsed v2 now) s reply notes
                t := by
            intro reply notes t hreply
            apply hfetch.bind
            dsimp only
            rw [htag]
            exact hreply
          by_cases hunanswered : Unanswered app s uidHex parsed v2 asset
          · obtain ⟨e, he⟩ | ⟨rfl, -, hold, hunread⟩ := id hunanswered
            · rw [htag] at he
              cases he
            · obtain ⟨t, hreply⟩ : ∃ t, machine.Observes scanNote {} (checkCounter app uidHex asset
                  parsed.ctrValue true now) s (serverError true) [] t :=
                observes_checkCounter_error hold hunread
              exact .inl ⟨hunanswered, scanResult_of_observes (hrun _ _ t hreply)⟩
          · obtain ⟨reply, notes, t, hreply, hnames⟩ : ∃ reply notes t, machine.Observes scanNote {}
                (checkCounter app uidHex asset parsed.ctrValue v2 now) s reply notes t ∧
                  Names (some asset.assetId) notes := by
              apply observes_checkCounter
              intro hv hold
              by_contra hunread
              exact hunanswered (.inr ⟨hv, htag, hold, hunread⟩)
            refine .inr ⟨hunanswered, ?_⟩
            rw [scanResult_of_observes (hrun reply notes t hreply)]
            exact hnames

theorem scanResult_unregistered (h : s.db.selectAssetByUid uidHex = none) :
    scanResult (handleFullVerify app uidHex parsed v2 now) s = ⟨unknownTag v2, [.event none]⟩ := by
  have hfetch : machine.Observes scanNote {} (fetchAssetByUid uidHex) s (.error .assetNotFound) [] s := by
    refine ⟨⟨?_, rfl⟩, rfl⟩
    show found .assetNotFound (.ok (s.db.selectAssetByUid uidHex)) = _
    rw [h]
    rfl
  obtain ⟨t, hevent⟩ : ∃ t, machine.Observes scanNote {} (insertVerificationEvent uidHex none
      parsed.ctrValue.toInt32 "unknown_tag" [] false) s () [.event none] t :=
    observes_insertVerificationEvent _ _ _ _ _ s
  exact scanResult_of_observes (hfetch.bind (hevent.map _))

end Scan

/-- Two hexadecimal texts of the same bytes. -/
def SameHex (a b : Option String) : Prop :=
  ∃ text text' bytes, a = some text ∧ b = some text' ∧ hexDecode text = some bytes ∧
    hexDecode text' = some bytes

/-- The parameters denote the same bytes: they differ at most in the case of the digits. -/
structure DenoteSame (params params' : VerifyParams) : Prop where
  uid : SameHex params.uid params'.uid
  ctr : SameHex params.ctr params'.ctr
  cmac : SameHex params.cmac params'.cmac

/-- One spelling of the UID, two unregistered ones, or two registered ones neither of which
is answered. -/
def SpelledAlike (app : AppState) (params params' : VerifyParams) (v2 : Bool) (s : Store) : Prop :=
  ∀ uid uid' parsed, params.uid = some uid → params'.uid = some uid' →
    parseSunParams params = .ok parsed →
    uid = uid' ∨
    (s.db.selectAssetByUid uid = none ∧ s.db.selectAssetByUid uid' = none) ∨
    ∃ asset asset', s.db.selectAssetByUid uid = some asset ∧
      s.db.selectAssetByUid uid' = some asset' ∧
      Unanswered app s uid parsed v2 asset ∧ Unanswered app s uid' parsed v2 asset'

section Spellings
variable {app : AppState} {params params' : VerifyParams} {v2 : Bool} {now uid uid' : String}
  {parsed : SunMessage} {s : Store}

theorem DenoteSame.parse (h : DenoteSame params params') :
    parseSunParams params' = parseSunParams params := by
  obtain ⟨uid, uid', uidBytes, huid, huid', huidBytes, huidBytes'⟩ := h.uid
  obtain ⟨ctr, ctr', ctrBytes, hctr, hctr', hctrBytes, hctrBytes'⟩ := h.ctr
  obtain ⟨cmac, cmac', cmacBytes, hcmac, hcmac', hcmacBytes, hcmacBytes'⟩ := h.cmac
  simp only [parseSunParams, huid, huid', hctr, hctr', hcmac, hcmac', Option.elim, bind, Except.bind,
    decodeHex, huidBytes, huidBytes', hctrBytes, hctrBytes', hcmacBytes, hcmacBytes']

theorem isDegradedMode_full (hctr : params.ctr.isSome = true) : isDegradedMode params = false := by
  rw [isDegradedMode]
  cases hvalue : params.ctr with
  | none =>
      rw [hvalue] at hctr
      cases hctr
  | some ctr => simp

theorem verifyImpl_parsed (huid : params.uid = some uid) (hctr : params.ctr.isSome = true)
    (h : parseSunParams params = .ok parsed) :
    verifyImpl app params v2 now = handleFullVerify app uid parsed v2 now := by
  rw [verifyImpl, huid]
  dsimp only
  rw [isDegradedMode_full hctr, if_neg Bool.false_ne_true, h]

theorem verifyImpl_unparsed {e : RcError} (huid : params.uid = some uid)
    (hctr : params.ctr.isSome = true) (h : parseSunParams params = .error e) :
    verifyImpl app params v2 now = .done (badRequest v2) := by
  rw [verifyImpl, huid]
  dsimp only
  rw [isDegradedMode_full hctr, if_neg Bool.false_ne_true, h]

theorem uid_of_assetId {db : Db} {asset asset' : AssetVerifyRow}
    (h : db.selectAssetByUid uid = some asset) (h' : db.selectAssetByUid uid' = some asset')
    (hid : asset.assetId = asset'.assetId) : uid = uid' := by
  obtain ⟨r, hr, rfl⟩ := Option.map_eq_some_iff.mp h
  obtain ⟨r', hr', rfl⟩ := Option.map_eq_some_iff.mp h'
  have hsame : r = r' := Table.eq_of_clash (Table.mem_of_find hr) (Table.mem_of_find hr') (.inl hid)
  have huid := Table.prop_of_find hr
  have huid' := Table.prop_of_find hr'
  rw [decide_eq_true_eq] at huid huid'
  rw [hsame, huid'] at huid
  exact (Option.some.inj huid).symm

theorem scanResult_unregistered_ne {asset : AssetVerifyRow}
    (hnone : s.db.selectAssetByUid uid = none) (hrow : s.db.selectAssetByUid uid' = some asset) :
    scanResult (handleFullVerify app uid parsed v2 now) s ≠
      scanResult (handleFullVerify app uid' parsed v2 now) s := by
  rw [scanResult_unregistered hnone]
  intro h
  obtain ⟨-, hresult⟩ | ⟨-, hnames⟩ := @scanResult_registered app asset uid' now parsed v2 s hrow
  · rw [hresult, ScanResult.mk.injEq] at h
    cases h.2
  · rw [← h] at hnames
    cases (hnames.unique (names_singleton rfl))

/-- What is written tells the assets apart, so that two UIDs give one result only where
nothing is written or nothing is found. -/
theorem handled_alike_iff (hne : uid ≠ uid') :
    scanResult (handleFullVerify app uid parsed v2 now) s =
        scanResult (handleFullVerify app uid' parsed v2 now) s ↔
      (s.db.selectAssetByUid uid = none ∧ s.db.selectAssetByUid uid' = none) ∨
      ∃ asset asset', s.db.selectAssetByUid uid = some asset ∧
        s.db.selectAssetByUid uid' = some asset' ∧
        Unanswered app s uid parsed v2 asset ∧ Unanswered app s uid' parsed v2 asset' := by
  cases hrow : s.db.selectAssetByUid uid with
  | none =>
      cases hrow' : s.db.selectAssetByUid uid' with
      | none =>
          rw [scanResult_unregistered hrow, scanResult_unregistered hrow']
          simp
      | some asset' =>
          constructor
          · intro h
            exact absurd h (scanResult_unregistered_ne hrow hrow')
          · rintro (⟨-, h⟩ | ⟨_, _, h, -⟩)
            · cases h
            · cases h
  | some asset =>
      cases hrow' : s.db.selectAssetByUid uid' with
      | none =>
          constructor
          · intro h
            exact absurd h.symm (scanResult_unregistered_ne hrow' hrow)
          · rintro (⟨h, -⟩ | ⟨_, _, _, h, -⟩)
            · cases h
            · cases h
      | some asset' =>
          have hresult := @scanResult_registered app asset uid now parsed v2 s hrow
          have hresult' := @scanResult_registered app asset' uid' now parsed v2 s hrow'
          constructor
          · intro h
            refine .inr ⟨asset, asset', rfl, rfl, ?_⟩
            obtain ⟨hunanswered, heq⟩ | ⟨-, hnames⟩ := hresult
            · obtain ⟨hunanswered', -⟩ | ⟨-, hnames'⟩ := hresult'
              · exact ⟨hunanswered, hunanswered'⟩
              · rw [← h, heq] at hnames'
                exact absurd rfl hnames'.some
            · rw [h] at hnames
              obtain ⟨-, heq'⟩ | ⟨-, hnames'⟩ := hresult'
              · rw [heq'] at hnames
                exact absurd rfl hnames.some
              · have hid := Option.some.inj (hnames.unique hnames')
                exact absurd (uid_of_assetId hrow hrow' hid) hne
          · rintro (⟨h, -⟩ | ⟨a, a', ha, ha', hunanswered, hunanswered'⟩)
            · cases h
            · cases ha
              cases ha'
              obtain ⟨-, heq⟩ | ⟨hanswered, -⟩ := hresult
              · obtain ⟨-, heq'⟩ | ⟨hanswered', -⟩ := hresult'
                · rw [heq, heq']
                · exact absurd hunanswered' hanswered'
              · exact absurd hunanswered hanswered

end Spellings

/-- Scans of the same bytes have one result exactly when their UIDs are spelled alike. -/
theorem letter_case_iff (app : AppState) (params params' : VerifyParams) (v2 : Bool) (now : String)
    (s : Store) (hsame : DenoteSame params params') :
    scanResult (verifyImpl app params v2 now) s = scanResult (verifyImpl app params' v2 now) s ↔
      SpelledAlike app params params' v2 s := by
  obtain ⟨uid, uid', -, huid, huid', -, -⟩ := hsame.uid
  obtain ⟨ctr, ctr', -, hctr, hctr', -, -⟩ := hsame.ctr
  have hctr : params.ctr.isSome = true := by rw [hctr]; rfl
  have hctr' : params'.ctr.isSome = true := by rw [hctr']; rfl
  cases hparsed : parseSunParams params with
  | error e =>
      have hparsed' := hsame.parse.trans hparsed
      rw [verifyImpl_unparsed huid hctr hparsed, verifyImpl_unparsed huid' hctr' hparsed']
      constructor
      · intro _ _ _ parsed _ _ h
        rw [hparsed] at h
        cases h
      · intro _
        rfl
  | ok parsed =>
      have hparsed' := hsame.parse.trans hparsed
      rw [verifyImpl_parsed huid hctr hparsed, verifyImpl_parsed huid' hctr' hparsed']
      constructor
      · intro h u u' message hu hu' hmessage
        rw [huid] at hu
        rw [huid'] at hu'
        rw [hparsed] at hmessage
        cases hu
        cases hu'
        cases hmessage
        by_cases hne : uid = uid'
        · exact .inl hne
        · exact .inr ((handled_alike_iff hne).mp h)
      · intro h
        obtain rfl | h := h uid uid' parsed huid huid' hparsed
        · rfl
        · by_cases hne : uid = uid'
          · rw [hne]
          · exact (handled_alike_iff hne).mpr h

section Sample

/-- The scan of `zeroScan` with its digits in this case. -/
def spelled (uid cmac : String) : VerifyParams :=
  { uid := some uid, ctr := some "000000", cmac := some cmac }

theorem sameHex_refl {text : String} {bytes : List UInt8} (h : hexDecode text = some bytes) :
    SameHex (some text) (some text) := ⟨text, text, bytes, rfl, rfl, h, h⟩

theorem letter_case_iff_cmac :
    scanResult (verifyImpl attestedApp (spelled "04A31B2C3D4E5F" "0d520c5f32f65da7") true "")
        danglingStore =
      scanResult (verifyImpl attestedApp (spelled "04A31B2C3D4E5F" "0D520C5F32F65DA7") true "")
        danglingStore := by
  have hsame : DenoteSame (spelled "04A31B2C3D4E5F" "0d520c5f32f65da7")
      (spelled "04A31B2C3D4E5F" "0D520C5F32F65DA7") :=
    ⟨sameHex_refl rfl, sameHex_refl rfl, ⟨_, _, _, rfl, rfl, rfl, rfl⟩⟩
  apply (letter_case_iff _ _ _ _ _ _ hsame).mpr
  intro uid uid' parsed huid huid' _
  cases huid
  cases huid'
  exact .inl rfl

theorem lower_case_unknown :
    ¬∀ (app : AppState) (params params' : VerifyParams) (v2 : Bool) (now : String) (s : Store),
      DenoteSame params params' →
      scanResult (verifyImpl app params v2 now) s = scanResult (verifyImpl app params' v2 now) s := by
  intro h
  have hsame : DenoteSame (spelled "04A31B2C3D4E5F" "0d520c5f32f65da7")
      (spelled "04a31b2c3d4e5f" "0d520c5f32f65da7") :=
    ⟨⟨_, _, _, rfl, rfl, rfl, rfl⟩, sameHex_refl rfl, sameHex_refl rfl⟩
  have hresult := h attestedApp _ _ true "" danglingStore hsame
  have hnotes : (scanResult (verifyImpl attestedApp (spelled "04A31B2C3D4E5F" "0d520c5f32f65da7") true "")
      danglingStore).notes = [.counter "a" 0, .event (some "a")] := by decide +kernel
  have hnotes' : (scanResult (verifyImpl attestedApp (spelled "04a31b2c3d4e5f" "0d520c5f32f65da7") true "")
      danglingStore).notes = [.event none] := by decide +kernel
  rw [hresult, hnotes'] at hnotes
  cases hnotes

end Sample

end RcProtocol
