import RcProtocol.Api.VerifyRun
import RcProtocol.ChildTag
import RcProtocol.Library.Service

/-!
One scan before two endpoints. Verifications keep the counter that tells a scan
from its replay; transfers neither read nor write it.
-/

namespace RcProtocol
open Library

/-- A request that carries a scan, in the process it reached. -/
inductive TagRequest
  | verify (app : AppState) (call : VerifyCall)
  | transfer (app : AppState) (call : TransferCall)

namespace TagRequest

def handle : TagRequest → Service Reply
  | verify app call => call.handle app
  | transfer app call => call.handle app

def uidHex : TagRequest → Option String
  | verify _ call => call.params.uid
  | transfer _ call => some call.payload.childUid

def message : TagRequest → Option SunMessage
  | verify _ call => (parseSunParams call.params).toOption
  | transfer _ call =>
      (decodeSunMessage "child_" call.payload.childUid call.payload.childCtr
        call.payload.childCmac).toOption

end TagRequest

abbrev TagEntry := Served api Store TagRequest Reply

/-- The request was answered as one with a fresh scan. -/
def TagEntry.Accepts (e : TagEntry) (message : SunMessage) : Prop :=
  e.request.message = some message ∧
    match e.request with
    | .verify _ _ => e.answer.accepted = true
    | .transfer _ _ => e.answer.status = 200

section Histories
variable (h : List TagEntry)

structure SingleUse : Prop where
  once : ∀ h₁ e h₂ e' h₃ message, h = h₁ ++ e :: (h₂ ++ e' :: h₃) →
    TagEntry.Accepts e message → ¬TagEntry.Accepts e' message
  counted : ∀ h₁ e h₂ message uid id, h = h₁ ++ e :: h₂ → TagEntry.Accepts e message →
    e.request.uidHex = some uid → e.before.db.boundUid id = some (some uid) →
      ∀ e' ∈ e :: h₂, (message.ctrValue.toInt32.toInt : WithBot ℤ) ≤ e'.after.db.lastCtr id

/-- No cache a verification reads is behind the row, and no zero meets a zero. A scan that
authenticates a transfer authenticates no later one, no verification before it has found
the counter of its tag below it, and it is not above that counter itself. -/
structure Guarded : Prop where
  cached : ∀ e ∈ h, ∀ app call uid id stored ctr, e.request = .verify app call →
    call.params.uid = some uid → e.before.db.boundUid id = some (some uid) →
      e.before.db.storedCtr id = some (some stored) →
        (e.before.l1 app.process uid = some ctr ∨ e.before.redis uid = some ctr) →
          stored.toUInt32 ≤ ctr
  zero : ∀ e ∈ h, ∀ app call message uid id, e.request = .verify app call →
    call.params.uid = some uid → e.before.db.boundUid id = some (some uid) →
      e.request.message = some message → message.ctrValue = 0 →
        e.before.db.storedCtr id ≠ some (some 0)
  presented : ∀ h₁ e h₂ app call message, h = h₁ ++ e :: h₂ → e.request = .transfer app call →
    call.Authentic app e.before.db message → ∀ e' ∈ h₂, ∀ app' call',
      e'.request = .transfer app' call' → ¬call'.Authentic app' e'.before.db message
  unverified : ∀ h₁ e h₂ app call message, h = h₁ ++ e :: h₂ → e.request = .transfer app call →
    call.Authentic app e.before.db message → ∀ e' ∈ h₁, ∀ app' call' uid id,
      e'.request = .verify app' call' → e'.request.message = some message →
        call'.params.uid = some uid → e'.before.db.boundUid id = some (some uid) →
          (message.ctrValue.toInt32.toInt : WithBot ℤ) ≤ e'.before.db.lastCtr id
  verified : ∀ e ∈ h, ∀ app call message id, e.request = .transfer app call →
    call.Authentic app e.before.db message →
      e.before.db.boundUid id = some (some call.payload.childUid) →
        (message.ctrValue.toInt32.toInt : WithBot ℤ) ≤ e.before.db.lastCtr id

end Histories

/-- The entry raised the counter of its tag to that of its scan. -/
structure TagEntry.Raises (e : TagEntry) (message : SunMessage) (uid id : String) : Prop where
  carries : e.request.message = some message
  names : e.request.uidHex = some uid
  decoded : hexDecode uid = some message.uid.toList
  bound : e.before.db.boundUid id = some (some uid)
  below : e.before.db.lastCtr id < (message.ctrValue.toInt32.toInt : WithBot ℤ)
  stored : e.after.db.lastCtr id = (message.ctrValue.toInt32.toInt : WithBot ℤ)
  others : ∀ id', id' ≠ id → e.after.db.lastCtr id' = e.before.db.lastCtr id'

theorem decodeSunMessage_uid {field uidHex ctrHex cmacHex : String} {message : SunMessage}
    (h : decodeSunMessage field uidHex ctrHex cmacHex = .ok message) :
    hexDecode uidHex = some message.uid.toList := by
  obtain ⟨uid, huid, h⟩ := bind_ok h
  obtain ⟨_, -, h⟩ := bind_ok h
  obtain ⟨_, -, h⟩ := bind_ok h
  obtain ⟨uid7, huid7, h⟩ := bind_ok h
  obtain ⟨_, -, h⟩ := bind_ok h
  obtain ⟨_, -, h⟩ := bind_ok h
  obtain rfl := Except.ok.inj h
  rw [decodeHex_ok huid, sized_ok huid7]

/-- The tag a transfer shows is bound to some asset, and its scan is of that tag. -/
theorem TransferCall.Authentic.bound {app : AppState} {call : TransferCall} {db : Db}
    {message : SunMessage} (h : call.Authentic app db message) :
    (∃ id, db.boundUid id = some (some call.payload.childUid)) ∧
      hexDecode call.payload.childUid = some message.uid.toList := by
  obtain ⟨stored, epoch, -, hepoch, hpresents⟩ := h
  obtain ⟨row, hrow, -⟩ := Option.map_eq_some_iff.mp hepoch
  refine ⟨⟨row.assetId, ?_⟩, decodeSunMessage_uid hpresents.decoded⟩
  rw [Db.boundUid, Db.asset_of_mem (Db.assetByUid_mem hrow), Option.map_some, Db.assetByUid_uid hrow]

theorem VerifyCall.Updated.wrote {app : AppState} {call : VerifyCall} {row : AssetVerifyRow}
    {log : Log} (h : call.Updated app row log) : counterView.Wrote log := by
  obtain ⟨uidHex, message, read, cached, rest, hfresh, rfl⟩ := h
  refine View.wrote_of_mem (e := ⟨.updateAssetCtr row.assetId message.ctrValue.toInt32, .ok ()⟩)
    ?_ rfl
  exact List.mem_cons_of_mem _ (List.mem_append_right _ (List.mem_cons_self ..))

section Entries
variable {start s : Store} {h h₁ h₂ : List TagEntry} {e : TagEntry} {message : SunMessage}
  {id uid : String}

theorem entry_boundUid (run : Serves machine TagRequest.handle start h s) (he : e ∈ h)
    (id : String) : e.after.db.boundUid id = e.before.db.boundUid id := by
  obtain ⟨env, -, -, hafter⟩ := run.entry_run he
  rw [hafter]
  exact tagView.get_trace (machine.run_trace _ env e.before) (fun _ _ => rfl) id

/-- No request binds a tag to another asset. -/
theorem run_boundUid (run : Serves machine TagRequest.handle start h s) (id : String) :
    s.db.boundUid id = start.db.boundUid id := by
  refine run.relates (R := fun s s' => s'.db.boundUid id = s.db.boundUid id) (fun _ => rfl) ?_
    fun e he => entry_boundUid run he id
  intro _ _ _ h h'
  exact Eq.trans h' h

/-- A guarded verification raises the counter of its tag, or leaves all counters
alone and accepts nothing. -/
theorem verify_entry (run : Serves machine TagRequest.handle start h s) (hg : Guarded h)
    (he : e ∈ h) {app : AppState} {call : VerifyCall} (hq : e.request = .verify app call) :
    (e.answer.accepted = false ∧ ∀ id, e.after.db.lastCtr id = e.before.db.lastCtr id) ∨
      ∃ message uid id, TagEntry.Raises e message uid id := by
  obtain ⟨env, -, hanswer, hafter⟩ := run.entry_run he
  rw [hq] at hanswer hafter
  change e.answer = (machine.run (call.handle app) env e.before).answer at hanswer
  change e.after = (machine.run (call.handle app) env e.before).state at hafter
  obtain ⟨hquiet, hsame⟩ | ⟨uidHex, message, row, read, cached, hfresh, hrow, hcached, hstate⟩ :=
    call.run_counter app env e.before
  · left
    rw [hafter, hanswer]
    refine ⟨?_, fun id => by rw [Db.lastCtr, Db.lastCtr, hsame id]⟩
    have hanswers := machine.meets_run_answer (call.verifyImpl_meets app) env e.before
    rw [List.nil_append] at hanswers
    by_contra haccepted
    rw [Bool.not_eq_false] at haccepted
    obtain ⟨row, hupdated, -⟩ := hanswers (.inl haccepted)
    exact hquiet hupdated.wrote
  · right
    have hbound := Db.boundUid_of_selectAssetByUid hrow
    have hmessage : e.request.message = some message := by
      rw [hq, TagRequest.message, hfresh.parsed]
      rfl
    refine ⟨message, uidHex, row.assetId, hmessage, by rw [hq, TagRequest.uidHex, hfresh.uid],
      parseSunParams_uid hfresh.parsed hfresh.uid, hbound, ?_, ?_, ?_⟩
    · refine Db.lastCtr_lt (Bytes.leCounter_lt _) (fun stored hs hreplay => ?_) fun hzero =>
        hg.zero e he app call message uidHex row.assetId hq hfresh.uid hbound hmessage hzero
      have hle : stored.toUInt32 ≤ cached := by
        have hguard := fun ctr =>
          hg.cached e he app call uidHex row.assetId stored ctr hq hfresh.uid hbound hs
        cases hcached with
        | l1 hl => exact hguard cached (.inl hl)
        | l2 hl => exact hguard cached (.inr hl)
        | l3 =>
            rw [Db.selectLastVerifiedCtr_eq hrow, hs]
            exact UInt32.le_refl _
      refine hfresh.fresh ⟨UInt32.le_trans hreplay.1 hle, ?_⟩
      exact UInt32.lt_of_lt_of_le hreplay.2 hle
    · obtain ⟨r, hr, -⟩ := Option.map_eq_some_iff.mp hbound
      rw [hafter, Db.lastCtr, hstate, if_pos rfl, Db.storedCtr, hr]
      rfl
    · intro id' hid
      rw [hafter, Db.lastCtr, hstate, if_neg (Ne.symm hid), Db.lastCtr]

theorem accepted_transfer (run : Serves machine TagRequest.handle start h s)
    (he : e ∈ h) {app : AppState} {call : TransferCall} (hq : e.request = .transfer app call)
    (ha : TagEntry.Accepts e message) : call.Authentic app e.before.db message := by
  obtain ⟨env, -, hanswer, -⟩ := run.entry_run he
  obtain ⟨hmessage, hstatus⟩ := ha
  rw [hq] at hanswer hmessage hstatus
  change e.answer.status = 200 at hstatus
  rw [hanswer] at hstatus
  obtain ⟨stored, owner, epoch, message', hstored, -, hepoch, -, hpresents⟩ :=
    TransferCall.run_transferred app call env e.before hstatus
  rw [TagRequest.message, hpresents.decoded] at hmessage
  obtain rfl : message' = message := Option.some.inj hmessage
  exact ⟨stored, epoch, hstored, hepoch, hpresents⟩

theorem transfer_entry (run : Serves machine TagRequest.handle start h s) (he : e ∈ h)
    {app : AppState} {call : TransferCall} (hq : e.request = .transfer app call) (id : String) :
    e.after.db.lastCtr id = e.before.db.lastCtr id := by
  obtain ⟨env, -, -, hafter⟩ := run.entry_run he
  rw [hq] at hafter
  change e.after = (machine.run (call.handle app) env e.before).state at hafter
  rw [hafter, Db.lastCtr, call.run_storedCtr app env, Db.lastCtr]

/-- No stored counter falls. -/
theorem entry_lastCtr_le (run : Serves machine TagRequest.handle start h s) (hg : Guarded h)
    (he : e ∈ h) (id : String) : e.before.db.lastCtr id ≤ e.after.db.lastCtr id := by
  cases hq : e.request with
  | transfer app call => exact le_of_eq (transfer_entry run he hq id).symm
  | verify app call =>
      obtain ⟨-, hsame⟩ | ⟨message, uid, id', hr⟩ := verify_entry run hg he hq
      · exact le_of_eq (hsame id).symm
      · by_cases hid : id = id'
        · rw [hid, hr.stored]
          exact le_of_lt hr.below
        · exact le_of_eq (hr.others id hid).symm

/-- An accepted verification has raised the counter of its tag. -/
theorem accepted_verify (run : Serves machine TagRequest.handle start h s) (hg : Guarded h)
    (he : e ∈ h) {app : AppState} {call : VerifyCall} (hq : e.request = .verify app call)
    (ha : TagEntry.Accepts e message) : ∃ uid id, TagEntry.Raises e message uid id := by
  obtain ⟨hmessage, haccepted⟩ := ha
  rw [hq] at haccepted
  obtain ⟨hquiet, -⟩ | ⟨message', uid, id, hr⟩ := verify_entry run hg he hq
  · rw [hquiet] at haccepted
    cases haccepted
  · obtain rfl := Option.some.inj (hr.carries.symm.trans hmessage)
    exact ⟨uid, id, hr⟩

/-- Between two entries no counter falls and no asset changes its tag. -/
theorem between_entries (run : Serves machine TagRequest.handle start h s) (hg : Guarded h)
    {e' : TagEntry} {h₃ : List TagEntry} (hh : h = h₁ ++ e :: (h₂ ++ e' :: h₃)) (id : String) :
    e.after.db.lastCtr id ≤ e'.before.db.lastCtr id ∧
      e'.before.db.boundUid id = e.before.db.boundUid id := by
  have he : e ∈ h := by simp [hh]
  have hbetween := (run.after hh).split rfl
  constructor
  · refine hbetween.relates (R := fun s s' => s.db.lastCtr id ≤ s'.db.lastCtr id)
      (fun _ => le_refl _) le_trans fun f hf => ?_
    exact entry_lastCtr_le run hg (by simp [hh, hf]) id
  · refine Eq.trans ?_ (entry_boundUid run he id)
    exact run_boundUid hbetween id

/-- Two verifications cannot raise a counter to that of one scan. -/
theorem raises_once (run : Serves machine TagRequest.handle start h s)
    (hs : OneSpelling start.db) (hg : Guarded h) {e' : TagEntry} {h₃ : List TagEntry}
    (hh : h = h₁ ++ e :: (h₂ ++ e' :: h₃)) {uid' id' : String}
    (hr : TagEntry.Raises e message uid id) : ¬TagEntry.Raises e' message uid' id' := by
  intro hr'
  have hbound := hr.bound
  rw [run_boundUid (run.split hh) id] at hbound
  have hbound' := hr'.bound
  rw [(between_entries run hg hh id').2, run_boundUid (run.split hh) id'] at hbound'
  have huid : uid = uid' := by
    apply hs id id' uid uid' hbound hbound'
    · rw [hr.decoded, hr'.decoded]
    · rw [hr.decoded, Option.isSome_some]
  subst huid
  obtain rfl := Db.boundUid_injective hbound hbound'
  have hle := (between_entries run hg hh id).1
  rw [hr.stored] at hle
  exact absurd (hle.trans_lt hr'.below) (lt_irrefl _)

/-- After a transfer the replay check refuses every verification with its scan. -/
theorem transferred_not_raised (run : Serves machine TagRequest.handle start h s)
    (hs : OneSpelling start.db) (hg : Guarded h) {e' : TagEntry} {h₃ : List TagEntry}
    (hh : h = h₁ ++ e :: (h₂ ++ e' :: h₃)) {app : AppState} {call : TransferCall}
    (hq : e.request = .transfer app call) (hauthentic : call.Authentic app e.before.db message)
    {uid' id' : String} : ¬TagEntry.Raises e' message uid' id' := by
  intro hr'
  obtain ⟨⟨id, hbound⟩, hdecoded⟩ := hauthentic.bound
  have hcounted := hg.verified e (by simp [hh]) app call message id hq hauthentic hbound
  have hstart := hbound
  rw [run_boundUid (run.split hh) id] at hstart
  have hbound' := hr'.bound
  rw [(between_entries run hg hh id').2, run_boundUid (run.split hh) id'] at hbound'
  have huid : call.payload.childUid = uid' := by
    apply hs id id' _ uid' hstart hbound'
    · rw [hdecoded, hr'.decoded]
    · rw [hdecoded, Option.isSome_some]
  rw [← huid] at hbound'
  obtain rfl := Db.boundUid_injective hstart hbound'
  have hle := (between_entries run hg hh id).1
  rw [transfer_entry run (by simp [hh]) hq id] at hle
  exact absurd (hcounted.trans_lt (hle.trans_lt hr'.below)) (lt_irrefl _)

/-- After an acceptance the counter of the tag is not below that of the scan. -/
theorem accepted_counted (run : Serves machine TagRequest.handle start h s) (hg : Guarded h)
    (he : e ∈ h) (ha : TagEntry.Accepts e message) (huid : e.request.uidHex = some uid)
    (hbound : e.before.db.boundUid id = some (some uid)) :
    (message.ctrValue.toInt32.toInt : WithBot ℤ) ≤ e.after.db.lastCtr id := by
  cases hq : e.request with
  | verify app call =>
      obtain ⟨uid', id', hr⟩ := accepted_verify run hg he hq ha
      obtain rfl := Option.some.inj (hr.names.symm.trans huid)
      obtain rfl := Db.boundUid_injective hr.bound hbound
      exact le_of_eq hr.stored.symm
  | transfer app call =>
      rw [hq] at huid
      rw [transfer_entry run he hq id]
      refine hg.verified e he app call message id hq (accepted_transfer run he hq ha) ?_
      exact hbound.trans (congrArg some huid.symm)

/-- In every run of guarded requests each scan is accepted once, and its counter is
stored from then on. -/
theorem guarded_single_use (run : Serves machine TagRequest.handle start h s)
    (hs : OneSpelling start.db) (hg : Guarded h) : SingleUse h := by
  constructor
  · intro h₁ e h₂ e' h₃ message hh ha ha'
    have he : e ∈ h := by simp [hh]
    have he' : e' ∈ h := by simp [hh]
    cases hq : e.request with
    | transfer app call =>
        have hauthentic := accepted_transfer run he hq ha
        cases hq' : e'.request with
        | transfer app' call' =>
            exact hg.presented h₁ e _ app call message hh hq hauthentic e' (by simp) app' call' hq'
              (accepted_transfer run he' hq' ha')
        | verify app' call' =>
            obtain ⟨uid', id', hr'⟩ := accepted_verify run hg he' hq' ha'
            exact transferred_not_raised run hs hg hh hq hauthentic hr'
    | verify app call =>
        obtain ⟨uid, id, hr⟩ := accepted_verify run hg he hq ha
        cases hq' : e'.request with
        | transfer app' call' =>
            have hauthentic := accepted_transfer run he' hq' ha'
            have hparams : call.params.uid = some uid := by
              have hnames := hr.names
              rwa [hq] at hnames
            rw [← List.cons_append, ← List.append_assoc] at hh
            have hle := hg.unverified _ e' h₃ app' call' message hh hq' hauthentic e (by simp)
              app call uid id hq hr.carries hparams hr.bound
            exact absurd (hle.trans_lt hr.below) (lt_irrefl _)
        | verify app' call' =>
            obtain ⟨uid', id', hr'⟩ := accepted_verify run hg he' hq' ha'
            exact raises_once run hs hg hh hr hr'
  · intro h₁ e h₂ message uid id hh ha huid hbound e' he'
    have hmem : ∀ f ∈ e :: h₂, f ∈ h := fun f hf => hh ▸ List.mem_append_right _ hf
    have hcounted := accepted_counted run hg (hmem e (List.mem_cons_self ..)) ha huid hbound
    obtain rfl | hlater := List.mem_cons.mp he'
    · exact hcounted
    · obtain ⟨h₂, h₃, rfl⟩ := List.append_of_mem hlater
      refine hcounted.trans ((between_entries run hg hh id).1.trans ?_)
      exact entry_lastCtr_le run hg (hmem e' he') id

end Entries

section Sample

def ownTagScan (ctr cmac : String) : TagRequest :=
  .verify transferApp
    { params := { uid := some "04A31B2C3D4E5F", ctr := some ctr, cmac := some cmac }
      v2 := false }

/-- The first asset is verified with a scan, and then transferred with scan ten. -/
def scanThenTransfer (ctr cmac : String) : List TagEntry :=
  machine.serveAll TagRequest.handle soldPairStore
    [(ownTagScan ctr cmac, fun _ => {}), (.transfer transferApp ownTagTransfer, fun _ => {})]

theorem scanThenTransfer_serves (ctr cmac : String) :
    ∃ s, Serves machine TagRequest.handle soldPairStore (scanThenTransfer ctr cmac) s :=
  serveAll_serves ..

def scanTen : SunMessage :=
  ⟨hexBytes 7 "04A31B2C3D4E5F", hexBytes 3 "0A0000", hexBytes 8 "e545ab922a4e3140"⟩

theorem soldPairStore_oneSpelling : OneSpelling soldPairStore.db :=
  oneSpelling_of_rows (by decide +kernel)

theorem message_of_authentic {e : TagEntry} {app : AppState} {call : TransferCall}
    {message : SunMessage} (hq : e.request = .transfer app call)
    (h : call.Authentic app e.before.db message) : e.request.message = some message := by
  obtain ⟨_, _, _, _, hpresents⟩ := h
  rw [hq, TagRequest.message, hpresents.decoded]
  rfl

/-- A later scan is verified, the transfer shows an unused earlier one, and that one is
sent to be verified too. -/
def scanBesideTransfer : List TagEntry :=
  machine.serveAll TagRequest.handle soldPairStore
    [(ownTagScan "0B0000" "6a4a46cb01cf1c05", fun _ => {}),
      (.transfer transferApp ownTagTransfer, fun _ => {}),
      (ownTagScan "0A0000" "e545ab922a4e3140", fun _ => {})]

/-- The transfer is the one request in the middle. -/
theorem besideTransfer_split {e₁ e₂ e₃ e : TagEntry} {h₁ h₂ : List TagEntry} {app : AppState}
    {call : TransferCall} (hfirst : e₁.request = ownTagScan "0B0000" "6a4a46cb01cf1c05")
    (hlast : e₃.request = ownTagScan "0A0000" "e545ab922a4e3140")
    (hh : [e₁, e₂, e₃] = h₁ ++ e :: h₂) (hq : e.request = .transfer app call) :
    h₁ = [e₁] ∧ e = e₂ ∧ h₂ = [e₃] := by
  cases h₁ with
  | nil =>
      obtain ⟨rfl, -⟩ := List.cons.inj hh
      rw [hfirst] at hq
      cases hq
  | cons f h₁ =>
      obtain ⟨rfl, hrest⟩ := List.cons.inj hh
      cases h₁ with
      | nil =>
          obtain ⟨rfl, rfl⟩ := List.cons.inj hrest
          exact ⟨rfl, rfl, rfl⟩
      | cons g h₁ =>
          obtain ⟨rfl, hend⟩ := List.cons.inj hrest
          cases h₁ with
          | nil =>
              obtain ⟨rfl, -⟩ := List.cons.inj hend
              rw [hlast] at hq
              cases hq
          | cons g h₁ => simp at hend

theorem ownTagScan_inj {ctr cmac : String} {app : AppState} {call : VerifyCall}
    (h : ownTagScan ctr cmac = .verify app call) :
    app = transferApp ∧ call.params.uid = some "04A31B2C3D4E5F" := by
  cases h
  exact ⟨rfl, rfl⟩

/-- The counter of the tag and its caches before each of the three. -/
theorem scanBesideTransfer_states :
    scanBesideTransfer.map (fun e => (e.answer.status, e.answer.accepted)) =
        [(200, true), (200, false), (200, false)] ∧
      scanBesideTransfer.map (fun e => (e.before.db.boundUid "a", e.before.db.storedCtr "a",
        e.before.l1 transferApp.process "04A31B2C3D4E5F", e.before.redis "04A31B2C3D4E5F")) =
        [(some (some "04A31B2C3D4E5F"), some none, none, none),
          (some (some "04A31B2C3D4E5F"), some (some 11), some 11, none),
          (some (some "04A31B2C3D4E5F"), some (some 11), some 11, none)] := by
  decide +kernel

/-- The scan of the transfer was not verified before it, and the counter stored for the tag
is above its own. -/
theorem scanBesideTransfer_guarded : Guarded scanBesideTransfer := by
  obtain ⟨-, hstates⟩ := scanBesideTransfer_states
  have hrequests : scanBesideTransfer.map (·.request) = [ownTagScan "0B0000" "6a4a46cb01cf1c05",
      .transfer transferApp ownTagTransfer, ownTagScan "0A0000" "e545ab922a4e3140"] :=
    serveAll_requests ..
  obtain ⟨e₁, e₂, e₃, hrun⟩ : ∃ e₁ e₂ e₃, scanBesideTransfer = [e₁, e₂, e₃] := ⟨_, _, _, rfl⟩
  rw [hrun] at hrequests hstates ⊢
  simp only [List.map_cons, List.map_nil, List.cons.injEq, Prod.mk.injEq, and_true]
    at hrequests hstates
  obtain ⟨hfirst, htransfer, hlast⟩ := hrequests
  obtain ⟨⟨hbound₁, hstored₁, -, -⟩, ⟨hbound₂, hstored₂, -, -⟩, hbound₃, hstored₃, hl1, hredis⟩ :=
    hstates
  have hverified : ∀ {e app call}, e ∈ [e₁, e₂, e₃] → e.request = .verify app call →
      app = transferApp ∧ call.params.uid = some "04A31B2C3D4E5F" ∧
        (e = e₁ ∨ e = e₃) := by
    intro e app call he hq
    simp only [List.mem_cons, List.not_mem_nil, or_false] at he
    obtain rfl | rfl | rfl := he
    · rw [hfirst] at hq
      exact ⟨(ownTagScan_inj hq).1, (ownTagScan_inj hq).2, .inl rfl⟩
    · rw [htransfer] at hq
      cases hq
    · rw [hlast] at hq
      exact ⟨(ownTagScan_inj hq).1, (ownTagScan_inj hq).2, .inr rfl⟩
  constructor
  · intro e he app call uid id stored ctr hq huid hbound hs hcached
    obtain ⟨rfl, hown, rfl | rfl⟩ := hverified he hq
    · obtain rfl := Option.some.inj (hown.symm.trans huid)
      obtain rfl := Db.boundUid_injective hbound hbound₁
      rw [hstored₁] at hs
      cases hs
    · obtain rfl := Option.some.inj (hown.symm.trans huid)
      obtain rfl := Db.boundUid_injective hbound hbound₃
      rw [hstored₃] at hs
      rw [hl1, hredis] at hcached
      obtain rfl := Option.some.inj (Option.some.inj hs)
      obtain hc | hc := hcached
      · obtain rfl := Option.some.inj hc
        decide
      · cases hc
  · intro e he app call message uid id hq huid hbound _ _
    obtain ⟨rfl, hown, rfl | rfl⟩ := hverified he hq
    · obtain rfl := Option.some.inj (hown.symm.trans huid)
      obtain rfl := Db.boundUid_injective hbound hbound₁
      rw [hstored₁]
      decide
    · obtain rfl := Option.some.inj (hown.symm.trans huid)
      obtain rfl := Db.boundUid_injective hbound hbound₃
      rw [hstored₃]
      decide
  · intro h₁ e h₂ app call message hh hq _ e' he' app' call' hq'
    obtain ⟨-, -, rfl⟩ := besideTransfer_split hfirst hlast hh hq
    obtain rfl := List.mem_singleton.mp he'
    rw [hlast] at hq'
    cases hq'
  · intro h₁ e h₂ app call message hh hq hauthentic e' he' app' call' uid id hq' hsame
    obtain ⟨rfl, rfl, -⟩ := besideTransfer_split hfirst hlast hh hq
    obtain rfl := List.mem_singleton.mp he'
    have hmessage := message_of_authentic hq hauthentic
    rw [htransfer] at hmessage
    rw [hfirst] at hsame
    have hdiffer : (ownTagScan "0B0000" "6a4a46cb01cf1c05").message ≠
        (TagRequest.transfer transferApp ownTagTransfer).message := by decide +kernel
    exact absurd (hsame.trans hmessage.symm) hdiffer
  · intro e he app call message id hq hauthentic hbound
    obtain ⟨h₁, h₂, hh⟩ := List.append_of_mem he
    obtain ⟨-, rfl, -⟩ := besideTransfer_split hfirst hlast hh hq
    have hmessage := message_of_authentic hq hauthentic
    rw [htransfer] at hq hmessage
    obtain ⟨rfl, rfl⟩ := TagRequest.transfer.inj hq
    obtain rfl : scanTen = message := Option.some.inj hmessage
    obtain rfl : id = "a" := Db.boundUid_injective hbound hbound₂
    have hcounted : e.before.db.lastCtr "a" = ((11 : ℤ) : WithBot ℤ) := by
      rw [Db.lastCtr, hstored₂]
      rfl
    rw [hcounted]
    decide +kernel

theorem guarded_single_use_later :
    scanBesideTransfer.map (fun e => (e.answer.status, e.answer.accepted)) =
        [(200, true), (200, false), (200, false)] ∧ SingleUse scanBesideTransfer := by
  have hserves : ∃ s, Serves machine TagRequest.handle soldPairStore scanBesideTransfer s :=
    serveAll_serves ..
  obtain ⟨s, run⟩ := hserves
  exact ⟨scanBesideTransfer_states.1,
    guarded_single_use run soldPairStore_oneSpelling scanBesideTransfer_guarded⟩

/-- The scan that was verified transfers the asset. -/
theorem verified_scan_transfers :
    ¬∀ (start s : Store) (h : List TagEntry), Serves machine TagRequest.handle start h s →
      OneSpelling start.db → SingleUse h := by
  intro hall
  obtain ⟨s, run⟩ := scanThenTransfer_serves "0A0000" "e545ab922a4e3140"
  have hsafe := hall _ _ _ run soldPairStore_oneSpelling
  have haccepted : (scanThenTransfer "0A0000" "e545ab922a4e3140").map
      (fun e => (e.answer.accepted, e.answer.status)) = [(true, 200), (false, 200)] := by
    decide +kernel
  obtain ⟨hverified, htransferred⟩ := List.cons.inj haccepted
  exact hsafe.once [] _ [] _ [] scanTen rfl ⟨rfl, congrArg Prod.fst hverified⟩
    ⟨rfl, congrArg Prod.snd (List.cons.inj htransferred).1⟩

end Sample

end RcProtocol
