import RcProtocol.Api.Counter
import RcProtocol.Api.VerifySpec

/-!
Scans in flight at once. A verification checks its counter against the nearest
cache and writes it without looking at the row again, so a scan is accepted once
exactly as far as the check holds of the row it writes.
-/

namespace RcProtocol
open Library

/-- The requests, each in the process it reached, before any of them has run. -/
def VerifyCall.pool {ι : Type} (app : ι → AppState) (calls : ι → VerifyCall) (start : Store) :
    Pool api Store ι Reply :=
  ⟨start, fun i => (calls i).handle (app i)⟩

/-- No tag is bound to two assets under two spellings of its uid. -/
def OneSpelling (db : Db) : Prop :=
  ∀ id id' uid uid', db.boundUid id = some (some uid) → db.boundUid id' = some (some uid') →
    hexDecode uid = hexDecode uid' → (hexDecode uid).isSome = true → uid = uid'

theorem oneSpelling_of_rows {db : Db} (h : ∀ r ∈ db.assets.rows, ∀ r' ∈ db.assets.rows,
    ∀ uid ∈ r.uid, ∀ uid' ∈ r'.uid, hexDecode uid = hexDecode uid' → uid = uid') :
    OneSpelling db := by
  intro id id' uid uid' hid hid' hsame _
  obtain ⟨r, hr, hu⟩ := Option.map_eq_some_iff.mp hid
  obtain ⟨r', hr', hu'⟩ := Option.map_eq_some_iff.mp hid'
  exact h r (Db.asset_mem hr) r' (Db.asset_mem hr') uid hu uid' hu' hsame

/-- The counter a cache has answered with, and for which tag. -/
def cacheAnswer : Event api → Option (String × UInt32)
  | ⟨.l1Get _ uid, some ctr⟩ => some (uid, ctr)
  | ⟨.redisGet uid, .ok (some ctr)⟩ => some (uid, ctr)
  | _ => none

/-- The counter a scan is checked against, from a cache or from the row. -/
def ctrAnswer : Event api → Option (String × UInt32)
  | ⟨.selectLastVerifiedCtr uid, .ok stored⟩ => some (uid, (stored.join.getD 0).toUInt32)
  | e => cacheAnswer e

theorem CtrRead.answer {process : Nat} {uid : String} {read : Log} {cached : UInt32}
    (h : CtrRead process uid read cached) : ∃ e ∈ read, ctrAnswer e = some (uid, cached) := by
  cases h with
  | l1 => exact ⟨_, List.mem_cons_self .., rfl⟩
  | l2 => exact ⟨⟨.redisGet uid, .ok (some cached)⟩, by simp, rfl⟩
  | l3 hmissed hbackfill =>
      refine ⟨⟨.selectLastVerifiedCtr uid, .ok _⟩, ?_, rfl⟩
      exact List.mem_cons_of_mem _ (List.mem_append_right _ (List.mem_cons_self ..))

section Histories
variable {ι : Type} (calls : ι → VerifyCall) (h : List (Move api Store ι))

structure NoReplay (finish : Pool api Store ι Reply) : Prop where
  once : ∀ i j reply reply' message message', finish.threads i = .done reply →
    finish.threads j = .done reply' → reply.accepted = true → reply'.accepted = true →
      parseSunParams (calls i).params = .ok message →
      parseSunParams (calls j).params = .ok message' →
        message.uid = message'.uid → message.ctr = message'.ctr → i = j
  monotone : ∀ v ∈ h, ∀ id, v.before.db.lastCtr id ≤ v.after.db.lastCtr id

/-- Where a counter is written, the replay check holds of the stored counter too,
and no zero is written over a zero. -/
structure CheckedOnRow : Prop where
  fresh : ∀ v ∈ h, ∀ id ctr, ctrUpdate v.event = some (id, ctr) →
    ∀ stored, v.before.db.storedCtr id = some (some stored) →
      ¬(ctr.toUInt32 ≤ stored.toUInt32 ∧ stored.toUInt32 > 0)
  zero : ∀ v ∈ h, ∀ id, ctrUpdate v.event = some (id, 0) →
    v.before.db.storedCtr id ≠ some (some 0)

/-- No cache answers with a counter below the one stored for the tag, and nobody writes
the counter between what a request has read of it and its own write. -/
structure Isolated : Prop where
  current : ∀ v ∈ h, ∀ uid ctr, cacheAnswer v.event = some (uid, ctr) →
    ∀ id stored, v.before.db.boundUid id = some (some uid) →
      v.before.db.storedCtr id = some (some stored) → stored.toUInt32 ≤ ctr
  alone : ∀ h₁ u h₂ v h₃, h = h₁ ++ u :: (h₂ ++ v :: h₃) → u.thread = v.thread →
    (ctrAnswer u.event).isSome = true → ∀ id ctr, ctrUpdate v.event = some (id, ctr) →
      ∀ w ∈ h₂, ∀ ctr', ctrUpdate w.event ≠ some (id, ctr')

end Histories

theorem parseSunParams_uid {params : VerifyParams} {message : SunMessage} {uidHex : String}
    (h : parseSunParams params = .ok message) (huid : params.uid = some uidHex) :
    hexDecode uidHex = some message.uid.toList := by
  simp only [parseSunParams, huid] at h
  obtain ⟨_, huidHex, h⟩ := bind_ok h
  obtain rfl := Except.ok.inj huidHex
  obtain ⟨_, -, h⟩ := bind_ok h
  obtain ⟨_, -, h⟩ := bind_ok h
  obtain ⟨uid, huid, h⟩ := bind_ok h
  obtain ⟨_, -, h⟩ := bind_ok h
  obtain ⟨_, -, h⟩ := bind_ok h
  obtain ⟨uid7, huid7, h⟩ := bind_ok h
  obtain ⟨_, -, h⟩ := bind_ok h
  obtain ⟨_, -, h⟩ := bind_ok h
  obtain rfl := Except.ok.inj h
  rw [decodeHex_ok huid, sized_ok huid7]

section Runs
variable {ι : Type} [DecidableEq ι] {app : ι → AppState} {calls : ι → VerifyCall}
  {start : Store} {h : List (Move api Store ι)} {finish : Pool api Store ι Reply}
  {v : Move api Store ι} {id : String} {ctr : Int32} {i : ι}

/-- No move changes the tag an asset is bound to. -/
theorem boundUid_start (run : Interleaves machine (VerifyCall.pool app calls start) h finish)
    (hv : v ∈ h) (id : String) : v.before.db.boundUid id = start.db.boundUid id := by
  obtain ⟨h₁, h₂, hh⟩ := List.append_of_mem hv
  obtain ⟨c₁, _, run₁, hstate, -⟩ := run.split hh
  have hsame := tagView.get_run run₁ (fun _ _ => rfl) id
  rw [hstate] at hsame
  exact hsame

theorem boundUid_selected (run : Interleaves machine (VerifyCall.pool app calls start) h finish)
    (hv : v ∈ h) {uid : String} {row : AssetVerifyRow}
    (hevent : v.event = ⟨.selectAssetByUid uid, .ok (some row)⟩) :
    start.db.boundUid row.assetId = some (some uid) := by
  obtain ⟨env, hexec⟩ := run.move hv
  rw [hevent] at hexec
  rw [← boundUid_start run hv]
  exact Db.boundUid_of_selectAssetByUid (query_ok (congrArg Prod.fst hexec))

/-- The counters that are written have three bytes. -/
theorem ctrUpdate_lt (run : Interleaves machine (VerifyCall.pool app calls start) h finish)
    (hv : v ∈ h) (hw : ctrUpdate v.event = some (id, ctr)) : ctr.toUInt32.toNat < 2 ^ 24 := by
  obtain ⟨h₁, h₂, hh⟩ := List.append_of_mem hv
  have hcall := run.calls (fun i => (calls i).verifyImpl_meets (app i)) hh
  rw [ctrUpdate_eq hw] at hcall
  generalize eventsOf v.thread h₁ = log at hcall
  cases hcall with
  | side hop => cases hop
  | update hfresh => exact Bytes.leCounter_lt _

/-- Nothing that answers with a counter writes one. -/
theorem ctrUpdate_answer {e : Event api}
    (h : (ctrAnswer e).isSome = true) : ctrUpdate e = none := by
  obtain ⟨op, r⟩ := e
  cases op <;> first | rfl | cases h

/-- A counter that is answered is not below the stored one. -/
theorem answer_ge (run : Interleaves machine (VerifyCall.pool app calls start) h finish)
    (hi : Isolated h) {u : Move api Store ι} (hu : u ∈ h) {uid : String} {cached : UInt32}
    (hanswer : ctrAnswer u.event = some (uid, cached))
    (hb : u.before.db.boundUid id = some (some uid)) {stored : Int32}
    (hs : u.before.db.storedCtr id = some (some stored)) : stored.toUInt32 ≤ cached := by
  by_cases hcache : cacheAnswer u.event = some (uid, cached)
  · exact hi.current u hu uid cached hcache id stored hb hs
  obtain ⟨env, hexec⟩ := run.move hu
  generalize u.event = e at hanswer hcache hexec
  obtain ⟨op, r⟩ := e
  cases op
  case selectLastVerifiedCtr =>
    cases r with
    | error e => cases hanswer
    | ok row =>
        obtain ⟨rfl, rfl⟩ := Prod.mk.inj (Option.some.inj hanswer)
        have hread := query_ok (congrArg Prod.fst hexec)
        rw [Db.selectLastVerifiedCtr_bound hb, hs] at hread
        subst hread
        exact UInt32.le_refl _
  all_goals exact absurd hanswer hcache

/-- What a written counter was checked against is not below the row it is written to. -/
theorem checked_ge (run : Interleaves machine (VerifyCall.pool app calls start) h finish)
    (hi : Isolated h) (hv : v ∈ h) (hw : ctrUpdate v.event = some (id, ctr)) :
    ∃ message cached, parseSunParams (calls v.thread).params = .ok message ∧
      ctr = message.ctrValue.toInt32 ∧ ¬(message.ctrValue ≤ cached ∧ cached > 0) ∧
        ∀ stored, v.before.db.storedCtr id = some (some stored) → stored.toUInt32 ≤ cached := by
  obtain ⟨h₁, h₂, hh⟩ := List.append_of_mem hv
  have hcall := run.calls (fun i => (calls i).verifyImpl_meets (app i)) hh
  rw [ctrUpdate_eq hw] at hcall
  generalize hlog : eventsOf v.thread h₁ = log at hcall
  cases hcall with
  | side hop => cases hop
  | @update uidHex message row read cached hfresh =>
      refine ⟨message, cached, hfresh.parsed, rfl, hfresh.fresh, fun stored hs => ?_⟩
      obtain ⟨e, he, hanswer⟩ := hfresh.read.answer
      obtain ⟨a, ha, -, hasset⟩ := mem_eventsOf.mp (hlog ▸ List.mem_cons_self ..)
      obtain ⟨u, hu, hthread, hevent⟩ := mem_eventsOf.mp (hlog ▸ List.mem_cons_of_mem _ he)
      have hmem : ∀ w ∈ h₁, w ∈ h := fun w hw => hh ▸ List.mem_append_left _ hw
      have hbound := (boundUid_start run (hmem u hu) _).trans
        (boundUid_selected run (hmem a ha) hasset)
      subst hevent
      obtain ⟨l₁, l₂, rfl⟩ := List.append_of_mem hu
      rw [List.append_assoc, List.cons_append] at hh
      have hanswered := Option.isSome_of_eq_some hanswer
      have hbetween : v.before.db.storedCtr row.assetId = u.after.db.storedCtr row.assetId := by
        apply counterView.get_between run hh
        intro w hw' f hf
        obtain ⟨⟨id', ctr'⟩, hctr, heq⟩ := Option.map_eq_some_iff.mp hf
        obtain ⟨rfl, -⟩ := Prod.mk.inj heq
        exact hi.alone l₁ u l₂ v h₂ hh hthread hanswered _ _ hw w hw' ctr' hctr
      have hread := counterView.move_step run (hmem u hu) row.assetId
      simp only [counterView, ctrUpdate_answer hanswered, Option.map_none, written] at hread
      exact answer_ge run hi (hmem u hu) hanswer hbound (hread.symm.trans (hbetween.symm.trans hs))

/-- Where no other write comes between, the replay check holds of the row; a tag counts
from one. -/
theorem checkedOnRow_of_isolated
    (run : Interleaves machine (VerifyCall.pool app calls start) h finish) (hi : Isolated h)
    (hpos : ∀ i message, parseSunParams (calls i).params = .ok message → message.ctrValue ≠ 0) :
    CheckedOnRow h := by
  refine ⟨fun v hv id ctr hw stored hs hreplay => ?_, fun v hv id hw _ => ?_⟩
  · obtain ⟨message, cached, -, rfl, hfresh, hge⟩ := checked_ge run hi hv hw
    rw [UInt32.toUInt32_toInt32] at hreplay
    have hle := hge stored hs
    exact hfresh ⟨UInt32.le_trans hreplay.1 hle, UInt32.lt_of_lt_of_le hreplay.2 hle⟩
  · obtain ⟨message, cached, hm, hzero, -, -⟩ := checked_ge run hi hv hw
    apply hpos v.thread message hm
    rw [← UInt32.toUInt32_toInt32 message.ctrValue, ← hzero]
    rfl

/-- A counter is written over a smaller one. -/
theorem lastCtr_lt (run : Interleaves machine (VerifyCall.pool app calls start) h finish)
    (hc : CheckedOnRow h) (hv : v ∈ h) (hw : ctrUpdate v.event = some (id, ctr)) :
    v.before.db.lastCtr id < (ctr.toInt : WithBot ℤ) := by
  rw [← Int32.toInt32_toUInt32 ctr]
  refine Db.lastCtr_lt (ctrUpdate_lt run hv hw) (hc.fresh v hv id ctr hw) fun hzero => ?_
  obtain rfl : ctr = 0 := by rw [← Int32.toInt32_toUInt32 ctr, hzero]; rfl
  exact hc.zero v hv id hw

/-- A written counter is the stored one. -/
theorem lastCtr_after (run : Interleaves machine (VerifyCall.pool app calls start) h finish)
    (hv : v ∈ h) (hw : ctrUpdate v.event = some (id, ctr)) {uid : Option String}
    (hb : v.before.db.boundUid id = some uid) :
    v.after.db.lastCtr id = (ctr.toInt : WithBot ℤ) := by
  obtain ⟨r, hr, -⟩ := Option.map_eq_some_iff.mp hb
  have hstep := counterView.move_step run hv id
  simp only [counterView, hw, Option.map_some, written, if_pos] at hstep
  rw [Db.lastCtr, hstep, Db.storedCtr, hr]
  rfl

theorem lastCtr_le (run : Interleaves machine (VerifyCall.pool app calls start) h finish)
    (hc : CheckedOnRow h) (hv : v ∈ h) (id : String) :
    v.before.db.lastCtr id ≤ v.after.db.lastCtr id := by
  have hkeep : v.after.db.storedCtr id = v.before.db.storedCtr id →
      v.before.db.lastCtr id ≤ v.after.db.lastCtr id := fun h =>
    le_of_eq (by rw [Db.lastCtr, Db.lastCtr, h])
  obtain hsame | ⟨f, hf, hafter⟩ := counterView.move_cases run hv id
  · exact hkeep hsame
  obtain ⟨⟨id', ctr⟩, hw, heq⟩ := Option.map_eq_some_iff.mp hf
  obtain ⟨hid, rfl⟩ := Prod.mk.inj heq
  rw [show id' = id from hid] at hw
  cases hr : v.before.db.asset id with
  | none =>
      have hnone : v.before.db.storedCtr id = none := by rw [Db.storedCtr, hr]; rfl
      refine hkeep (hafter.trans ?_)
      show (v.before.db.storedCtr id).map _ = v.before.db.storedCtr id
      rw [hnone]
      rfl
  | some r =>
      have hb : v.before.db.boundUid id = some r.uid := by rw [Db.boundUid, hr]; rfl
      rw [lastCtr_after run hv hw hb]
      exact le_of_lt (lastCtr_lt run hc hv hw)

/-- An accepted scan has written its counter to the asset its tag is bound to. -/
theorem accepted_update (run : Interleaves machine (VerifyCall.pool app calls start) h finish)
    {reply : Reply} (hi : finish.threads i = .done reply) (hr : reply.accepted = true)
    {message : SunMessage} (hm : parseSunParams (calls i).params = .ok message) :
    ∃ v ∈ h, ∃ id uid, v.thread = i ∧ ctrUpdate v.event = some (id, message.ctrValue.toInt32) ∧
      start.db.boundUid id = some (some uid) ∧ hexDecode uid = some message.uid.toList := by
  have hanswer := run.answers (fun i => (calls i).verifyImpl_meets (app i)) hi
  obtain ⟨row, ⟨uidHex, message', read, cached, rest, hfresh, hlog⟩, -⟩ := hanswer (.inl hr)
  obtain rfl : message' = message := Except.ok.inj (hfresh.parsed.symm.trans hm)
  have hmem : ∀ e, e ∈ (⟨.selectAssetByUid uidHex, .ok (some row)⟩ :: (read ++
      ⟨.updateAssetCtr row.assetId message'.ctrValue.toInt32, .ok ()⟩ :: rest) : Log) →
      ∃ v ∈ h, v.thread = i ∧ v.event = e := by
    intro e he
    rw [← hlog] at he
    exact mem_eventsOf.mp he
  obtain ⟨u, hu, -, hread⟩ := hmem _ (List.mem_cons_self ..)
  obtain ⟨v, hv, hthread, hwrite⟩ := hmem _
    (List.mem_cons_of_mem _ (List.mem_append_right _ (List.mem_cons_self ..)))
  refine ⟨v, hv, row.assetId, uidHex, hthread, by rw [hwrite]; rfl, ?_,
    parseSunParams_uid hm hfresh.uid⟩
  exact boundUid_selected run hu hread

/-- Of two writes of one counter to one asset the later would not be above the
first. -/
theorem update_once (run : Interleaves machine (VerifyCall.pool app calls start) h finish)
    (hc : CheckedOnRow h) {w : Move api Store ι} {uid : Option String}
    (hb : start.db.boundUid id = some uid) (hv : ctrUpdate v.event = some (id, ctr))
    (hw : ctrUpdate w.event = some (id, ctr)) :
    ∀ h₁ h₂ h₃, h ≠ h₁ ++ v :: (h₂ ++ w :: h₃) := by
  intro h₁ h₂ h₃ hh
  have hmem : ∀ u ∈ v :: (h₂ ++ w :: h₃), u ∈ h := fun u hu => hh ▸ List.mem_append_right _ hu
  have hbound := boundUid_start run (hmem v (List.mem_cons_self ..)) id
  have hafter := lastCtr_after run (hmem v (List.mem_cons_self ..)) hv (hbound.trans hb)
  have hbetween := run.relates_between (R := fun s s' => s.db.lastCtr id ≤ s'.db.lastCtr id)
    (fun _ => le_refl _) le_trans hh fun u hu => lastCtr_le run hc (hmem u (by simp [hu])) id
  have hlt := lastCtr_lt run hc (hmem w (by simp)) hw
  rw [hafter] at hbetween
  exact absurd (hbetween.trans_lt hlt) (lt_irrefl _)

/-- In every interleaving in which the replay check holds of the rows it guards, a
scan is accepted once, and no stored counter falls. -/
theorem checked_no_replay
    (run : Interleaves machine (VerifyCall.pool app calls start) h finish)
    (hc : CheckedOnRow h) (hs : OneSpelling start.db) : NoReplay calls h finish := by
  refine ⟨?_, fun v hv id => lastCtr_le run hc hv id⟩
  intro i j reply reply' message message' hi hj hr hr' hm hm' huid hctr
  by_contra hij
  obtain ⟨v, hv, id, uid, rfl, hwrite, hb, hu⟩ := accepted_update run hi hr hm
  obtain ⟨w, hw, id', uid', rfl, hwrite', hb', hu'⟩ := accepted_update run hj hr' hm'
  have hsame : uid = uid' := by
    apply hs id id' uid uid' hb hb'
    · rw [hu, hu', huid]
    · rw [hu, Option.isSome_some]
  subst hsame
  obtain rfl := Db.boundUid_injective hb hb'
  rw [SunMessage.ctrValue, ← hctr] at hwrite'
  have hne : v ≠ w := fun h => hij (congrArg Move.thread h)
  obtain ⟨h₁, h₂, h₃, hh⟩ | ⟨h₁, h₂, h₃, hh⟩ := split_two hv hw hne
  · exact update_once run hc hb hwrite hwrite' h₁ h₂ h₃ hh
  · exact update_once run hc hb hwrite' hwrite h₁ h₂ h₃ hh

end Runs

section Sample

def hexBytes (n : Nat) (s : String) : Bytes n :=
  ((hexDecode s).bind (Bytes.ofList? n)).getD (.ofFn fun _ => 0)

def rootKey : Bytes 32 :=
  hexBytes 32 "0123456789abcdef0123456789abcdef0123456789abcdef0123456789abcdef"

/-- The primitives on the inputs of one scan. -/
def scanPrimitives : Primitives :=
  { (default : Primitives) with
    hmacSha256 := fun key _ =>
      if key = rootKey.toList then
        hexBytes 32 "ff3d31562e2bfcc1e061d8e8319f5a8d0ae03f691d9e739f4237066a4374a76f"
      else hexBytes 32 "6198eb2aa5d101305b792758e66ba4952e118b37a92adc88be9901738de7fbea"
    cmacAes128 := fun _ _ => hexBytes 16 "78e5814521ab8592562aed4ef0317440" }

def scanApp (process : Nat) : AppState where
  crypto := scanPrimitives
  kms := softwareKms scanPrimitives rootKey "test-system"
  process := process

def scan : VerifyCall where
  params :=
    { uid := some "04A31B2C3D4E5F"
      ctr := some "0A0000"
      cmac := some "e545ab922a4e3140" }
  v2 := false

def scanMessage : SunMessage :=
  ⟨hexBytes 7 "04A31B2C3D4E5F", hexBytes 3 "0A0000", hexBytes 8 "e545ab922a4e3140"⟩

def taggedStore : Store where
  db :=
    { brands := ["brand"]
      assets :=
        .single
          { assetId := "a", brandId := "brand", uid := some "04A31B2C3D4E5F",
            currentState := .activated } }

theorem taggedStore_oneSpelling : OneSpelling taggedStore.db :=
  oneSpelling_of_rows (by decide)

/-- One scan, sent to two processes. -/
def scansRun (turns : List Bool) : List (Move api Store Bool) × Pool api Store Bool Reply :=
  (VerifyCall.pool (fun i => scanApp (if i then 1 else 0)) (fun _ => scan) taggedStore).schedule
    machine (turns.map fun i => (i, {}))

theorem scansRun_interleaves (turns : List Bool) :
    Interleaves machine
      (VerifyCall.pool (fun i => scanApp (if i then 1 else 0)) (fun _ => scan) taggedStore)
      (scansRun turns).1 (scansRun turns).2 :=
  schedule_interleaves ..

/-- The second process starts when the first has answered. -/
def inTurn : List Bool := .replicate 7 false ++ .replicate 5 true

/-- Both processes read the counter before either has written it. -/
def atOnce : List Bool :=
  .replicate 4 false ++ .replicate 4 true ++ .replicate 3 false ++ .replicate 3 true

def acceptedBy (c : Pool api Store Bool Reply) (i : Bool) : Bool :=
  match c.threads i with
  | .done reply => reply.accepted
  | .call _ _ => false

theorem done_of_acceptedBy {c : Pool api Store Bool Reply} {i : Bool} (h : acceptedBy c i = true) :
    ∃ reply, c.threads i = .done reply ∧ reply.accepted = true := by
  unfold acceptedBy at h
  split at h
  · next reply hr => exact ⟨reply, hr, h⟩
  · cases h

theorem checked_no_replay_scanned :
    acceptedBy (scansRun inTurn).2 false = true ∧
      NoReplay (fun _ => scan) (scansRun inTurn).1 (scansRun inTurn).2 := by
  refine ⟨by decide, checked_no_replay (scansRun_interleaves _) ?_ taggedStore_oneSpelling⟩
  have hfirst : ∀ v ∈ (scansRun inTurn).1,
      ∀ w ∈ ctrUpdate v.event, v.before.db.storedCtr w.1 = some none := by decide
  refine ⟨fun v hv id ctr hw stored hs => ?_, fun v hv id hw hs => ?_⟩
  · cases (hfirst v hv (id, ctr) hw).symm.trans hs
  · cases (hfirst v hv (id, 0) hw).symm.trans hs

theorem scan_is_accepted_twice :
    ¬∀ (ι : Type) (_ : DecidableEq ι) (app : ι → AppState) (calls : ι → VerifyCall)
      (start : Store) (h : List (Move api Store ι)) (finish : Pool api Store ι Reply),
      Interleaves machine (VerifyCall.pool app calls start) h finish →
        NoReplay calls h finish := by
  intro hall
  have hsafe := hall Bool _ _ _ _ _ _ (scansRun_interleaves atOnce)
  obtain ⟨reply, hi, hr⟩ := done_of_acceptedBy (c := (scansRun atOnce).2) (i := false) (by decide)
  obtain ⟨reply', hj, hr'⟩ := done_of_acceptedBy (c := (scansRun atOnce).2) (i := true) (by decide)
  have hm : parseSunParams scan.params = .ok scanMessage := rfl
  cases hsafe.once false true reply reply' _ _ hi hj hr hr' hm hm rfl rfl

end Sample

end RcProtocol
