import RcProtocol.Recovery
import RcProtocol.Library.Interleaving

/-!
Concurrent requests on the assets. A request checks its transition on the row it
fetched, and a transfer its actor on the owner it read, and both write without looking
again. So a commit is lawful, and overwrites none it has not seen, as long as the row is
as its request looked at it.
-/

namespace RcProtocol
open Library

/-- The requests, before any of them has run. -/
def AssetRequest.pool {ι : Type} (app : AppState) (requests : ι → AssetRequest) (start : Store) :
    Pool api Store ι Reply :=
  ⟨start, fun i => (requests i).handle app⟩

def Custody.states (c : Custody) : AssetState × Option AssetState :=
  (c.currentState, c.previousState)

/-- A commit on a row that stands at `c`, by a request with this log: the core allows its
transition from `c`, `c` has the states the request had fetched, and a transfer is made
by the owner. -/
structure Lawful (r : AssetRequest) (log : Log) (id : String) (f : Custody → Custody)
    (c : Custody) : Prop where
  allowed : nextStateForActionWithPrevious c.currentState r.act c.previousState =
    some (f c).currentState
  current : ∀ stored, (⟨.selectAssetRecord id, .ok (some stored)⟩ : Event api) ∈ log →
    stored.currentState = c.currentState ∧ stored.previousState = c.previousState
  owner : ∀ call, r = .transfer call → c.ownerId = some call.actor.actorId

/-- The look at the asset after which the request has the owner replaced: a transfer reads
the owner, the other actions that set one only fetch the row. -/
def AssetRequest.LooksAtOwner (id : String) (op : Op) : AssetRequest → Prop
  | .transfer _ => op = .selectOwner id
  | .write q => op = .selectAssetRecord id ∧ q.act ∈ [.legalSell, .transfer, .consume, .legacy]

/-- The request has what it looked at by this operation: of the row it fetched the states,
and the owner it is to replace. -/
structure AssetRequest.Agrees (r : AssetRequest) (id : String) (op : Op) (c c' : Custody) :
    Prop where
  states : op = .selectAssetRecord id → c'.states = c.states
  owner : r.LooksAtOwner id op → c'.ownerId = c.ownerId

section Histories
variable {ι : Type} [DecidableEq ι] (requests : ι → AssetRequest) (h : List (Move api Store ι))

structure SafeHistory : Prop where
  lawful : ∀ h₁ v h₂, h = h₁ ++ v :: h₂ → ∀ id f, custodyWrite v.event = some (id, f) →
    ∀ c, v.before.db.custody id = some c →
      Lawful (requests v.thread) (eventsOf v.thread h₁) id f c
  terminal : ∀ v ∈ h, ∀ id c, v.before.db.custody id = some c →
    c.currentState.isTerminal = true → v.after.db.custody id = some c
  frozen : ∀ v ∈ h, ∀ id c, v.before.db.custody id = some c → c.currentState = .disputed →
    v.after.db.custody id = some c ∨ (requests v.thread).act.isBusiness = false
  /-- What the commit `w` made of the asset is what the next one, `v`, was computed from,
  also where the request of `v` had looked before `w`. -/
  kept : ∀ h₁ u h₂ w h₃ v h₄, h = h₁ ++ u :: (h₂ ++ w :: (h₃ ++ v :: h₄)) →
    u.thread = v.thread → ∀ id f g, custodyWrite w.event = some (id, g) →
      (∀ x ∈ h₃, ∀ k, custodyWrite x.event ≠ some (id, k)) → custodyWrite v.event = some (id, f) →
        ∀ c c', u.before.db.custody id = some c → w.after.db.custody id = some c' →
          (requests v.thread).Agrees id u.event.op c c'

/-- Where a request commits, the row is as the request looked at it, and a recovery names
no other state than the stored one. -/
structure Undisturbed : Prop where
  fetched : ∀ h₁ v h₂, h = h₁ ++ v :: h₂ → ∀ id f, custodyWrite v.event = some (id, f) →
    ∀ u ∈ h₁, u.thread = v.thread → ∀ c c', u.before.db.custody id = some c →
      v.before.db.custody id = some c' → (requests v.thread).Agrees id u.event.op c c'
  named : ∀ v ∈ h, ∀ id f, custodyWrite v.event = some (id, f) →
    ∀ q, requests v.thread = .write q → q.act = .recover →
      ∀ target, q.payload.previousState = some target →
        ∀ c, v.before.db.custody id = some c → c.previousState = some target

end Histories

section Runs
variable {ι : Type} [DecidableEq ι] {app : AppState} {requests : ι → AssetRequest}
  {start : Store} {h h₁ h₂ : List (Move api Store ι)} {finish : Pool api Store ι Reply}
  {v : Move api Store ι} {id : String} {f : Custody → Custody} {c : Custody}

theorem fetched_of_mem {m₀ m : Pool api Store ι Reply} (run : Interleaves machine m₀ h m)
    {i : ι} {stored : AssetRecord}
    (hs : (⟨.selectAssetRecord id, .ok (some stored)⟩ : Event api) ∈ eventsOf i h) :
    ∃ u ∈ h, u.thread = i ∧ u.event.op = .selectAssetRecord id ∧
      u.before.db.selectAssetRecord id = some stored := by
  obtain ⟨u, hu, hthread, hevent⟩ := mem_eventsOf.mp hs
  obtain ⟨env, hexec⟩ := run.move hu
  rw [hevent] at hexec
  exact ⟨u, hu, hthread, by rw [hevent], exec_selectAssetRecord (congrArg Prod.fst hexec)⟩

theorem owner_of_mem {m₀ m : Pool api Store ι Reply} (run : Interleaves machine m₀ h m) {i : ι}
    {owner : Option String}
    (hs : (⟨.selectOwner id, .ok (some owner)⟩ : Event api) ∈ eventsOf i h) :
    ∃ u ∈ h, u.thread = i ∧ u.event.op = .selectOwner id ∧
      u.before.db.selectOwner id = some owner := by
  obtain ⟨u, hu, hthread, hevent⟩ := mem_eventsOf.mp hs
  obtain ⟨env, hexec⟩ := run.move hu
  rw [hevent] at hexec
  exact ⟨u, hu, hthread, by rw [hevent], query_ok (congrArg Prod.fst hexec)⟩

/-- An undisturbed commit finds the states its request fetched. -/
theorem Undisturbed.states_eq (hu : Undisturbed requests h)
    (run : Interleaves machine (AssetRequest.pool app requests start) h finish)
    (hh : h = h₁ ++ v :: h₂) (hf : custodyWrite v.event = some (id, f))
    (hc : v.before.db.custody id = some c) {stored : AssetRecord}
    (hs : (⟨.selectAssetRecord id, .ok (some stored)⟩ : Event api) ∈ eventsOf v.thread h₁) :
    stored.currentState = c.currentState ∧ stored.previousState = c.previousState := by
  obtain ⟨_, run₁, _⟩ := run.cut hh
  obtain ⟨u, humem, hthread, hop, hstored⟩ := fetched_of_mem run₁ hs
  obtain ⟨c₀, hc₀, -, hcurrent, hprevious⟩ := Db.custody_of_selectAssetRecord hstored
  have hstates := (hu.fetched h₁ v h₂ hh id f hf u humem hthread c₀ c hc₀ hc).states hop
  obtain ⟨h₁, h₂⟩ := Prod.mk.inj hstates
  exact ⟨hcurrent.symm.trans h₁.symm, hprevious.symm.trans h₂.symm⟩

/-- And a transfer finds the owner it read. -/
theorem Undisturbed.owner_eq (hu : Undisturbed requests h)
    (run : Interleaves machine (AssetRequest.pool app requests start) h finish)
    (hh : h = h₁ ++ v :: h₂) (hf : custodyWrite v.event = some (id, f))
    (hc : v.before.db.custody id = some c) {call : TransferCall}
    (hcall : requests v.thread = .transfer call) {owner : Option String}
    (hs : (⟨.selectOwner id, .ok (some owner)⟩ : Event api) ∈ eventsOf v.thread h₁) :
    c.ownerId = owner := by
  obtain ⟨_, run₁, _⟩ := run.cut hh
  obtain ⟨u, humem, hthread, hop, howner⟩ := owner_of_mem run₁ hs
  obtain ⟨c₀, hc₀, hread⟩ := Db.custody_of_selectOwner howner
  have hagrees := hu.fetched h₁ v h₂ hh id f hf u humem hthread c₀ c hc₀ hc
  rw [hcall] at hagrees
  exact (hagrees.owner hop).trans hread

/-- The transition an action was checked on is one from the stored states. -/
theorem WriteRequest.Writes.allowed {q : WriteRequest} {required : RequiredHeaders}
    {stored : AssetRecord} {w : PersistAction} (hw : q.Writes required stored w)
    (hcurrent : stored.currentState = c.currentState)
    (hprevious : stored.previousState = c.previousState)
    (hnamed : q.act = .recover → ∀ target, q.payload.previousState = some target →
      c.previousState = some target) :
    nextStateForActionWithPrevious c.currentState q.act c.previousState =
      some w.nextRecord.currentState := by
  have ht := hw.transition
  rw [hcurrent] at ht
  by_cases hr : q.act = .recover
  · rw [← ht, ← hprevious]
    unfold withPrevious
    split
    · next hsome =>
      obtain ⟨target, htarget⟩ := Option.isSome_iff_exists.mp hsome
      rw [htarget, hprevious, hnamed hr target htarget]
    · rfl
  · rw [nextState_of_not_recover hr, ht]

theorem TransferCall.Owns.allowed {call : TransferCall} {stored : AssetRecord} {owner : String}
    (howns : call.Owns stored owner) (hcurrent : stored.currentState = c.currentState) :
    nextStateForActionWithPrevious c.currentState .transfer c.previousState =
      some .transferred := by
  rw [← hcurrent]
  cases howns.state with
  | inl hsold =>
      rw [hsold]
      rfl
  | inr htransferred =>
      rw [htransferred]
      rfl

theorem commit_lawful (run : Interleaves machine (AssetRequest.pool app requests start) h finish)
    (hu : Undisturbed requests h) (hh : h = h₁ ++ v :: h₂)
    (hf : custodyWrite v.event = some (id, f)) (hc : v.before.db.custody id = some c) :
    Lawful (requests v.thread) (eventsOf v.thread h₁) id f c := by
  have hstates : ∀ stored,
      (⟨.selectAssetRecord id, .ok (some stored)⟩ : Event api) ∈ eventsOf v.thread h₁ →
      stored.currentState = c.currentState ∧ stored.previousState = c.previousState :=
    fun stored hs => hu.states_eq run hh hf hc hs
  have howner : ∀ call, requests v.thread = .transfer call → ∀ owner,
      (⟨.selectOwner id, .ok (some owner)⟩ : Event api) ∈ eventsOf v.thread h₁ →
      c.ownerId = owner :=
    fun call hcall owner hs => hu.owner_eq run hh hf hc hcall hs
  have hcall := run.calls (fun i => (requests i).handle_meets app) hh
  have hnamed := hu.named v (hh ▸ List.mem_append_right _ (List.mem_cons_self ..)) id f hf
  have hfetched : ∀ a stored,
      (⟨.selectAssetRecord a, .ok (some stored)⟩ : Event api) ∈ eventsOf v.thread h₁ →
      stored.assetId = a := by
    intro a stored hs
    obtain ⟨_, run₁, _⟩ := run.cut hh
    obtain ⟨u, -, -, -, hstored⟩ := fetched_of_mem run₁ hs
    exact Db.selectAssetRecord_assetId hstored
  have hcommit := AssetRequest.commit_of_calls hcall hf
  generalize eventsOf v.thread h₁ = log at *
  generalize requests v.thread = r at *
  cases hcommit with
  | @write q required stored w rest hw hrest =>
      have hmem : (⟨.selectAssetRecord q.assetId, .ok (some stored)⟩ : Event api) ∈
          q.start required stored ++ rest := by simp [WriteRequest.start]
      rw [← hfetched _ _ hmem] at hmem
      obtain ⟨hcurrent, hprevious⟩ := hstates stored hmem
      refine ⟨?_, hstates, fun call hcall => by cases hcall⟩
      exact hw.allowed hcurrent hprevious fun hr target htarget =>
        hnamed q rfl hr target htarget c hc
  | @transfer call stored owner epoch message rest howns ht hrest =>
      have hmem : (⟨.selectAssetRecord call.assetId, .ok (some stored)⟩ : Event api) ∈
          call.checked stored owner epoch ++ rest := by
        simp [TransferCall.checked, TransferCall.start]
      have hread : (⟨.selectOwner call.assetId, .ok (some (some owner))⟩ : Event api) ∈
          call.checked stored owner epoch ++ rest := by
        simp [TransferCall.checked, TransferCall.start]
      obtain ⟨hcurrent, -⟩ := hstates stored hmem
      refine ⟨howns.allowed hcurrent, hstates, ?_⟩
      intro call' hsame
      cases hsame
      rw [howner call rfl _ hread, howns.actor]

/-- What a request read before another's commit agrees with what that commit has left. -/
theorem commit_kept (run : Interleaves machine (AssetRequest.pool app requests start) h finish)
    (hu : Undisturbed requests h) {h₃ h₄ : List (Move api Store ι)} {u w : Move api Store ι}
    (hh : h = h₁ ++ u :: (h₂ ++ w :: (h₃ ++ v :: h₄))) (hthread : u.thread = v.thread)
    (hnone : ∀ x ∈ h₃, ∀ k, custodyWrite x.event ≠ some (id, k))
    (hf : custodyWrite v.event = some (id, f)) {c' : Custody}
    (hc : u.before.db.custody id = some c) (hc' : w.after.db.custody id = some c') :
    (requests v.thread).Agrees id u.event.op c c' := by
  have hlast : h = (h₁ ++ u :: h₂) ++ w :: (h₃ ++ v :: h₄) := by simp [hh]
  have hbetween : v.before.db.custody id = w.after.db.custody id :=
    custodyView.get_between run hlast hnone
  have hsplit : h = (h₁ ++ u :: (h₂ ++ w :: h₃)) ++ v :: h₄ := by simp [hh]
  exact hu.fetched _ v h₄ hsplit id f hf u (by simp) hthread c c' hc (hbetween.trans hc')

/-- In every interleaving whose commits are undisturbed, every commit is lawful, retired
assets stay retired, only governance unfreezes, and no commit is overwritten by one that
has not seen it. -/
theorem undisturbed_safe
    (run : Interleaves machine (AssetRequest.pool app requests start) h finish)
    (hu : Undisturbed requests h) : SafeHistory requests h := by
  have hlawful : ∀ h₁ v h₂, h = h₁ ++ v :: h₂ → ∀ id f, custodyWrite v.event = some (id, f) →
      ∀ c, v.before.db.custody id = some c →
        Lawful (requests v.thread) (eventsOf v.thread h₁) id f c :=
    fun h₁ v h₂ hh id f hf c hc => commit_lawful run hu hh hf hc
  refine ⟨hlawful, fun v hv id c hc ht => ?_, fun v hv id c hc hd => ?_, ?_⟩
  · obtain hsame | ⟨f, hf, -⟩ := custodyView.move_cases run hv id
    · exact hsame.trans hc
    · obtain ⟨h₁, h₂, hh⟩ := List.append_of_mem hv
      have hallowed := (hlawful h₁ v h₂ hh id f hf c hc).allowed
      rw [nextState_isTerminal ht] at hallowed
      cases hallowed
  · obtain hsame | ⟨f, hf, -⟩ := custodyView.move_cases run hv id
    · exact .inl (hsame.trans hc)
    · obtain ⟨h₁, h₂, hh⟩ := List.append_of_mem hv
      have hallowed := (hlawful h₁ v h₂ hh id f hf c hc).allowed
      rw [hd] at hallowed
      obtain hr | hr | hr | hr := nextState_of_disputed hallowed <;>
        exact .inr (by rw [hr]; rfl)
  · intro h₁ u h₂ w h₃ v h₄ hh hthread id f g _ hnone hf c c' hc hc'
    exact commit_kept run hu hh hthread hnone hf hc hc'

/-- A look at an asset is one of the two operations that change nothing. -/
theorem AssetRequest.agrees_of_same {r : AssetRequest} {op : Op} {c' : Custody}
    (hsame : op = .selectAssetRecord id ∨ op = .selectOwner id → c' = c) : r.Agrees id op c c' := by
  constructor
  · intro hop
    rw [hsame (.inl hop)]
  · intro hlook
    cases r with
    | transfer call => rw [hsame (.inr hlook)]
    | write q => rw [hsame (.inl hlook.1)]

/-- Requests between whose look at the asset and commit nobody else commits to it are
undisturbed. -/
theorem undisturbed_of_isolated
    (run : Interleaves machine (AssetRequest.pool app requests start) h finish)
    (hisolated : ∀ h₁ u h₂ v h₃, h = h₁ ++ u :: (h₂ ++ v :: h₃) → u.thread = v.thread →
      ∀ id f, u.event.op = .selectAssetRecord id ∨ u.event.op = .selectOwner id →
        custodyWrite v.event = some (id, f) → ∀ w ∈ h₂, ∀ g, custodyWrite w.event ≠ some (id, g))
    (hnamed : ∀ i q, requests i = .write q → q.act = .recover → q.payload.previousState = none) :
    Undisturbed requests h := by
  refine ⟨fun h₁ v h₃ hh id f hf u hu hthread c c' hc hc' => ?_, ?_⟩
  · obtain ⟨h₁, h₂, rfl⟩ := List.append_of_mem hu
    rw [List.append_assoc, List.cons_append] at hh
    apply AssetRequest.agrees_of_same
    intro hop
    have hbetween : v.before.db.custody id = u.after.db.custody id :=
      custodyView.get_between run hh (hisolated h₁ u h₂ v h₃ hh hthread id f hop hf)
    obtain ⟨env, hexec⟩ := run.move (by rw [hh]; simp : u ∈ h)
    have hexec : (machine.exec env u.event.op u.before).2 = u.after := congrArg Prod.snd hexec
    have hafter : u.after = u.before := by
      obtain hop | hop := hop <;> rw [hop] at hexec <;> exact hexec.symm.trans (query_state _)
    rw [hafter, hc, hc'] at hbetween
    exact Option.some.inj hbetween
  · intro v _ id f _ q hq hr target htarget
    rw [hnamed _ q hq hr] at htarget
    cases htarget

end Runs

section Sample

/-- The owner consumes the sold asset while the moderator marks it destructed. -/
def consumeOrDestroy : Bool → AssetRequest
  | true => .write (.action
      { assetId := "a"
        action := .consume
        actor := { actorId := "owner", actorRole := .consumer }
        headers := .ofList
          [("X-Trace-Id", "11111111-1111-1111-1111-111111111111"), ("X-Idempotency-Key", "k2")]
        payload := {}
        draws := { eventId := .repeated 2 } })
  | false => .write (.action (moderatorCall .markDestructed "k1" 1 {}))

def consumeOrDestroyRun (turns : List Bool) :
    List (Move api Store Bool) × Pool api Store Bool Reply :=
  (AssetRequest.pool default consumeOrDestroy soldStore).schedule machine
    (turns.map fun i => (i, {}))

theorem consumeOrDestroyRun_interleaves (turns : List Bool) :
    Interleaves machine (AssetRequest.pool default consumeOrDestroy soldStore)
      (consumeOrDestroyRun turns).1 (consumeOrDestroyRun turns).2 :=
  schedule_interleaves ..

/-- The consumer comes first, and the moderator is refused. -/
theorem undisturbed_safe_consumed :
    SafeHistory consumeOrDestroy (consumeOrDestroyRun [true, true, false, true, false]).1 := by
  have run := consumeOrDestroyRun_interleaves [true, true, false, true, false]
  refine undisturbed_safe run (undisturbed_of_isolated run ?_ ?_)
  · intro h₁ u h₂ v h₃ hh _ id f _ hf w hw g hg
    have hone : (consumeOrDestroyRun [true, true, false, true, false]).1.countP
        (fun v => (custodyWrite v.event).isSome) = 1 := by decide
    have hpos : 0 < h₂.countP (fun v => (custodyWrite v.event).isSome) :=
      List.countP_pos_iff.mpr ⟨w, hw, by rw [hg]; rfl⟩
    rw [hh] at hone
    simp only [List.countP_append, List.countP_cons, hf] at hone
    simp at hone
    omega
  · intro i q hq hr
    cases i <;> cases hq <;> cases hr

/-- The asset is marked destructed after the consumer has fetched it, and is
consumed all the same. -/
theorem destructed_asset_is_consumed :
    ¬∀ (ι : Type) (_ : DecidableEq ι) (app : AppState) (requests : ι → AssetRequest)
      (start : Store) (h : List (Move api Store ι)) (finish : Pool api Store ι Reply),
      Interleaves machine (AssetRequest.pool app requests start) h finish →
        SafeHistory requests h := by
  intro hall
  have hsafe := hall Bool _ default consumeOrDestroy soldStore _ _
    (consumeOrDestroyRun_interleaves [true, true, false, false, false, true])
  have hbad : ∃ v ∈ (consumeOrDestroyRun [true, true, false, false, false, true]).1,
      (∃ c ∈ v.before.db.custody "a", c.currentState.isTerminal = true) ∧
        v.after.db.custody "a" ≠ v.before.db.custody "a" := by decide
  obtain ⟨v, hv, ⟨c, hc, ht⟩, hne⟩ := hbad
  exact hne ((hsafe.terminal v hv "a" c hc ht).trans hc.symm)

end Sample

end RcProtocol
