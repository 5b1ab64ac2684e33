import RcProtocol.ChildTag
import RcProtocol.Ownership

/-!
When an asset has an owner. Nobody owns it before its sale or after its
consumption, and a frozen asset is owned as it was before the freeze; the previous
state is there for the freeze alone.
-/

namespace RcProtocol
open Library

namespace AssetState

/-- Somebody holds the asset. -/
def isHeld : AssetState → Bool
  | legallySold | transferred => true
  | _ => false

/-- Nobody owns the asset, yet or any more. -/
def isFree : AssetState → Bool
  | preMinted | factoryLogged | unassigned | rotatingKeys | entangledPending | activated
  | consumed | legacy => true
  | _ => false

theorem isFree_or_isHeld {s : AssetState} (ht : s.isTerminal = false) (hd : s ≠ disputed) :
    s.isFree = true ∨ s.isHeld = true := by
  cases s <;> first | exact .inl rfl | exact .inr rfl | exact absurd rfl hd | cases ht

theorem not_isHeld_of_isFree {s : AssetState} (h : s.isFree = true) : s.isHeld = false := by
  cases s <;> first | rfl | cases h

end AssetState

/-- What an action that neither freezes nor recovers can do: keep an asset unowned,
give it to somebody, retire it, or mark it. -/
theorem nextState_owned {current target : AssetState} {action : AssetAction}
    (hd : target ≠ .disputed)
    (h : nextStateForActionWithPrevious current action none = some target) :
    (current.isFree = true ∧ target.isFree = true ∧ action ∈
        [.blindLog, .stockIn, .activateRotateKeys, .activateEntangle, .activateConfirm]) ∨
      (target.isHeld = true ∧ (action = .legalSell ∨ action = .transfer)) ∨
      (target.isFree = true ∧ (action = .consume ∨ action = .legacy)) ∨
      (target.isFree = false ∧ target.isHeld = false ∧ action ∈
        [.markTampered, .markCompromised, .markDestructed]) := by
  cases current <;> cases action <;> first
    | (cases h; done)
    | (obtain rfl := Option.some.inj h; first | exact absurd rfl hd | decide)

namespace Custody
variable (c : Custody)

structure WellFormed : Prop where
  free : c.currentState.isFree = true → c.ownerId = none
  held : c.currentState.isHeld = true → ∃ owner, c.ownerId = some owner ∧ owner ≠ ""
  disputed : c.currentState = .disputed →
    (c.ownerId.isSome = true ↔
      c.previousState = some .legallySold ∨ c.previousState = some .transferred)
  previous : c.previousState.isSome = true ↔ c.currentState = .disputed

/-- The state that decides on the owner: of a frozen asset the one before. -/
def base : AssetState := c.previousState.getD c.currentState

/-- What every request keeps of a row. -/
structure WellKept : Prop where
  previous : c.previousState.isSome = true ↔ c.currentState = .disputed
  live : ∀ p, c.previousState = some p → p.isTerminal = false ∧ p ≠ .disputed
  named : ∀ owner, c.ownerId = some owner → owner ≠ ""
  free : c.base.isFree = true → c.ownerId = none
  held : c.base.isHeld = true → c.ownerId.isSome = true

variable {c}

theorem WellKept.previous_none (h : c.WellKept) (hd : c.currentState ≠ .disputed) :
    c.previousState = none := by
  cases hp : c.previousState with
  | none => rfl
  | some p => exact absurd (h.previous.mp (by rw [hp, Option.isSome_some])) hd

theorem WellKept.base_eq (h : c.WellKept) (hd : c.currentState ≠ .disputed) :
    c.base = c.currentState := by
  rw [base, h.previous_none hd, Option.getD_none]

theorem WellKept.wellFormed (h : c.WellKept) : c.WellFormed := by
  refine ⟨fun hf => ?_, fun hs => ?_, fun hd => ?_, h.previous⟩
  · have hd : c.currentState ≠ .disputed := by
      intro hd
      rw [hd] at hf
      cases hf
    exact h.free (by rw [h.base_eq hd, hf])
  · have hd : c.currentState ≠ .disputed := by
      intro hd
      rw [hd] at hs
      cases hs
    obtain ⟨owner, howner⟩ := Option.isSome_iff_exists.mp (h.held (by rw [h.base_eq hd, hs]))
    exact ⟨owner, howner, h.named owner howner⟩
  · obtain ⟨p, hp⟩ := Option.isSome_iff_exists.mp (h.previous.mpr hd)
    have hbase : c.base = p := by rw [base, hp, Option.getD_some]
    obtain ⟨hterminal, hnot⟩ := h.live p hp
    rw [hp]
    constructor
    · intro howner
      obtain hf | hs := AssetState.isFree_or_isHeld hterminal hnot
      · rw [h.free (by rw [hbase, hf])] at howner
        cases howner
      · cases p <;> first | exact .inl rfl | exact .inr rfl | cases hs
    · rintro (hs | hs)
      all_goals
        obtain rfl := Option.some.inj hs
        exact h.held (by rw [hbase]; rfl)

/-- A row that is not frozen: its own state decides. -/
theorem wellKept_of_not_disputed {current : AssetState} {owner : Option String} {brandId : String}
    (hd : current ≠ .disputed) (hnamed : ∀ name, owner = some name → name ≠ "")
    (hfree : current.isFree = true → owner = none)
    (hheld : current.isHeld = true → owner.isSome = true) :
    WellKept ⟨brandId, current, none, owner⟩ :=
  ⟨⟨nofun, fun h => absurd h hd⟩, nofun, hnamed, hfree, hheld⟩

section Target
variable {target : AssetState} {brandId name : String}

theorem wellKept_free (hd : target ≠ .disputed) (hfree : target.isFree = true) :
    WellKept ⟨brandId, target, none, none⟩ := by
  apply wellKept_of_not_disputed hd
  · intro name hname
    cases hname
  · exact fun _ => rfl
  · intro hheld
    rw [AssetState.not_isHeld_of_isFree hfree] at hheld
    cases hheld

theorem wellKept_held (hd : target ≠ .disputed) (hheld : target.isHeld = true) (hname : name ≠ "") :
    WellKept ⟨brandId, target, none, some name⟩ := by
  apply wellKept_of_not_disputed hd
  · intro owner howner
    obtain rfl := Option.some.inj howner
    exact hname
  · intro hfree
    rw [AssetState.not_isHeld_of_isFree hfree] at hheld
    cases hheld
  · exact fun _ => rfl

/-- A freeze keeps the owner, and the state that decides on it. -/
theorem WellKept.freeze (h : c.WellKept) (hd : c.currentState ≠ .disputed)
    (ht : c.currentState.isTerminal = false) :
    WellKept ⟨brandId, .disputed, some c.currentState, c.ownerId⟩ := by
  have hbase := h.base_eq hd
  refine ⟨⟨fun _ => rfl, fun _ => rfl⟩, ?_, h.named, ?_, ?_⟩
  · intro p hp
    obtain rfl := Option.some.inj hp
    exact ⟨ht, hd⟩
  · intro hfree
    exact h.free (by rw [hbase]; exact hfree)
  · intro hheld
    exact h.held (by rw [hbase]; exact hheld)

/-- A recovery keeps the owner, in a state that is owned like the one before the freeze. -/
theorem WellKept.recover (h : c.WellKept) {p : AssetState} (hfrom : c.previousState = some p)
    (hd : target ≠ .disputed) (halike : target.isHeld = p.isHeld) :
    WellKept ⟨brandId, target, none, c.ownerId⟩ := by
  have hbase : c.base = p := by rw [base, hfrom, Option.getD_some]
  refine wellKept_of_not_disputed hd h.named (fun hfree => ?_) fun hheld => ?_
  · obtain hfree' | hheld := AssetState.isFree_or_isHeld (h.live p hfrom).1 (h.live p hfrom).2
    · exact h.free (by rw [hbase, hfree'])
    · rw [AssetState.not_isHeld_of_isFree hfree, hheld] at halike
      cases halike
  · exact h.held (by rw [hbase, ← halike, hheld])

/-- A mark keeps the owner, whoever that is. -/
theorem WellKept.mark (h : c.WellKept) (hd : target ≠ .disputed) (hfree : target.isFree = false)
    (hheld : target.isHeld = false) : WellKept ⟨brandId, target, none, c.ownerId⟩ := by
  apply wellKept_of_not_disputed hd h.named
  · intro hfree'
    rw [hfree] at hfree'
    cases hfree'
  · intro hheld'
    rw [hheld] at hheld'
    cases hheld'

/-- Nobody owns an asset that is not yet sold. -/
theorem WellKept.unowned (h : c.WellKept) (hfree : c.currentState.isFree = true) :
    c.ownerId = none := by
  apply h.free
  rw [h.base_eq, hfree]
  intro hd
  rw [hd] at hfree
  cases hfree

end Target

end Custody

section Writes
variable {c : Custody} {q : WriteRequest} {required : RequiredHeaders} {stored : AssetRecord}
  {w : PersistAction}

/-- The owner a protocol write leaves, by its action. -/
theorem WriteRequest.Writes.owner (hw : q.Writes required stored w) (previous : Option String) :
    w.owner previous =
      match q.act with
      | .legalSell => q.payload.buyerId
      | .transfer => some q.actor.actorId
      | .consume | .legacy => none
      | _ => previous := by
  rw [PersistAction.owner, hw.applied.event_eq]
  rfl

/-- A sale that is taken names a buyer. -/
theorem WriteRequest.Valid.buyer {buyer : String} (h : q.Valid) (ha : q.act = .legalSell)
    (hb : q.payload.buyerId = some buyer) : buyer ≠ "" := by
  cases q with
  | action call =>
      rintro rfl
      have hb : call.payload.buyerId = some "" := hb
      exact h ⟨ha, by rw [hb]; rfl⟩
  | activate => cases ha
  | activateEntangle => cases ha

/-- A request with a body its handler does not take ends at once. -/
theorem WriteRequest.handle_of_not_valid {app : AppState} (h : ¬q.Valid) :
    ∃ reply, q.handle app = .done reply := by
  cases q with
  | action call => exact ⟨_, if_pos (not_not.mp h)⟩
  | activate assetId actor headers payload draws => exact ⟨_, if_pos (not_not.mp h)⟩
  | activateEntangle => exact absurd trivial h

/-- What a recovery may name: a state that is owned like the one in the row. -/
def WriteRequest.NamesAlike (q : WriteRequest) (c : Custody) : Prop :=
  q.act = .recover → ∀ target p, q.payload.previousState = some target →
    c.previousState = some p → target.isTerminal = false → target ≠ .disputed →
      target.isHeld = p.isHeld

theorem Custody.WellKept.write (hc : c.WellKept) (hw : q.Writes required stored w)
    (hcurrent : c.currentState = stored.currentState)
    (hprevious : c.previousState = stored.previousState) (hvalid : q.Valid)
    (hnames : q.NamesAlike c) (hactor : q.act = .transfer → q.actor.actorId ≠ "") :
    (w.custody c).WellKept := by
  have ht := hw.transition
  have hp := hw.previousState
  have howner := hw.owner c.ownerId
  rw [← hcurrent] at ht hp
  unfold PersistAction.custody
  rw [hp, howner]
  generalize w.nextRecord.currentState = target at *
  by_cases hd : target = .disputed
  · subst hd
    obtain ⟨hfreeze, hterminal, hnot⟩ := nextState_disputed.mp ht
    rw [hfreeze, if_pos rfl]
    exact hc.freeze hnot hterminal
  rw [if_neg hd]
  by_cases hr : q.act = .recover
  · rw [hr] at ht ⊢
    obtain ⟨hfrozen, hnamed, hterminal, hnot⟩ := nextState_recover.mp ht
    obtain ⟨p, hfrom⟩ := Option.isSome_iff_exists.mp (hc.previous.mpr hfrozen)
    apply hc.recover hfrom hd
    unfold withPrevious at hnamed
    split at hnamed
    · exact hnames hr target p hnamed hfrom hterminal hnot
    · obtain rfl := Option.some.inj (hnamed.symm.trans (hprevious.symm.trans hfrom))
      rfl
  rw [nextState_of_not_recover hr none] at ht
  obtain ⟨hfree, htarget, ha⟩ | ⟨htarget, ha⟩ | ⟨htarget, ha⟩ | ⟨hfree, hheld, ha⟩ :=
    nextState_owned hd ht
  · simp only [List.mem_cons, List.not_mem_nil, or_false] at ha
    obtain ha | ha | ha | ha | ha := ha
    all_goals
      rw [ha, hc.unowned hfree]
      exact Custody.wellKept_free hd htarget
  · obtain ha | ha := ha
    · obtain ⟨buyer, hbuyer⟩ := Option.isSome_iff_exists.mp (hw.applied.buyer ha)
      have hheld := @Custody.wellKept_held _ c.brandId _ hd htarget (hvalid.buyer ha hbuyer)
      rw [← hbuyer] at hheld
      rw [ha]
      exact hheld
    · rw [ha]
      exact Custody.wellKept_held hd htarget (hactor ha)
  · obtain ha | ha := ha
    all_goals
      rw [ha]
      exact Custody.wellKept_free hd htarget
  · simp only [List.mem_cons, List.not_mem_nil, or_false] at ha
    obtain ha | ha | ha := ha
    all_goals
      rw [ha]
      exact hc.mark hd hfree hheld

end Writes

/-- No transfer changes hands here, a recovery names a state that is owned like the
stored one, and who transfers by a protocol write has a name. -/
structure KeepsForm (id : String) (e : AssetEntry) : Prop where
  transfer : ∀ call, e.request = .transfer call → call.assetId = id → ¬Committed e.log
  recover : ∀ q c, e.request = .write q → q.assetId = id → e.before.db.custody id = some c →
    q.NamesAlike c
  named : ∀ q, e.request = .write q → q.assetId = id → q.act = .transfer → q.actor.actorId ≠ ""

section Runs
variable {app : AppState} {start s : Store} {h : List AssetEntry} {e : AssetEntry} {id : String}

theorem wellKept_entry (run : Serves machine (AssetRequest.handle app) start h s) (he : e ∈ h)
    (hkeeps : KeepsForm id e) (hbefore : ∀ c, e.before.db.custody id = some c → c.WellKept) :
    ∀ c, e.after.db.custody id = some c → c.WellKept := by
  intro c hc
  obtain ⟨env, heq⟩ := run.entry he
  have hlog : e.log = (machine.run (e.request.handle app) env e.before).log := by
    rw [heq]
    rfl
  have hafter : e.after = (machine.run (e.request.handle app) env e.before).state := by
    rw [heq]
    rfl
  rw [hafter] at hc
  obtain ⟨-, hsame⟩ | ⟨f, hf, hcommitted, hnext⟩ := e.request.run_commit app env e.before
  · exact hbefore c ((hsame id).symm.trans hc)
  rw [hnext id] at hc
  by_cases hid : e.request.assetId = id
  · rw [if_pos hid] at hc
    obtain ⟨c₀, hc₀, rfl⟩ := Option.map_eq_some_iff.mp hc
    cases hq : e.request with
    | transfer call =>
        rw [hq] at hid
        exact absurd (hlog ▸ hcommitted) (hkeeps.transfer call hq hid)
    | write q =>
        rw [hq] at hid hf hcommitted
        have hid : q.assetId = id := hid
        cases hf with
        | @write _ required stored w hw hstored =>
            obtain ⟨c₁, hc₁, -, hcurrent, hprevious⟩ := Db.custody_of_selectAssetRecord hstored
            obtain rfl := Option.some.inj (hc₁.symm.trans (hid ▸ hc₀))
            have hvalid : q.Valid := by
              by_contra hnot
              obtain ⟨reply, hreply⟩ := q.handle_of_not_valid hnot
              rw [show (AssetRequest.write q).handle app = q.handle app from rfl, hreply]
                at hcommitted
              exact absurd hcommitted View.not_wrote_nil
            exact (hbefore _ hc₀).write hw hcurrent hprevious hvalid
              (hkeeps.recover q _ hq hid hc₀) (hkeeps.named q hq hid)
  · rw [if_neg hid] at hc
    exact hbefore c hc

/-- From a fresh asset on its row keeps its form, in every run of such requests. -/
theorem fresh_wellFormed (run : Serves machine (AssetRequest.handle app) start h s)
    {brandId : String} (hstart : start.db.custody id = some ⟨brandId, .preMinted, none, none⟩)
    (hkeeps : ∀ e ∈ h, KeepsForm id e) : ∀ c, s.db.custody id = some c → c.WellFormed := by
  have hkept : ∀ c, s.db.custody id = some c → c.WellKept := by
    refine run.invariant (I := fun s => ∀ c, s.db.custody id = some c → c.WellKept) ?_ ?_
    · intro c hc
      obtain rfl := Option.some.inj (hstart.symm.trans hc)
      exact Custody.wellKept_of_not_disputed nofun nofun (fun _ => rfl) nofun
    · intro e he hbefore
      exact wellKept_entry run he (hkeeps e he) hbefore
  exact fun c hc => (hkept c hc).wellFormed

end Runs

section Sample

/-- A fresh asset, with its tag and its virtual mother card. -/
def freshStore : Store where
  db :=
    { soldPairStore.db with
      assets := .single
          { assetId := "a", brandId := "brand", uid := some "04A31B2C3D4E5F",
            currentState := .preMinted } }

def saleCall : ActionCall where
  assetId := "a"
  action := .legalSell
  actor := { actorId := "clerk", actorRole := .brand, brandId := some "brand" }
  headers := .ofList
    [("X-Trace-Id", "11111111-1111-1111-1111-111111111111"), ("X-Idempotency-Key", "k3")]
  payload := { buyerId := some "owner" }
  draws := { eventId := .repeated 4 }

/-- A freeze and a recovery bring the asset to its sale. -/
def soldRequests : List (AssetRequest × (Nat → machine.Env)) :=
  [(.write (.action (moderatorCall .freeze "k1" 1 {})), fun _ => {}),
    (.write (.action (moderatorCall .recover "k2" 2 { previousState := some .activated })),
      fun _ => {}),
    (.write (.action saleCall), fun _ => {})]

/-- The same, and the buyer transfers it. -/
def transferredRequests : List (AssetRequest × (Nat → machine.Env)) :=
  soldRequests ++ [(.transfer ownTagTransfer, fun _ => ({} : Env))]

def freshRun (requests : List (AssetRequest × (Nat → machine.Env))) : List AssetEntry :=
  machine.serveAll (AssetRequest.handle transferApp) freshStore requests

theorem freshRun_serves (requests : List (AssetRequest × (Nat → machine.Env))) :
    ∃ s, Serves machine (AssetRequest.handle transferApp) freshStore (freshRun requests) s :=
  serveAll_serves ..

theorem fresh_wellFormed_sold :
    ((freshRun soldRequests).map fun e => (e.answer.status, e.after.db.custody "a")).getLast? =
        some (200, some ⟨"brand", .legallySold, none, some "owner"⟩) ∧
      ∃ s, Serves machine (AssetRequest.handle transferApp) freshStore (freshRun soldRequests) s ∧
        ∀ c, s.db.custody "a" = some c → c.WellFormed := by
  obtain ⟨s, run⟩ := freshRun_serves soldRequests
  refine ⟨by decide +kernel, s, run, fresh_wellFormed run rfl fun e he => ?_⟩
  have hfrozen : ∀ e ∈ freshRun soldRequests, ∀ c ∈ e.before.db.custody "a",
      ∀ p ∈ c.previousState, p.isHeld = false := by decide +kernel
  have hrequest : e.request ∈ (freshRun soldRequests).map (·.request) := List.mem_map_of_mem he
  rw [freshRun, serveAll_requests] at hrequest
  simp only [soldRequests, List.map_cons, List.map_nil, List.mem_cons, List.not_mem_nil,
    or_false] at hrequest
  obtain hq | hq | hq := hrequest
  all_goals
    refine ⟨fun call hc => ?_, fun q c hq' _ hc hr target p htarget hp _ _ => ?_,
      fun q hq' _ ht => ?_⟩
    · rw [hq] at hc
      cases hc
    · rw [hq] at hq'
      cases hq'
      first
        | (cases hr; done)
        | (obtain rfl := Option.some.inj htarget
           exact (hfrozen e he c hc p hp).symm)
    · rw [hq] at hq'
      cases hq'
      cases ht

/-- The first transfer leaves the state it came from in the row. -/
theorem transferred_row_keeps_previous :
    ¬∀ (app : AppState) (start s : Store) (h : List AssetEntry) (id brandId : String),
      Serves machine (AssetRequest.handle app) start h s →
        start.db.custody id = some ⟨brandId, .preMinted, none, none⟩ →
          (∀ e ∈ h, e.answer.status = 200) →
            ∀ e ∈ h, ∀ c, e.after.db.custody id = some c → c.WellFormed := by
  intro hall
  obtain ⟨s, run⟩ := freshRun_serves transferredRequests
  have hok : ∀ e ∈ freshRun transferredRequests, e.answer.status = 200 := by decide +kernel
  have hkept : ∃ e ∈ freshRun transferredRequests,
      e.after.db.custody "a" = some ⟨"brand", .transferred, some .legallySold, some "friend"⟩ := by
    decide +kernel
  obtain ⟨e, he, hc⟩ := hkept
  have hform := hall _ _ _ _ "a" "brand" run rfl hok e he _ hc
  cases hform.previous.mp rfl

end Sample

end RcProtocol
