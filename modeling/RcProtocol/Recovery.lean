import RcProtocol.Api.AssetRequest
import RcProtocol.Library.Service

/-!
Freezing and recovering an asset. A recovery takes the state to return to from
the row, where the freeze left it, but a `previous_state` in the body comes
first: recoveries are faithful exactly while no body names another state.
-/

namespace RcProtocol
open Library

abbrev ActionEntry := Served api Store ActionCall Reply

section Recovery
variable {app : AppState} {start s : Store} {id : String} {h : List ActionEntry}
  {e g : ActionEntry} {p : AssetState}

def Freezes (id : String) (e : ActionEntry) : Prop :=
  e.request.assetId = id ∧ e.request.action = .freeze ∧ Committed e.log

def Recovers (id : String) (e : ActionEntry) : Prop :=
  e.request.assetId = id ∧ e.request.action = .recover ∧ Committed e.log

instance : DecidablePred (Freezes id) := fun _ => inferInstanceAs (Decidable (_ ∧ _ ∧ _))

instance : DecidablePred (Recovers id) := fun _ => inferInstanceAs (Decidable (_ ∧ _ ∧ _))

/-- The state a disputed asset was frozen from: the one before the last freeze of
the history, or the one it was stored with when the history began. -/
inductive FrozenFrom (start : Store) (id : String) (h : List ActionEntry) : AssetState → Prop
  | freeze {f : ActionEntry} {c : Custody} (hf : Latest (Freezes id) h f)
      (hc : f.before.db.custody id = some c) : FrozenFrom start id h c.currentState
  | stored {c : Custody} {p : AssetState} (hnone : ∀ f ∈ h, ¬Freezes id f)
      (hc : start.db.custody id = some c) (hd : c.currentState = .disputed)
      (hp : c.previousState = some p) : FrozenFrom start id h p

/-- Every recovery of the asset that goes through returns to the state it was
frozen from. -/
def RestoresFrozenState (start : Store) (id : String) (h : List ActionEntry) : Prop :=
  ∀ h₁ e h₂, h = h₁ ++ e :: h₂ → Recovers id e →
    ∃ c, e.after.db.custody id = some c ∧ FrozenFrom start id h₁ c.currentState

/-- A recovery that goes through under a `previous_state` names the one in the row. -/
def NamesStored (id : String) (e : ActionEntry) : Prop :=
  Recovers id e → ∀ target, e.request.payload.previousState = some target →
    ∀ c, e.before.db.custody id = some c → c.previousState = some target

theorem FrozenFrom.append (hp : FrozenFrom start id h p) (hg : ¬Freezes id g) :
    FrozenFrom start id (h ++ [g]) p := by
  cases hp with
  | freeze hf hc => exact .freeze (hf.append hg) hc
  | stored hnone hc hd hp =>
      refine .stored (fun f hf => ?_) hc hd hp
      obtain hf | hf := List.mem_append.mp hf
      · exact hnone f hf
      · obtain rfl := List.mem_singleton.mp hf
        exact hg

/-- While the asset is disputed, its row remembers what it was frozen from. -/
def Remembers (start : Store) (id : String) (h : List ActionEntry) (s : Store) : Prop :=
  ∀ c, s.db.custody id = some c → c.currentState = .disputed →
    ∀ p, c.previousState = some p → FrozenFrom start id h p

theorem remembers_serve (hs : Remembers start id h s) (call : ActionCall)
    (env : Nat → machine.Env) :
    Remembers start id (h ++ [machine.serve (ActionCall.handle app) call env s])
      (machine.serve (ActionCall.handle app) call env s).after := by
  intro c hc hd p hp
  have hkept : ∀ c, s.db.custody id = some c → c.currentState = .disputed →
      c.previousState = some p →
      ¬Freezes id (machine.serve (ActionCall.handle app) call env s) →
      FrozenFrom start id (h ++ [machine.serve (ActionCall.handle app) call env s]) p :=
    fun c hc hd hp hf => (hs c hc hd p hp).append hf
  obtain ⟨hnot, hsame⟩ | ⟨f, hf, hcommit, hnext⟩ :=
    AssetRequest.run_commit app (.write (.action call)) env s
  · exact hkept c ((hsame id).symm.trans hc) hd hp fun hf => hnot hf.2.2
  · have hc := (hnext id).symm.trans hc
    by_cases hid : (AssetRequest.write (.action call)).assetId = id
    · cases hf with
      | @write _ _ stored w hw hstored =>
          obtain ⟨c₀, hc₀, -, hcurrent, -⟩ := Db.custody_of_selectAssetRecord hstored
          have hc₀ : s.db.custody id = some c₀ := hid ▸ hc₀
          rw [if_pos hid, hc₀] at hc
          obtain rfl := Option.some.inj hc
          have hd : w.nextRecord.currentState = .disputed := hd
          have hp : w.nextRecord.previousState = some p := hp
          have ht := hw.transition
          rw [hd] at ht
          rw [hw.previousState, if_pos hd, ← hcurrent] at hp
          obtain rfl := Option.some.inj hp
          exact .freeze (latest_append_self ⟨hid, (nextState_disputed.mp ht).1, hcommit⟩) hc₀
    · rw [if_neg hid] at hc
      exact hkept c hc hd hp fun hf => hid hf.1

theorem serves_remembers (run : Serves machine (ActionCall.handle app) start h s) :
    Remembers start id h s := by
  induction run with
  | start =>
      intro c hc hd p hp
      exact .stored (fun _ hf => absurd hf List.not_mem_nil) hc hd hp
  | step run call env ih => exact remembers_serve ih call env

/-- A recovery that goes through found the asset disputed, and returns to the
state in the row when the body names no other. -/
theorem recovers_stored (run : Serves machine (ActionCall.handle app) start h s) (he : e ∈ h)
    (hr : Recovers id e) (hstored : NamesStored id e) :
    ∃ c c', e.before.db.custody id = some c ∧ e.after.db.custody id = some c' ∧
      c.currentState = .disputed ∧ c.previousState = some c'.currentState := by
  obtain ⟨env, he⟩ := run.entry he
  have hnamed := hstored hr
  obtain ⟨hid, hrecover, hcommit⟩ := hr
  rw [he] at hcommit
  obtain ⟨hnot, -⟩ | ⟨f, hf, -, hnext⟩ :=
    AssetRequest.run_commit app (.write (.action e.request)) env e.before
  · exact absurd hcommit hnot
  cases hf with
  | @write _ _ _ w hw hfetched =>
      obtain ⟨c, hc, -, hcurrent, hprevious⟩ := Db.custody_of_selectAssetRecord hfetched
      have hc : e.before.db.custody id = some c := hid ▸ hc
      have hafter : e.after.db.custody id = some (w.custody c) := by
        rw [he]
        refine (hnext id).trans ?_
        rw [if_pos (show (AssetRequest.write (.action e.request)).assetId = id from hid), hc,
          Option.map_some]
      have ht := hw.transition
      rw [show (WriteRequest.action e.request).act = .recover from hrecover, ← hcurrent] at ht
      refine ⟨c, _, hc, hafter, (nextState_recover.mp ht).1, ?_⟩
      unfold withPrevious at ht
      split at ht
      · next hsome =>
        obtain ⟨target, htarget⟩ := Option.isSome_iff_exists.mp hsome
        rw [htarget] at ht
        obtain ⟨-, heq, -⟩ := nextState_recover.mp ht
        obtain rfl := Option.some.inj heq
        exact hnamed _ htarget c hc
      · obtain ⟨-, heq, -⟩ := nextState_recover.mp ht
        exact hprevious.trans heq

/-- Recoveries are faithful in every run in which no body names another state
than the stored one. -/
theorem recover_restores_frozen_state
    (run : Serves machine (ActionCall.handle app) start h s)
    (hstored : ∀ e ∈ h, NamesStored id e) : RestoresFrozenState start id h := by
  intro h₁ e h₂ hh hr
  have he : e ∈ h := hh ▸ List.mem_append_right _ (List.mem_cons_self ..)
  obtain ⟨c, c', hc, hc', hd, hp⟩ := recovers_stored run he hr (hstored e he)
  exact ⟨c', hc', serves_remembers (run.split hh) c hc hd _ hp⟩

/-- A history that ends in a freeze settles what the asset was frozen from. -/
theorem FrozenFrom.eq_last (hp : FrozenFrom start id (h ++ [g]) p) (hg : Freezes id g) :
    (g.before.db.custody id).map (·.currentState) = some p := by
  cases hp with
  | freeze hf hc =>
      obtain rfl := hf.eq_last hg
      rw [hc, Option.map_some]
  | stored hnone _ _ _ =>
      exact absurd hg (hnone g (List.mem_append_right _ (List.mem_singleton_self g)))

end Recovery

section Sample

/-- A sold asset. -/
def soldStore : Store where
  db :=
    { brands := ["brand"]
      assets := .single
          { assetId := "a", brandId := "brand", currentState := .legallySold } }

def moderatorCall (action : AssetAction) (key : String) (digit : Nat)
    (payload : AssetActionRequest) : ActionCall where
  assetId := "a"
  action := action
  actor := { actorId := "moderator", actorRole := .moderator }
  headers := .ofList
    [("X-Trace-Id", "11111111-1111-1111-1111-111111111111"), ("X-Idempotency-Key", key)]
  payload := payload
  draws := { eventId := .repeated digit }

/-- The asset is frozen, and recovered under the body `payload`. -/
def recoveryRequests (payload : AssetActionRequest) : List (ActionCall × (Nat → machine.Env)) :=
  [(moderatorCall .freeze "k1" 1 {}, fun _ => {}),
    (moderatorCall .recover "k2" 2 payload, fun _ => {})]

def recoveryRun (payload : AssetActionRequest) : List ActionEntry :=
  machine.serveAll (ActionCall.handle default) soldStore (recoveryRequests payload)

theorem recoveryRun_serves (payload : AssetActionRequest) :
    ∃ s, Serves machine (ActionCall.handle default) soldStore (recoveryRun payload) s :=
  serveAll_serves soldStore (recoveryRequests payload)

/-- The state the asset was frozen from may also be named. -/
theorem recover_restores_frozen_state_sold :
    (∃ e ∈ recoveryRun { previousState := some .legallySold }, Recovers "a" e) ∧
      RestoresFrozenState soldStore "a" (recoveryRun { previousState := some .legallySold }) := by
  obtain ⟨s, run⟩ := recoveryRun_serves { previousState := some .legallySold }
  refine ⟨by decide, recover_restores_frozen_state run fun e he hrecovers target ht c hc => ?_⟩
  obtain rfl | rfl := by simpa [recoveryRun, recoveryRequests, Machine.serveAll] using he
  · cases hrecovers.2.1
  · cases ht
    have hprevious := congrArg (Option.map (·.previousState)) hc
    exact (Option.some.inj (hprevious.symm.trans (by decide)))

/-- A named state wins over the one the asset was frozen from. -/
theorem recover_takes_named_state :
    ¬∀ (app : AppState) (start s : Store) (id : String) (h : List ActionEntry),
      Serves machine (ActionCall.handle app) start h s → RestoresFrozenState start id h := by
  intro hall
  obtain ⟨s, run⟩ := recoveryRun_serves { previousState := some .activated }
  obtain ⟨c, hc, hfrozen⟩ := hall _ _ _ "a" _ run [_] _ [] rfl (by decide)
  have hbefore := FrozenFrom.eq_last (h := []) hfrozen (by decide)
  have hafter := congrArg (Option.map (·.currentState)) hc
  rw [Option.map_some, ← hbefore] at hafter
  exact absurd hafter (by decide)

end Sample

end RcProtocol
