import RcProtocol.Core.Protocol
import RcProtocol.Library.Attempts

/-!
The life of one asset under the core rule alone: any calls, each on the record the
last successful one returned. A freeze with the recovery after it is a detour, and
the six actions that bring an asset to its buyer come once each, in one order.
-/

namespace RcProtocol
open Library

/-- One call of `apply_action` on the current record. -/
structure CoreCall where
  action : AssetAction
  context : AuditContext
  eventId : Uuid

/-- The record the next call is given; a refused call has none. -/
def coreStep (record : AssetRecord) (call : CoreCall) : Option AssetRecord :=
  (applyAction record call.action call.context call.eventId).toOption.map Prod.fst

def freshRecord (assetId brandId : String) : AssetRecord :=
  { assetId := assetId, brandId := brandId, currentState := .preMinted, previousState := none }

/-- What brings an asset from the factory to its buyer. -/
def lifecycle : List AssetAction :=
  [.blindLog, .stockIn, .activateRotateKeys, .activateEntangle, .activateConfirm, .legalSell]

/-- The calls of the lifecycle among some calls. -/
def lifecycleActions (calls : List CoreCall) : List AssetAction :=
  (calls.map (·.action)).filter (· ∈ lifecycle)

/-- The calls without the freezes that were recovered from, and what came between. -/
def dropEpisodes (calls : List CoreCall) : List CoreCall :=
  dropDetours (fun call => call.action = .freeze) (fun call => call.action = .recover) calls

/-- How many actions of the lifecycle lead to the state; the risk marks and the
freeze can be reached after any number of them. -/
def AssetState.stage : AssetState → Option Nat
  | preMinted => some 0
  | factoryLogged => some 1
  | unassigned => some 2
  | rotatingKeys => some 3
  | entangledPending => some 4
  | activated => some 5
  | legallySold | transferred | consumed | legacy => some 6
  | tampered | compromised | destructed | disputed => none

/-- The stage of the record, or of the state it was frozen from. -/
def AssetRecord.stage (r : AssetRecord) : Option Nat :=
  (r.previousState.getD r.currentState).stage

structure LifecycleLaws (start : AssetRecord) (calls : List CoreCall) : Prop where
  frozen : (attempts coreStep start calls).currentState = .disputed ↔
    (attempts coreStep start calls).previousState.isSome = true
  frozenFrom : ∀ p, (attempts coreStep start calls).previousState = some p →
    p.isTerminal = false ∧ p ≠ .disputed
  deleted : (dropEpisodes (taken coreStep start calls)).Sublist calls
  transparent : Legal coreStep start (dropEpisodes (taken coreStep start calls))
    (attempts coreStep start calls)
  completed : ∀ call ∈ dropEpisodes (taken coreStep start calls), call.action ≠ .recover
  ordered : lifecycleActions (taken coreStep start calls) <+: lifecycle
  gone : (attempts coreStep start calls).currentState ∈
      [.legallySold, .transferred, .consumed, .legacy] →
    lifecycleActions (taken coreStep start calls) = lifecycle
  final : ∀ before after, calls = before ++ after →
    (attempts coreStep start before).currentState.isTerminal = true →
      taken coreStep (attempts coreStep start before) after = []

section Edges
variable {current target : AssetState} {action : AssetAction} {previous : Option AssetState}
  {n : Nat}

/-- An action of the lifecycle is the next one of the stage it is taken in, and the
other edges keep the stage or leave the stages. -/
theorem nextState_stage (ha : action ≠ .recover) (hs : current.stage = some n)
    (h : nextStateForActionWithPrevious current action previous = some target) :
    (action ∈ lifecycle ∧ lifecycle[n]? = some action ∧ target.stage = some (n + 1)) ∨
      (action ∉ lifecycle ∧ (target.stage = some n ∨ target.stage = none)) := by
  rw [nextState_of_not_recover ha none] at h
  cases current <;> first | (cases hs; done) | skip
  all_goals
    obtain rfl := Option.some.inj hs
    cases action <;> first
      | exact absurd rfl ha
      | (cases h; done)
      | (obtain rfl := Option.some.inj h; decide)

theorem stage_of_business (ht : current.isTerminal = false) (hd : current ≠ .disputed) :
    ∃ n, current.stage = some n := by
  cases current <;> first | exact ⟨_, rfl⟩ | exact absurd rfl hd | cases ht

end Edges

section Steps
variable {start record next : AssetRecord} {call : CoreCall} {calls : List CoreCall}

theorem coreStep_applied (h : coreStep record call = some next) :
    ∃ event, Applied record call.action call.context call.eventId next event := by
  unfold coreStep at h
  cases hr : applyAction record call.action call.context call.eventId with
  | error e =>
      rw [hr] at h
      cases h
  | ok result =>
      obtain ⟨next', event⟩ := result
      rw [hr] at h
      obtain rfl : next' = next := Option.some.inj h
      exact ⟨event, applyAction_ok hr⟩

theorem coreStep_terminal (h : record.currentState.isTerminal = true) (call : CoreCall) :
    coreStep record call = none := by
  unfold coreStep applyAction
  rw [if_pos h]
  rfl

/-- The record between two calls: frozen exactly if it remembers a live state. -/
structure Settled (r : AssetRecord) : Prop where
  frozen : r.currentState = .disputed ↔ r.previousState.isSome = true
  frozenFrom : ∀ p, r.previousState = some p → p.isTerminal = false ∧ p ≠ .disputed

theorem Settled.none (h : Settled record) (hd : record.currentState ≠ .disputed) :
    record.previousState = .none := by
  cases hp : record.previousState with
  | none => rfl
  | some p => exact absurd (h.frozen.mpr (by rw [hp, Option.isSome_some])) hd

/-- Whatever was called, the next record is settled. -/
theorem settled_step (h : coreStep record call = some next) : Settled next := by
  obtain ⟨event, happlied⟩ := coreStep_applied h
  have hprevious := happlied.previousState
  by_cases hd : next.currentState = .disputed
  · rw [if_pos hd] at hprevious
    have ht := happlied.transition
    rw [hd] at ht
    obtain ⟨-, hterminal, hnot⟩ := nextState_disputed.mp ht
    constructor
    · rw [hprevious]
      exact ⟨fun _ => rfl, fun _ => hd⟩
    · intro p hp
      rw [hprevious] at hp
      obtain rfl := Option.some.inj hp
      exact ⟨hterminal, hnot⟩
  · rw [if_neg hd] at hprevious
    constructor
    · rw [hprevious]
      exact ⟨fun hd' => absurd hd' hd, nofun⟩
    · intro p hp
      rw [hprevious] at hp
      cases hp

/-- The record inside a detour from a live record: frozen from it, or marked. -/
def Detoured (live r : AssetRecord) : Prop :=
  live.previousState = none ∧ r.assetId = live.assetId ∧ r.brandId = live.brandId ∧
    ((r.currentState = .disputed ∧ r.previousState = some live.currentState) ∨
      r.currentState.isTerminal = true)

/-- A freeze and its recovery, as a detour of the core rule. -/
def episode : Detour coreStep where
  opens call := call.action = .freeze
  closes call := call.action = .recover
  Outside r := Settled r ∧ r.currentState ≠ .disputed
  Inside := Detoured
  passes := by
    intro record next call hout h ho
    obtain ⟨event, happlied⟩ := coreStep_applied h
    have ht := happlied.transition
    refine ⟨⟨settled_step h, fun hd => ?_⟩, ?_⟩
    · rw [hd] at ht
      simp [(nextState_disputed.mp ht).1] at ho
    · by_contra hc
      rw [show call.action = .recover by simpa using hc] at ht
      exact hout.2 (nextState_recover.mp ht).1
  enters := by
    intro record next call hout h ho
    obtain ⟨event, happlied⟩ := coreStep_applied h
    have hfreeze : call.action = .freeze := by simpa using ho
    have hd : next.currentState = .disputed := by
      have ht := happlied.transition
      rw [hfreeze, nextState_disputed.mpr ⟨rfl, happlied.not_terminal, hout.2⟩] at ht
      exact (Option.some.inj ht).symm
    have hp := happlied.previousState
    rw [if_pos hd] at hp
    refine ⟨⟨hout.1.none hout.2, ?_, ?_, .inl ⟨hd, hp⟩⟩, by simp [hfreeze]⟩ <;>
      rw [happlied.next_eq]
  stays := by
    intro live record next call hin h hc
    obtain ⟨event, happlied⟩ := coreStep_applied h
    obtain ⟨hnone, hasset, hbrand, hstate⟩ := hin
    refine ⟨hnone, by rw [happlied.next_eq, hasset], by rw [happlied.next_eq, hbrand], .inr ?_⟩
    obtain ⟨hd, -⟩ | hterminal := hstate
    · have ht := happlied.transition
      rw [hd] at ht
      obtain hr | hr | hr | hr := nextState_of_disputed ht
      · simp [hr] at hc
      all_goals
        rw [hr] at ht
        rw [← Option.some.inj ht]
        rfl
    · rw [coreStep_terminal hterminal] at h
      cases h
  leaves := by
    intro live record next call hin h hc
    obtain ⟨event, happlied⟩ := coreStep_applied h
    obtain ⟨hnone, hasset, hbrand, hstate⟩ := hin
    have hrecover : call.action = .recover := by simpa using hc
    have ht := happlied.transition
    rw [hrecover] at ht
    obtain ⟨hd, hprevious, -, hnot⟩ := nextState_recover.mp ht
    obtain ⟨-, hfrom⟩ | hterminal := hstate
    · have hstate : next.currentState = live.currentState :=
        Option.some.inj (hprevious.symm.trans hfrom)
      obtain ⟨id, brand, current, previous⟩ := live
      rw [happlied.next_eq, if_neg hnot]
      simp only at hasset hbrand hstate hnone ⊢
      rw [hasset, hbrand, hstate, hnone]
    · rw [coreStep_terminal hterminal] at h
      cases h

/-- The actions of the lifecycle so far are its first ones, as many as the stage of
the record says. -/
def Progress (calls : List CoreCall) (r : AssetRecord) : Prop :=
  ∃ n, lifecycleActions calls = lifecycle.take n ∧ ∀ k, r.stage = some k → n = k

theorem lifecycleActions_snoc :
    lifecycleActions (calls ++ [call]) =
      lifecycleActions calls ++ if call.action ∈ lifecycle then [call.action] else [] := by
  simp only [lifecycleActions, List.map_append, List.filter_append, List.map_cons, List.map_nil,
    List.filter_cons, List.filter_nil, decide_eq_true_eq]

theorem Progress.skip (h : Progress calls record) (ha : call.action ∉ lifecycle)
    (hs : next.stage = record.stage ∨ next.stage = none) : Progress (calls ++ [call]) next := by
  obtain ⟨n, hn, hstage⟩ := h
  refine ⟨n, by rw [lifecycleActions_snoc, if_neg ha, List.append_nil, hn], fun k hk => ?_⟩
  obtain hs | hs := hs
  · exact hstage k (hs ▸ hk)
  · rw [hs] at hk
    cases hk

theorem progress_step (hsettled : Settled record) (h : Progress calls record)
    (hstep : coreStep record call = some next) : Progress (calls ++ [call]) next := by
  obtain ⟨event, happlied⟩ := coreStep_applied hstep
  have ht := happlied.transition
  have hprevious := happlied.previousState
  by_cases hr : call.action = .recover
  · rw [hr] at ht
    obtain ⟨hd, hfrom, -, hnot⟩ := nextState_recover.mp ht
    rw [if_neg hnot] at hprevious
    refine h.skip (by rw [hr]; decide) (.inl ?_)
    rw [AssetRecord.stage, AssetRecord.stage, hprevious, hfrom, Option.getD_none, Option.getD_some]
  by_cases hd : record.currentState = .disputed
  · rw [hd] at ht
    have hmark : call.action ∉ lifecycle ∧ next.currentState.stage = none ∧
        next.currentState ≠ .disputed := by
      obtain ha | ha | ha | ha := nextState_of_disputed ht
      · exact absurd ha hr
      all_goals
        rw [ha] at ht ⊢
        rw [← Option.some.inj ht]
        decide
    obtain ⟨ha, hstage, hnot⟩ := hmark
    rw [if_neg hnot] at hprevious
    exact h.skip ha (.inr (by rw [AssetRecord.stage, hprevious, Option.getD_none, hstage]))
  obtain ⟨n, hstage⟩ := stage_of_business happlied.not_terminal hd
  have hrecord : record.stage = some n := by
    rw [AssetRecord.stage, hsettled.none hd, Option.getD_none, hstage]
  by_cases hfreeze : next.currentState = .disputed
  · rw [if_pos hfreeze] at hprevious
    rw [hfreeze] at ht
    refine h.skip (by rw [(nextState_disputed.mp ht).1]; decide) (.inl ?_)
    rw [hrecord, AssetRecord.stage, hprevious, Option.getD_some, hstage]
  rw [if_neg hfreeze] at hprevious
  have hnext : next.stage = next.currentState.stage := by
    rw [AssetRecord.stage, hprevious, Option.getD_none]
  obtain ⟨ha, hfirst, htarget⟩ | ⟨ha, htarget⟩ := nextState_stage hr hstage ht
  · obtain ⟨m, hm, heq⟩ := h
    obtain rfl := heq n hrecord
    refine ⟨m + 1, ?_, fun k hk => ?_⟩
    · rw [lifecycleActions_snoc, if_pos ha, hm, List.take_add_one, hfirst, Option.toList_some]
    · rw [hnext, htarget] at hk
      exact Option.some.inj hk
  · refine h.skip ha ?_
    rw [hnext, hrecord]
    exact htarget

end Steps

section Runs
variable (assetId brandId : String) (calls : List CoreCall)

theorem settled_fresh : Settled (freshRecord assetId brandId) :=
  ⟨⟨nofun, nofun⟩, nofun⟩

theorem progress_run :
    Settled (attempts coreStep (freshRecord assetId brandId) calls) ∧
      Progress (taken coreStep (freshRecord assetId brandId) calls)
        (attempts coreStep (freshRecord assetId brandId) calls) := by
  refine taken_invariant (I := fun is r => Settled r ∧ Progress is r) ?_ ?_ calls
  · refine ⟨settled_fresh assetId brandId, 0, rfl, ?_⟩
    rintro k ⟨⟩
    rfl
  · intro is r call next h hstep
    exact ⟨settled_step hstep, progress_step h.1 h.2 hstep⟩

/-- Every sequence of calls on a fresh record. -/
theorem fresh_lifecycleLaws : LifecycleLaws (freshRecord assetId brandId) calls := by
  obtain ⟨hsettled, n, hn, hstage⟩ := progress_run assetId brandId calls
  have houtside : episode.Outside (freshRecord assetId brandId) := ⟨settled_fresh .., nofun⟩
  obtain ⟨hlegal, hcompleted⟩ := episode.legal_drop houtside calls
  refine ⟨hsettled.frozen, hsettled.frozenFrom, ?_, hlegal, ?_, ?_, ?_, ?_⟩
  · exact (dropDetours_sublist _ _ _).trans (taken_sublist _ _)
  · intro call hcall hrecover
    have hc : decide (call.action = .recover) = false := hcompleted call hcall
    simp [hrecover] at hc
  · rw [hn]
    exact List.take_prefix n lifecycle
  · intro hstate
    have hnot : (attempts coreStep (freshRecord assetId brandId) calls).currentState ≠ .disputed := by
      intro hd
      rw [hd] at hstate
      exact absurd hstate (by decide)
    have hsix : (attempts coreStep (freshRecord assetId brandId) calls).currentState.stage =
        some 6 := by
      simp only [List.mem_cons, List.not_mem_nil, or_false] at hstate
      obtain hs | hs | hs | hs := hstate <;> rw [hs] <;> rfl
    rw [hn, hstage 6 (by rw [AssetRecord.stage, hsettled.none hnot, Option.getD_none, hsix])]
    rfl
  · intro before after _ hterminal
    exact taken_stuck (coreStep_terminal hterminal) after

end Runs

end RcProtocol
