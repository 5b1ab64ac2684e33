import RcProtocol.Core.Types

/-!
The transition table of rc-core and who may ask for which of its edges. What
each edge can do is stated once here; no later module unfolds the table.
-/

namespace RcProtocol
open AssetState AssetAction

/-- `Recover` takes the state to return to as an argument; every other edge is
determined by the current state and the action. -/
def nextStateForActionWithPrevious (current : AssetState) (action : AssetAction)
    (previousState : Option AssetState) : Option AssetState :=
  match current, action with
  | preMinted, blindLog => some factoryLogged
  | factoryLogged, stockIn => some unassigned
  | unassigned, activateRotateKeys => some rotatingKeys
  | rotatingKeys, activateEntangle => some entangledPending
  | entangledPending, activateConfirm => some activated
  | activated, legalSell => some legallySold
  | legallySold, transfer => some transferred
  | transferred, transfer => some transferred
  | legallySold, consume | transferred, consume => some consumed
  | legallySold, .legacy | transferred, .legacy => some .legacy
  | state, freeze => if !state.isTerminal && !state.isFrozen then some disputed else none
  | disputed, recover => previousState.filter fun s => !s.isTerminal && s != disputed
  | disputed, markCompromised => some compromised
  | state, markTampered => if !state.isTerminal then some tampered else none
  | state, markCompromised => if !state.isTerminal then some compromised else none
  | state, markDestructed => if !state.isTerminal then some destructed else none
  | _, _ => none

def nextStateForAction (current : AssetState) (action : AssetAction) : Option AssetState :=
  nextStateForActionWithPrevious current action none

def canRoleInitiate (role : ActorRole) (currentState : AssetState) (action : AssetAction) : Bool :=
  match role with
  | .platform => true
  | .factory =>
      match currentState, action with
      | preMinted, blindLog | factoryLogged, stockIn => true
      | _, _ => false
  | .brand =>
      match currentState, action with
      | unassigned, activateRotateKeys | rotatingKeys, activateEntangle
      | entangledPending, activateConfirm | activated, legalSell => true
      | _, _ => false
  | .consumer =>
      match currentState, action with
      | legallySold, transfer | transferred, transfer | legallySold, consume
      | transferred, consume | legallySold, .legacy | transferred, .legacy => true
      | _, _ => false
  | .moderator =>
      match action with
      | freeze | recover | markTampered | markCompromised | markDestructed => true
      | _ => false

namespace AssetAction

/-- The actions a frozen asset blocks; the others are governance actions. -/
def isBusiness : AssetAction → Bool
  | blindLog | stockIn | activateRotateKeys | activateEntangle | activateConfirm
  | legalSell | transfer | consume | legacy => true
  | _ => false

end AssetAction

section Edges
variable {current target : AssetState} {action : AssetAction} {previous : Option AssetState}

theorem nextState_of_not_recover (h : action ≠ recover) (previous' : Option AssetState) :
    nextStateForActionWithPrevious current action previous =
      nextStateForActionWithPrevious current action previous' := by
  cases action <;> first | exact absurd rfl h | cases current <;> rfl

theorem nextState_recover :
    nextStateForActionWithPrevious current recover previous = some target ↔
      current = disputed ∧ previous = some target ∧
        target.isTerminal = false ∧ target ≠ disputed := by
  cases current <;>
    simp [nextStateForActionWithPrevious, Option.filter_eq_some_iff]

theorem nextState_isTerminal (h : current.isTerminal = true) :
    nextStateForActionWithPrevious current action previous = none := by
  cases current <;> cases action <;> first | rfl | cases h

/-- Freezing is the only edge into `disputed`. -/
theorem nextState_disputed :
    nextStateForActionWithPrevious current action previous = some disputed ↔
      action = freeze ∧ current.isTerminal = false ∧ current ≠ disputed := by
  by_cases hr : action = recover
  · subst hr
    simp [nextState_recover]
  · rw [nextState_of_not_recover hr none]
    cases current <;> cases action <;> first | exact absurd rfl hr | decide

/-- What leaves a frozen asset: a recovery, or one of the three risk marks. -/
theorem nextState_of_disputed
    (h : nextStateForActionWithPrevious disputed action previous = some target) :
    action = recover ∨ action = markTampered ∨ action = markCompromised ∨
      action = markDestructed := by
  cases action <;> first | (simp; done) | cases h

/-- The edges that retire an asset are consumption and inheritance, both from a
sold or transferred asset. -/
theorem nextState_retired
    (h : nextStateForActionWithPrevious current action previous = some target)
    (ht : target = consumed ∨ target = AssetState.legacy) :
    (action = consume ∨ action = AssetAction.legacy) ∧
      (current = legallySold ∨ current = transferred) := by
  by_cases hr : action = recover
  · subst hr
    obtain ⟨_, _, hn, _⟩ := nextState_recover.mp h
    obtain rfl | rfl := ht <;> simp [isTerminal] at hn
  · rw [nextState_of_not_recover hr none] at h
    obtain rfl | rfl := ht <;> revert h <;> cases current <;> cases action <;> decide

end Edges

end RcProtocol
