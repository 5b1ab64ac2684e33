import RcProtocol.Core.StateMachine

/-!
The core write rule of rc-core, `apply_action`, with the audit event it issues.
The event id is drawn by the caller: in the source it is a random UUID, and
nothing in the rule depends on it.
-/

namespace RcProtocol

/-- A UUID by its 32 hexadecimal digits, most significant first. -/
structure Uuid where
  digits : List (Fin 16)
  length_digits : digits.length = 32
  deriving DecidableEq

/-- The UUID all of whose digits are the same. -/
def Uuid.repeated (d : Nat) : Uuid :=
  ⟨List.replicate 32 ⟨d % 16, Nat.mod_lt d (by decide)⟩, List.length_replicate⟩

structure AuditContext where
  traceId : Uuid
  actorId : String
  actorRole : ActorRole
  actorOrg : Option String
  idempotencyKey : String
  approvalId : Option String
  policyVersion : Option String
  buyerId : Option String
  deriving DecidableEq

structure AuditEvent where
  eventId : Uuid
  assetId : String
  action : AssetAction
  fromState : Option AssetState
  toState : AssetState
  context : AuditContext
  deriving DecidableEq

/-- Platform may act in place of a business role only under an approval. -/
def applyAction (record : AssetRecord) (action : AssetAction) (context : AuditContext)
    (eventId : Uuid) : Except RcError (AssetRecord × AuditEvent) :=
  if record.currentState.isTerminal then .error .terminalState
  else if record.currentState.isFrozen && action.isBusiness then .error .frozenAsset
  else if context.actorRole = .platform && action.isBusiness && context.approvalId.isNone then
    .error .permissionDenied
  else if !canRoleInitiate context.actorRole record.currentState action then
    .error .permissionDenied
  else if action = .legalSell && context.buyerId.isNone then
    .error (.invalidInput "LegalSell requires buyer_id")
  else
    let target :=
      if action = .recover then
        nextStateForActionWithPrevious record.currentState action record.previousState
      else nextStateForAction record.currentState action
    match target with
    | none => .error .invalidStateTransition
    | some targetState =>
        .ok
          ({ assetId := record.assetId
             brandId := record.brandId
             currentState := targetState
             previousState :=
               if targetState = .disputed then some record.currentState else none },
           { eventId := eventId
             assetId := record.assetId
             action := action
             fromState := some record.currentState
             toState := targetState
             context := context })

section Spec
variable {record next : AssetRecord} {action : AssetAction} {context : AuditContext}
  {eventId : Uuid} {event : AuditEvent}

/-- Everything a successful application says about its inputs and results. -/
structure Applied (record : AssetRecord) (action : AssetAction) (context : AuditContext)
    (eventId : Uuid) (next : AssetRecord) (event : AuditEvent) : Prop where
  transition : nextStateForActionWithPrevious record.currentState action record.previousState =
    some next.currentState
  role : canRoleInitiate context.actorRole record.currentState action = true
  approved : context.actorRole = .platform → action.isBusiness = true →
    context.approvalId.isSome = true
  buyer : action = .legalSell → context.buyerId.isSome = true
  next_eq : next =
    { assetId := record.assetId, brandId := record.brandId, currentState := next.currentState,
      previousState := if next.currentState = .disputed then some record.currentState else none }
  event_eq : event =
    { eventId := eventId, assetId := record.assetId, action := action,
      fromState := some record.currentState, toState := next.currentState, context := context }

theorem applyAction_ok
    (h : applyAction record action context eventId = .ok (next, event)) :
    Applied record action context eventId next event := by
  have hnext : (if action = .recover then
      nextStateForActionWithPrevious record.currentState action record.previousState
      else nextStateForAction record.currentState action) =
      nextStateForActionWithPrevious record.currentState action record.previousState := by
    split
    · rfl
    · next hr => exact nextState_of_not_recover hr _
  simp only [applyAction, hnext] at h
  split at h
  · cases h
  split at h
  · cases h
  split at h
  · cases h
  next hplatform =>
  split at h
  · cases h
  next hrole =>
  split at h
  · cases h
  next hbuyer =>
  split at h
  · cases h
  next target htarget =>
  obtain ⟨rfl, rfl⟩ := Prod.mk.inj (Except.ok.inj h)
  refine ⟨htarget, by simpa using hrole, ?_, ?_, rfl, rfl⟩
  · intro hp hb
    simpa [hp, hb, Option.isSome_iff_ne_none] using hplatform
  · intro ha
    simpa [ha, Option.isSome_iff_ne_none] using hbuyer

end Spec

namespace Applied
variable {record next : AssetRecord} {action : AssetAction} {context : AuditContext}
  {eventId : Uuid} {event : AuditEvent}

theorem not_terminal (h : Applied record action context eventId next event) :
    record.currentState.isTerminal = false := by
  by_contra hc
  have := h.transition
  rw [nextState_isTerminal (by simpa using hc)] at this
  cases this

/-- A record after a successful action remembers the state it was frozen from,
and nothing else. -/
theorem previousState (h : Applied record action context eventId next event) :
    next.previousState =
      if next.currentState = .disputed then some record.currentState else none := by
  rw [h.next_eq]

end Applied

end RcProtocol
