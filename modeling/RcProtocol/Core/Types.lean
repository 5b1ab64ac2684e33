import Mathlib.Tactic.Common

/-!
The vocabulary of the protocol (rc-common): asset states, actor roles, actions,
the asset record the core works on, and the errors with the texts they display.
-/

namespace RcProtocol

inductive AssetState where
  | preMinted
  | factoryLogged
  | unassigned
  | rotatingKeys
  | entangledPending
  | activated
  | legallySold
  | transferred
  | consumed
  | legacy
  | tampered
  | compromised
  | destructed
  | disputed
  deriving DecidableEq, Repr

namespace AssetState

def isTerminal : AssetState → Bool
  | consumed | legacy | tampered | compromised | destructed => true
  | _ => false

def isFrozen : AssetState → Bool
  | disputed => true
  | _ => false

def asDbStr : AssetState → String
  | preMinted => "PreMinted"
  | factoryLogged => "FactoryLogged"
  | unassigned => "Unassigned"
  | rotatingKeys => "RotatingKeys"
  | entangledPending => "EntangledPending"
  | activated => "Activated"
  | legallySold => "LegallySold"
  | transferred => "Transferred"
  | consumed => "Consumed"
  | legacy => "Legacy"
  | tampered => "Tampered"
  | compromised => "Compromised"
  | destructed => "Destructed"
  | disputed => "Disputed"

def fromDbStr : String → Option AssetState
  | "PreMinted" => some preMinted
  | "FactoryLogged" => some factoryLogged
  | "Unassigned" => some unassigned
  | "RotatingKeys" => some rotatingKeys
  | "EntangledPending" => some entangledPending
  | "Activated" => some activated
  | "LegallySold" => some legallySold
  | "Transferred" => some transferred
  | "Consumed" => some consumed
  | "Legacy" => some legacy
  | "Tampered" => some tampered
  | "Compromised" => some compromised
  | "Destructed" => some destructed
  | "Disputed" => some disputed
  | _ => none

@[simp] theorem fromDbStr_asDbStr (s : AssetState) : fromDbStr s.asDbStr = some s := by
  cases s <;> rfl

theorem asDbStr_injective : Function.Injective asDbStr := by
  intro a b h
  have h' := congrArg fromDbStr h
  simpa only [fromDbStr_asDbStr, Option.some.injEq] using h'

end AssetState

inductive ActorRole where
  | platform
  | factory
  | brand
  | consumer
  | moderator
  deriving DecidableEq, Repr

namespace ActorRole

def asDbStr : ActorRole → String
  | platform => "Platform"
  | factory => "Factory"
  | brand => "Brand"
  | consumer => "Consumer"
  | moderator => "Moderator"

theorem asDbStr_injective : Function.Injective asDbStr := by
  intro a b h
  cases a <;> cases b <;> first | rfl | exact absurd h (by decide)

end ActorRole

inductive AssetAction where
  | blindLog
  | stockIn
  | activateRotateKeys
  | activateEntangle
  | activateConfirm
  | legalSell
  | transfer
  | consume
  | legacy
  | freeze
  | recover
  | markTampered
  | markCompromised
  | markDestructed
  deriving DecidableEq, Repr

namespace AssetAction

def asDbStr : AssetAction → String
  | blindLog => "BlindLog"
  | stockIn => "StockIn"
  | activateRotateKeys => "ActivateRotateKeys"
  | activateEntangle => "ActivateEntangle"
  | activateConfirm => "ActivateConfirm"
  | legalSell => "LegalSell"
  | transfer => "Transfer"
  | consume => "Consume"
  | legacy => "Legacy"
  | freeze => "Freeze"
  | recover => "Recover"
  | markTampered => "MarkTampered"
  | markCompromised => "MarkCompromised"
  | markDestructed => "MarkDestructed"

theorem asDbStr_injective : Function.Injective asDbStr := by
  intro a b h
  cases a <;> cases b <;> first | rfl | exact absurd h (by decide)

end AssetAction

structure AssetRecord where
  assetId : String
  brandId : String
  currentState : AssetState
  previousState : Option AssetState
  deriving DecidableEq, Repr

inductive RcError where
  | invalidStateTransition
  | permissionDenied
  | frozenAsset
  | terminalState
  | missingPreviousState
  | securityCheckFailed
  | assetNotFound
  | missingRequiredHeader (name : String)
  | invalidHeader (name : String)
  | idempotencyConflict
  | database (message : String)
  | invalidInput (message : String)
  | unauthorized
  | tokenExpired
  | invalidSignature
  | invalidClaims (message : String)
  | brandBoundaryViolation
  | forbidden (message : String)
  | brandNotFound
  | productNotFound
  | duplicateResource (message : String)
  | notFound (message : String)
  | conflict (message : String)
  deriving DecidableEq, Repr

def RcError.display : RcError → String
  | invalidStateTransition => "invalid state transition"
  | permissionDenied => "permission denied"
  | frozenAsset => "frozen asset blocks normal business action"
  | terminalState => "terminal state cannot transition"
  | missingPreviousState => "missing previous state for recover"
  | securityCheckFailed => "security check failed"
  | assetNotFound => "asset not found"
  | missingRequiredHeader name => "missing required header: " ++ name
  | invalidHeader name => "invalid header: " ++ name
  | idempotencyConflict => "idempotency conflict"
  | database message => "database error: " ++ message
  | invalidInput message => "invalid input: " ++ message
  | unauthorized => "unauthorized"
  | tokenExpired => "token expired"
  | invalidSignature => "invalid signature"
  | invalidClaims message => "invalid claims: " ++ message
  | brandBoundaryViolation => "brand boundary violation"
  | forbidden message => "forbidden: " ++ message
  | brandNotFound => "brand not found"
  | productNotFound => "product not found"
  | duplicateResource message => "duplicate resource: " ++ message
  | notFound message => "not found: " ++ message
  | conflict message => "conflict: " ++ message

end RcProtocol
