import RcProtocol.Webhooks.Spec

/-!
One delivery taken up by a worker, by the answers it gets: its configuration is of no use
and nothing is done, or an attempt is made and recorded.
-/

namespace RcProtocol.Webhooks
open Library

/-- The answer is an active configuration that can be scanned and whose events are decoded. -/
def Usable (w : Worker) (r : Except String (Option WebhookConfigRow)) : Prop :=
  ∃ row retryConfig events, r = .ok (some row) ∧ row.retryConfig = some retryConfig ∧
    w.unmarshal row.events.out = some events ∧ row.status = "Active"

/-- What is recorded of an attempt: as much of the response as is read, or the error. -/
def recordedBody : Except SendError (Nat × List UInt8) → List UInt8
  | .error (.create e) => utf8 ("failed to create request: " ++ e)
  | .error (.send e) => utf8 ("failed to send request: " ++ e)
  | .ok (_, body) => body.take 1024

/-- What is recorded of this answer of an endpoint is a text. -/
def Stored (outcome : Except SendError (Nat × List UInt8)) : Prop :=
  (textIn (recordedBody outcome)).isSome = true

/-- The log of one delivery. The clock is read where the table has a delay, and only there. -/
inductive Processed (w : Worker) (d : WebhookDelivery) : Log → Prop
  | skipped {r : Except String (Option WebhookConfigRow)} (hr : ¬Usable w r) :
      Processed w d [⟨.selectConfig d.webhookID, r⟩]
  | success {r : Except String (Option WebhookConfigRow)} (hr : Usable w r) (request : OutgoingRequest)
      (outcome : Except SendError (Nat × List UInt8)) (statusCode : Nat)
      (written : Except String Unit) :
      Processed w d [⟨.selectConfig d.webhookID, r⟩, ⟨.send d.deliveryID request, outcome⟩,
        ⟨.updateSuccess d.deliveryID statusCode (recordedBody outcome), written⟩]
  | retry {r : Except String (Option WebhookConfigRow)} (hr : Usable w r) (request : OutgoingRequest)
      (outcome : Except SendError (Nat × List UInt8)) (now : Time)
      (hretries : (d.attempts + 1 : Int) < w.retryConfig.maxRetries)
      (hdelay : d.attempts < w.retryConfig.backoffSeconds.length)
      (statusCode : Option Nat) (written : Except String Unit) :
      Processed w d [⟨.selectConfig d.webhookID, r⟩, ⟨.send d.deliveryID request, outcome⟩,
        ⟨.now, now⟩,
        ⟨.updateFailure d.deliveryID statusCode (recordedBody outcome)
          (some (now + w.retryConfig.backoffSeconds.get ⟨d.attempts, hdelay⟩ * 1000000))
          (decide (w.retryConfig.maxRetries ≤ (d.attempts + 1 : Int))), written⟩]
  | unscheduled {r : Except String (Option WebhookConfigRow)} (hr : Usable w r) (request : OutgoingRequest)
      (outcome : Except SendError (Nat × List UInt8))
      (hnone : w.retryConfig.maxRetries ≤ (d.attempts + 1 : Int) ∨
        w.retryConfig.backoffSeconds.length ≤ d.attempts)
      (statusCode : Option Nat) (written : Except String Unit) :
      Processed w d [⟨.selectConfig d.webhookID, r⟩, ⟨.send d.deliveryID request, outcome⟩,
        ⟨.updateFailure d.deliveryID statusCode (recordedBody outcome) none
          (decide (w.retryConfig.maxRetries ≤ (d.attempts + 1 : Int))), written⟩]

section Meets
variable {w : Worker} {d : WebhookDelivery}

theorem processed_handleFailure {r : Except String (Option WebhookConfigRow)} (hr : Usable w r)
    (request : OutgoingRequest) (outcome : Except SendError (Nat × List UInt8)) (statusCode : Nat)
    (responseBody : List UInt8) (sendErr : Option String)
    (hbody : (sendErr.map utf8).getD responseBody = recordedBody outcome) :
    Meets (fun _ _ => True) (fun log _ => Processed w d log)
      [⟨.selectConfig d.webhookID, r⟩, ⟨.send d.deliveryID request, outcome⟩]
      (w.handleFailure d statusCode responseBody sendErr) := by
  rw [Worker.handleFailure, meets_bind, Worker.nextRetryAt, hbody]
  by_cases h : decide (w.retryConfig.maxRetries ≤ ((d.attempts + 1 : Nat) : Int)) = false ∧
      d.attempts + 1 - 1 < w.retryConfig.backoffSeconds.length
  · rw [dif_pos h]
    obtain ⟨hretries, hdelay⟩ := h
    have hretries : (d.attempts + 1 : Int) < w.retryConfig.maxRetries := by
      simpa using of_decide_eq_false hretries
    rw [meets_map]
    refine ⟨trivial, fun now => ⟨trivial, fun written => ?_⟩⟩
    exact .retry hr request outcome now hretries hdelay _ written
  · rw [dif_neg h]
    refine ⟨trivial, fun written => .unscheduled hr request outcome ?_ _ written⟩
    by_contra hnone
    push Not at hnone
    apply h
    refine ⟨?_, hnone.2⟩
    simpa using hnone.1

theorem meets_sent (r : Except String (Option WebhookConfigRow)) (config : WebhookConfig) :
    Meets (fun _ _ => True) (fun (log : Log) sent => ∃ request outcome,
        log = [⟨.selectConfig d.webhookID, r⟩, ⟨.send d.deliveryID request, outcome⟩] ∧
          (sent.2.2.map utf8).getD sent.2.1 = recordedBody outcome)
      [⟨.selectConfig d.webhookID, r⟩] (w.sendWebhook config d) := by
  rw [Worker.sendWebhook, meets_map]
  refine ⟨trivial, fun outcome => ⟨_, outcome, rfl, ?_⟩⟩
  cases outcome with
  | error e => cases e <;> rfl
  | ok answer => rfl

/-- The configuration a worker gets is active exactly where the answer is usable. -/
theorem meets_usable (webhookID : Uuid) :
    Meets (fun _ _ => True) (fun (log : Log) fetched => ∃ r,
        log = [⟨.selectConfig webhookID, r⟩] ∧
          (Usable w r ↔ ∃ config, fetched = .ok config ∧ config.status = "Active"))
      [] (w.fetchWebhookConfig webhookID) := by
  rw [Worker.fetchWebhookConfig, meets_map]
  refine ⟨trivial, fun r => ⟨r, rfl, ?_⟩⟩
  cases r with
  | error e => simp [Usable]
  | ok found =>
      cases found with
      | none => simp [Usable]
      | some row =>
          cases hretry : row.retryConfig with
          | none => simp [Usable, hretry]
          | some retryConfig =>
              cases hevents : w.unmarshal row.events.out with
              | none => simp [Usable, hretry, hevents]
              | some events => simp [Usable, hretry, hevents]

theorem processed_processDelivery (w : Worker) (d : WebhookDelivery) :
    Meets (fun _ _ => True) (fun log _ => Processed w d log) [] (w.processDelivery d) := by
  rw [Worker.processDelivery, meets_attempt]
  apply (meets_usable d.webhookID).mono (fun _ _ h => h)
  intro log fetched h
  obtain ⟨r, rfl, husable⟩ := h
  cases fetched with
  | error e =>
      apply Processed.skipped
      rw [husable]
      simp
  | ok config =>
      dsimp only
      split
      · next hstatus =>
        apply Processed.skipped
        rw [husable]
        simpa using hstatus
      · next hstatus =>
        have husable : Usable w r := husable.mpr ⟨config, rfl, not_not.mp hstatus⟩
        rw [meets_bind]
        apply (meets_sent _ _).mono (fun _ _ h => h)
        intro log sent h
        obtain ⟨request, outcome, rfl, hbody⟩ := h
        split
        · exact processed_handleFailure husable _ _ _ _ _ hbody
        · next hsent =>
          have hnone : sent.2.2 = none := by
            rw [not_or, Option.not_isSome_iff_eq_none] at hsent
            exact hsent.1
          rw [hnone, Option.map_none, Option.getD_none] at hbody
          rw [hbody]
          exact ⟨trivial, fun written => .success husable _ _ _ written⟩

end Meets

end RcProtocol.Webhooks
