import RcProtocol.BrandIsolation
import RcProtocol.Commits
import RcProtocol.Library.Beside
import RcProtocol.Webhooks.Trigger

/-!
Protocol writes and transfers beside the tables of the webhooks. Neither of the two
write paths calls the trigger of its event, so a transition is notified of only where
nobody has subscribed to it.
-/

namespace RcProtocol
open Library

/-- The operations on the tables of rc-api and on those of the webhooks. -/
abbrev notifying : Interface := api.beside Webhooks.interface

/-- The asset whose transition an event commits. -/
def committedAsset (e : Event notifying) : Option String :=
  (leftEvent e).bind fun e => (custodyWrite e).map (·.1)

/-- The delivery an event enqueues: its webhook, and the type of its event. -/
def enqueuedBy : Event notifying → Option (Uuid × String)
  | ⟨.inr (.insertDelivery webhookID eventType _), .ok _⟩ => some (webhookID, eventType)
  | _ => none

/-- The requests beside the tables of the webhooks. -/
def AssetRequest.poolBeside {ι : Type} (app : AppState) (requests : ι → AssetRequest)
    (start : Store) (webhooks : Webhooks.Store) : Pool notifying (Store × Webhooks.Store) ι Reply :=
  (AssetRequest.pool app requests start).beside webhooks

section Histories
variable {ι : Type} [DecidableEq ι] (requests : ι → AssetRequest)
  (h : List (Move notifying (Store × Webhooks.Store) ι))

/-- The deliveries a request enqueues. -/
def enqueued (i : ι) : List (Uuid × String) := (eventsOf i h).filterMap enqueuedBy

/-- The move commits a transition that the configuration subscribes to. -/
def NotifiesOf (v : Move notifying (Store × Webhooks.Store) ι) (config : Webhooks.WebhookConfigRow)
    (eventType : String) : Prop :=
  Webhooks.eventTypeFromAction (requests v.thread).act = some eventType ∧
    ∃ id brandID, committedAsset v.event = some id ∧ v.before.1.db.brandOf id = some brandID ∧
      config ∈ v.before.2.configs.rows ∧ config.subscribes brandID eventType = true

structure Notified : Prop where
  committed : ∀ v ∈ h, ∀ config eventType, NotifiesOf requests v config eventType →
    (enqueued h v.thread).count (config.webhookID, eventType) = 1
  others : ∀ i, (∀ v ∈ h, v.thread = i → committedAsset v.event = none) → enqueued h i = []

end Histories

section Runs
variable {ι : Type} [DecidableEq ι] {app : AppState} {requests : ι → AssetRequest}
  {start : Store} {webhooks : Webhooks.Store} {h : List (Move notifying (Store × Webhooks.Store) ι)}
  {c : Pool notifying (Store × Webhooks.Store) ι Reply}

theorem enqueuedBy_left {e : Event notifying} {op : Op}
    (h : e.op = .inl op) : enqueuedBy e = none := by
  obtain ⟨op', answer⟩ := e
  cases h
  rfl

/-- No request of either write path enqueues a delivery. -/
theorem nothing_enqueued
    (run : Interleaves (machine.beside Webhooks.machine)
      (AssetRequest.poolBeside app requests start webhooks) h c) (i : ι) : enqueued h i = [] := by
  apply List.filterMap_eq_nil_iff.mpr
  intro e he
  obtain ⟨v, hv, -, rfl⟩ := mem_eventsOf.mp he
  obtain ⟨op, hop⟩ := run.left_move hv
  exact enqueuedBy_left hop

/-- The transitions of a run are notified of exactly where nobody has subscribed to them. -/
theorem notified_iff
    (run : Interleaves (machine.beside Webhooks.machine)
      (AssetRequest.poolBeside app requests start webhooks) h c) :
    Notified requests h ↔ ∀ v ∈ h, ∀ config eventType, ¬NotifiesOf requests v config eventType := by
  constructor
  · intro hnotified v hv config eventType hsubscribed
    have hone := hnotified.committed v hv config eventType hsubscribed
    rw [nothing_enqueued run] at hone
    cases hone
  · intro hnone
    refine ⟨?_, fun i _ => nothing_enqueued run i⟩
    intro v hv config eventType hsubscribed
    exact absurd hsubscribed (hnone v hv config eventType)

end Runs

section Sample

/-- The brand asks to be told of an event. -/
def brandWebhook (eventType : String) : Webhooks.Store where
  configs := .single
    { webhookID := .repeated 9
      brandID := "brand"
      url := "https://hooks.brand/rc"
      events := .ofList [eventType] }

def disputeWebhook : Webhooks.Store := brandWebhook "asset.disputed"

/-- The sold asset is frozen, beside the configurations there are. -/
def freezePool (webhooks : Webhooks.Store) :
    Pool notifying (Store × Webhooks.Store) Unit Reply :=
  AssetRequest.poolBeside default (fun _ => .write (.action (moderatorCall .freeze "k1" 1 {})))
    soldStore webhooks

def freezeRun (webhooks : Webhooks.Store) :
    List (Move notifying (Store × Webhooks.Store) Unit) ×
      Pool notifying (Store × Webhooks.Store) Unit Reply :=
  (freezePool webhooks).schedule (machine.beside Webhooks.machine)
    (List.replicate 4 ((), ({}, {})))

theorem freezeRun_interleaves (webhooks : Webhooks.Store) :
    Interleaves (machine.beside Webhooks.machine) (freezePool webhooks)
      (freezeRun webhooks).1 (freezeRun webhooks).2 :=
  schedule_interleaves _ _

/-- The brand is only to be told of sales. -/
theorem notified_iff_quiet :
    Notified (fun _ => .write (.action (moderatorCall .freeze "k1" 1 {})))
      (freezeRun (brandWebhook "asset.sold")).1 := by
  apply (notified_iff (freezeRun_interleaves (brandWebhook "asset.sold"))).mpr
  intro v hv config eventType hsubscribed
  obtain ⟨hevent, id, brandID, -, -, hmem, hsubscribes⟩ := hsubscribed
  obtain rfl := Option.some.inj hevent
  have hunasked : ∀ v ∈ (freezeRun (brandWebhook "asset.sold")).1,
      v.before.2.configs.rows.all (fun c => !c.events.any "asset.disputed") = true := by
    decide +kernel
  have hnot := List.all_eq_true.mp (hunasked v hv) config hmem
  rw [Webhooks.WebhookConfigRow.subscribes, Bool.and_eq_true] at hsubscribes
  rw [hsubscribes.2] at hnot
  cases hnot

def hasReply : Program notifying Reply → Bool
  | .done _ => true
  | .call _ _ => false

theorem exists_reply {p : Program notifying Reply} (h : hasReply p = true) :
    ∃ reply, p = .done reply := by
  cases p with
  | done reply => exact ⟨reply, rfl⟩
  | call _ _ => cases h

/-- The freeze is committed and answered, and the brand is not told. -/
theorem freeze_not_notified :
    ¬∀ (ι : Type) (_ : DecidableEq ι) (app : AppState) (requests : ι → AssetRequest)
      (start : Store) (webhooks : Webhooks.Store)
      (h : List (Move notifying (Store × Webhooks.Store) ι))
      (c : Pool notifying (Store × Webhooks.Store) ι Reply),
        Interleaves (machine.beside Webhooks.machine)
          (AssetRequest.poolBeside app requests start webhooks) h c →
            (∀ i, ∃ reply, c.threads i = .done reply) → Notified requests h := by
  intro hall
  have hanswered : hasReply ((freezeRun disputeWebhook).2.threads ()) = true := by decide +kernel
  have hnotified := hall Unit _ _ _ _ _ _ _ (freezeRun_interleaves disputeWebhook)
    fun _ => exists_reply hanswered
  have hcommitted : ∃ v ∈ (freezeRun disputeWebhook).1, committedAsset v.event = some "a" ∧
      v.before.1.db.brandOf "a" = some "brand" ∧
        v.before.2.configs.rows.any (·.subscribes "brand" "asset.disputed") = true := by
    decide +kernel
  have hnone : enqueued (freezeRun disputeWebhook).1 () = [] := by decide +kernel
  obtain ⟨v, hv, hasset, hbrand, hany⟩ := hcommitted
  obtain ⟨config, hmem, hsubscribes⟩ := List.any_eq_true.mp hany
  have hone := hnotified.committed v hv config "asset.disputed"
    ⟨rfl, "a", "brand", hasset, hbrand, hmem, hsubscribes⟩
  rw [show v.thread = () from rfl, hnone] at hone
  cases hone

end Sample

end RcProtocol
