import RcProtocol.Webhooks.Trigger
import RcProtocol.Webhooks.Worker

/-!
What a worker may do with a delivery after the answers it has had: it fetched the
delivery and read a configuration for it before it makes an attempt or records one.
-/

namespace RcProtocol.Webhooks
open Library

abbrev Log := List (Event interface)

/-- The delivery an operation makes an attempt of, or records one for. -/
def Op.handled : Op → Option Uuid
  | .send deliveryID _ | .updateSuccess deliveryID _ _ | .updateFailure deliveryID _ _ _ _ =>
      some deliveryID
  | _ => none

/-- The delivery an operation records an attempt of. -/
def Op.recorded : Op → Option Uuid
  | .updateSuccess deliveryID _ _ | .updateFailure deliveryID _ _ _ _ => some deliveryID
  | _ => none

def Fetched (log : Log) (d : WebhookDelivery) : Prop :=
  ∃ limit ds, ⟨.selectPending limit, .ok ds⟩ ∈ log ∧ d ∈ ds

/-- The configuration was read, and its events were decoded. -/
def Configured (w : Worker) (log : Log) (webhookID : Uuid) (events : List String) : Prop :=
  ∃ row, ⟨.selectConfig webhookID, .ok (some row)⟩ ∈ log ∧ w.unmarshal row.events.out = some events

inductive Calls (w : Worker) : Log → Op → Prop
  | aside {log : Log} {op : Op} (h : op.handled = none) : Calls w log op
  | send {log : Log} {d : WebhookDelivery} (hd : Fetched log d) {config : WebhookConfig}
      (hc : Configured w log d.webhookID config.events) :
      Calls w log (.send d.deliveryID (w.sendRequest config d))
  | success {log : Log} {d : WebhookDelivery} (hd : Fetched log d) {events : List String}
      (hc : Configured w log d.webhookID events) {statusCode : Nat} (responseBody : List UInt8)
      (hstatus : 200 ≤ statusCode ∧ statusCode < 300) :
      Calls w log (.updateSuccess d.deliveryID statusCode responseBody)
  | failure {log : Log} {d : WebhookDelivery} (hd : Fetched log d) {events : List String}
      (hc : Configured w log d.webhookID events) (statusCode : Option Nat)
      (responseBody : List UInt8)
      (nextRetryAt : Option Time) :
      Calls w log (.updateFailure d.deliveryID statusCode responseBody nextRetryAt
        (decide (w.retryConfig.maxRetries ≤ (d.attempts + 1 : Nat))))

section
variable {w : Worker} {log log' : Log} {d : WebhookDelivery} {events : List String}
  {α : Type} {calls : Log → Op → Prop} {answers : Log → α → Prop}

theorem Fetched.append (h : Fetched log d) : Fetched (log ++ log') d := by
  obtain ⟨limit, ds, hmem, hd⟩ := h
  exact ⟨limit, ds, List.mem_append_left _ hmem, hd⟩

theorem Configured.append {webhookID : Uuid} (h : Configured w log webhookID events) :
    Configured w (log ++ log') webhookID events := by
  obtain ⟨row, hmem, hrow⟩ := h
  exact ⟨row, List.mem_append_left _ hmem, hrow⟩

theorem meets_ask {op : Op} {answers : Log → op.Answer → Prop} :
    Meets calls answers log (ask op) ↔
      calls log op ∧ ∀ answer, answers (log ++ [⟨op, answer⟩]) answer := Iff.rfl

theorem meets_fetchWebhookConfig (webhookID : Uuid) :
    Meets (Calls w) (fun log' r => Extends (Calls w) log log' ∧
      ∀ config, r = .ok config → Configured w log' webhookID config.events)
      log (w.fetchWebhookConfig webhookID) := by
  have hread : Meets (Calls w) (fun log' r => Extends (Calls w) log log' ∧
      log' = log ++ [⟨.selectConfig webhookID, r⟩]) log (ask (.selectConfig webhookID)) := by
    have h : Meets (Calls w) (fun log' r => log' = log ++ [⟨.selectConfig webhookID, r⟩]) log
        (ask (.selectConfig webhookID)) := ⟨.aside rfl, fun _ => rfl⟩
    exact h.extends.mono (fun _ _ h => h.1) fun _ _ h => ⟨h.2, h.1⟩
  rw [Worker.fetchWebhookConfig, meets_map]
  apply hread.mono (fun _ _ h => h)
  intro log' r ⟨hext, hlog⟩
  refine ⟨hext, fun config hconfig => ?_⟩
  cases r with
  | error e => cases hconfig
  | ok row =>
      cases row with
      | none => cases hconfig
      | some row =>
          dsimp only at hconfig
          split at hconfig
          · cases hconfig
          · cases hconfig
          · next retryConfig events _ hevents =>
            cases hconfig
            exact ⟨row, by rw [hlog]; simp, hevents⟩

theorem meets_sendWebhook {config : WebhookConfig} (hd : Fetched log d)
    (hc : Configured w log d.webhookID config.events) 
    {answers : Log → Nat × List UInt8 × Option String → Prop}
    (h : ∀ rest statusCode responseBody err, answers (log ++ rest) (statusCode, responseBody, err)) :
    Meets (Calls w) answers log (w.sendWebhook config d) := by
  rw [Worker.sendWebhook, meets_map]
  exact ⟨.send hd hc, fun _ => h _ _ _ _⟩

theorem meets_nextRetryAt {attempts : Nat} {maxRetriesReached : Bool}
    {answers : Log → Option Time → Prop}
    (h : ∀ rest nextRetryAt, answers (log ++ rest) nextRetryAt) :
    Meets (Calls w) answers log (w.nextRetryAt attempts maxRetriesReached) := by
  rw [Worker.nextRetryAt]
  split
  · rw [meets_map]
    exact ⟨.aside rfl, fun now => h _ _⟩
  · have hnone := h [] none
    rwa [List.append_nil] at hnone

theorem meets_handleFailure (hd : Fetched log d) (hc : Configured w log d.webhookID events)
    (statusCode : Nat) (responseBody : List UInt8) (sendErr : Option String) :
    Meets (Calls w) (fun _ _ => True) log (w.handleFailure d statusCode responseBody sendErr) := by
  rw [Worker.handleFailure, meets_bind]
  apply meets_nextRetryAt
  intro rest nextRetryAt
  exact ⟨.failure hd.append hc.append _ _ _, fun _ => trivial⟩

theorem meets_processDelivery (hd : Fetched log d) :
    Meets (Calls w) (fun _ _ => True) log (w.processDelivery d) := by
  rw [Worker.processDelivery, meets_attempt]
  apply (meets_fetchWebhookConfig d.webhookID).mono (fun _ _ h => h)
  intro log' r h
  obtain ⟨⟨rest, hlog, -⟩, hconfig⟩ := h
  have hd' : Fetched log' d := hlog ▸ hd.append
  cases r with
  | error e => trivial
  | ok config =>
      have hc := hconfig config rfl
      dsimp only
      split
      · trivial
      · rw [meets_bind]
        apply meets_sendWebhook hd' hc
        intro rest statusCode responseBody err
        dsimp only
        split
        · exact meets_handleFailure hd'.append hc.append _ _ _
        · next hok =>
          push Not at hok
          exact ⟨.success hd'.append hc.append _ ⟨hok.2.1, hok.2.2⟩, fun _ => trivial⟩

theorem meets_processDeliveries (ds : List WebhookDelivery) (hds : ∀ d ∈ ds, Fetched log d) :
    Meets (Calls w) (fun _ _ => True) log (w.processDeliveries ds) := by
  induction ds generalizing log with
  | nil => trivial
  | cons d rest ih =>
      rw [Worker.processDeliveries, meets_bind]
      apply (meets_processDelivery (hds d (.head _))).extends.mono (fun _ _ h => h.1)
      intro log' _ h
      obtain ⟨-, tail, hlog, -⟩ := h
      apply ih
      intro d' hd'
      rw [hlog]
      exact (hds d' (.tail _ hd')).append

theorem meets_processBatch (w : Worker) :
    Meets (Calls w) (fun _ _ => True) [] w.processBatch := by
  rw [Worker.processBatch, meets_bind]
  apply meets_ask.mpr
  refine ⟨.aside rfl, fun answer => ?_⟩
  cases answer with
  | error e => trivial
  | ok ds => exact meets_processDeliveries ds fun d hd => ⟨10, ds, .head _, hd⟩

theorem meets_createDeliveries (eventType : String) (eventData : Json) (configs : List Uuid) :
    Meets (Calls w) (fun _ _ => True) log (createDeliveries eventType eventData configs) := by
  induction configs generalizing log with
  | nil => trivial
  | cons webhookID rest ih =>
      exact ⟨.aside rfl, fun _ => ⟨.aside rfl, fun _ => ⟨.aside rfl, fun _ => ih⟩⟩⟩

theorem meets_triggerWebhook (brandID eventType : String) (assetID : Uuid) (eventData : Json) :
    Meets (Calls w) (fun _ _ => True) [] (triggerWebhook brandID eventType assetID eventData) := by
  rw [triggerWebhook, meets_bind]
  apply meets_ask.mpr
  refine ⟨.aside rfl, fun answer => ?_⟩
  cases answer with
  | error e => trivial
  | ok configs => exact meets_createDeliveries eventType eventData configs

end

/-- What a thread does: a batch of a worker, or the trigger of an event. -/
inductive Task where
  | batch
  | trigger (brandID eventType : String) (assetID : Uuid) (eventData : Json)

namespace Task

def program (w : Worker) : Task → Program interface Unit
  | batch => w.processBatch
  | trigger brandID eventType assetID eventData =>
      triggerWebhook brandID eventType assetID eventData

def pool {ι : Type} (w : Worker) (tasks : ι → Task) (start : Store) : Pool interface Store ι Unit :=
  ⟨start, fun i => (tasks i).program w⟩

end Task

theorem pool_meets {ι : Type} (w : Worker) (tasks : ι → Task) (start : Store) (i : ι) :
    Meets (Calls w) (fun _ _ => True) [] ((Task.pool w tasks start).threads i) := by
  show Meets (Calls w) (fun _ _ => True) [] ((tasks i).program w)
  cases tasks i with
  | batch => exact meets_processBatch w
  | trigger brandID eventType assetID eventData =>
      exact meets_triggerWebhook brandID eventType assetID eventData

theorem pool_calls {ι : Type} [DecidableEq ι] {w : Worker} {tasks : ι → Task} {start : Store}
    {h h₁ h₂ : List (Move interface Store ι)} {c : Pool interface Store ι Unit}
    {v : Move interface Store ι} (run : Interleaves machine (Task.pool w tasks start) h c)
    (hh : h = h₁ ++ v :: h₂) : Calls w (eventsOf v.thread h₁) v.event.op := by
  have hcalls := run.calls (pool_meets w tasks start) hh
  exact hcalls

end RcProtocol.Webhooks
