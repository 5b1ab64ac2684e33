import RcProtocol.Library.JsonStrings
import RcProtocol.WebhookDeliveries

/-!
The event list of a webhook is stored as an array of PostgreSQL and decoded as JSON. No
text of an array is a JSON list, so a worker never gets past reading the configuration,
and the deliveries stay as they were enqueued.
-/

namespace RcProtocol.Webhooks
open Library

/-- The text of an array is not a list of strings in JSON, whatever the array. -/
theorem unmarshalStrings_out (a : TextArray) : JsonStrings.unmarshalStrings a.out = none := by
  rw [JsonStrings.unmarshalStrings]
  obtain ⟨cs, hcs⟩ | ⟨c, cs, hcs, hc⟩ := a.out_cons
  · rw [hcs]
    exact JsonStrings.unmarshalChars_brace cs
  · rw [hcs]
    exact JsonStrings.unmarshalChars_number hc cs

/-- The worker as it is, which decodes the event list with `json.Unmarshal`. -/
def Worker.deployed (p : Primitives) (retryConfig : RetryConfig) : Worker :=
  ⟨p, retryConfig, JsonStrings.unmarshalStrings⟩

/-- A worker that asks for the row gets its events as they are stored. -/
def ReadsBack (w : Worker) (s : Store) (row : WebhookConfigRow) : Prop :=
  ∃ config, (machine.run (w.fetchWebhookConfig row.webhookID) (fun _ => {}) s).answer = .ok config ∧
    row.events.elements = config.events.map some

section
variable {ι : Type} [DecidableEq ι] {p : Primitives} {retryConfig : RetryConfig} {tasks : ι → Task}
  {start : Store} {h h₁ h₂ : List (Move interface Store ι)} {c : Pool interface Store ι Unit}
  {v : Move interface Store ι} {id : Uuid}

theorem not_configured {log : Log} {webhookID : Uuid} {events : List String} :
    ¬Configured (.deployed p retryConfig) log webhookID events := by
  intro hc
  obtain ⟨row, -, hevents⟩ := hc
  have hnone : JsonStrings.unmarshalStrings row.events.out = some events := hevents
  rw [unmarshalStrings_out] at hnone
  cases hnone

theorem not_readsBack (s : Store) (row : WebhookConfigRow) :
    ¬ReadsBack (.deployed p retryConfig) s row := by
  intro hreads
  obtain ⟨config, hanswer, -⟩ := hreads
  have hmeets : Meets (Calls (.deployed p retryConfig)) _ [] _ :=
    meets_fetchWebhookConfig row.webhookID
  exact not_configured ((machine.meets_run_answer hmeets (fun _ => {}) s).2 config hanswer)

/-- Nothing a worker does comes after a configuration it could read. -/
theorem Calls.not_handled {log : Log} {op : Op} (h : Calls (.deployed p retryConfig) log op) :
    op.handled = none := by
  cases h with
  | aside hnone => exact hnone
  | send _ hc => exact absurd hc not_configured
  | success _ hc _ _ => exact absurd hc not_configured
  | failure _ hc _ _ _ => exact absurd hc not_configured

/-- An attempt of the delivery was made. -/
def Attempted (h : List (Move interface Store ι)) (id : Uuid) : Prop :=
  ∃ v ∈ h, ∃ request, v.event.op = .send id request

theorem move_not_handled
    (run : Interleaves machine (Task.pool (.deployed p retryConfig) tasks start) h c) (hv : v ∈ h) :
    v.event.op.handled = none := by
  obtain ⟨h₁, h₂, hh⟩ := List.append_of_mem hv
  exact (pool_calls run hh).not_handled

theorem delivery_stays
    (run : Interleaves machine (Task.pool (.deployed p retryConfig) tasks start) h c) (hv : v ∈ h)
    {d : WebhookDelivery} (hd : v.before.delivery id = some d) : v.after.delivery id = some d := by
  have hchanges := move_changes run hv id
  rw [hd] at hchanges
  generalize v.after.delivery id = after at hchanges
  cases hchanges with
  | same => rfl
  | recorded hop _ =>
      rw [move_not_handled run hv] at hop
      cases hop

/-- No configuration is read back, whatever its events; and in no run of triggers and
workers is a delivery attempted, or changed once it is enqueued. -/
theorem deliveries_never_attempted
    (run : Interleaves machine (Task.pool (.deployed p retryConfig) tasks start) h c) :
    (∀ s row, ¬ReadsBack (.deployed p retryConfig) s row) ∧ (∀ id, ¬Attempted h id) ∧
      ∀ v ∈ h, ∀ id d, v.before.delivery id = some d → c.state.delivery id = some d := by
  refine ⟨not_readsBack, ?_, ?_⟩
  · intro id hattempted
    obtain ⟨v, hv, request, hop⟩ := hattempted
    have hnone := move_not_handled run hv
    rw [hop] at hnone
    cases hnone
  · intro v hv id d hd
    exact run.lasts (P := fun s => s.delivery id = some d) (fun u hu => delivery_stays run hu) hv
      (delivery_stays run hv hd)

end

section Sample

/-- One configuration, for one event, and nothing enqueued. -/
def subscribedStore : Store where
  configs := oneDelivery.configs

def saleWorker : Worker := .deployed default { maxRetries := 3 }

/-- The asset is sold, and a worker comes by. -/
def saleTasks : Bool → Task
  | false => .trigger "luxe" "asset.sold" (.repeated 7) (.obj [("action", .str "LegalSell")])
  | true => .batch

def saleRun : List (Move interface Store Bool) × Pool interface Store Bool Unit :=
  (Task.pool saleWorker saleTasks subscribedStore).schedule machine
    [(false, {}), (false, { uuid := .repeated 8 }), (false, {}), (false, { uuid := .repeated 2 }),
      (true, {}), (true, {})]

theorem saleRun_interleaves :
    Interleaves machine (Task.pool saleWorker saleTasks subscribedStore) saleRun.1 saleRun.2 :=
  schedule_interleaves _ _

theorem deliveries_never_attempted_sale : ¬Attempted saleRun.1 (.repeated 2) :=
  (deliveries_never_attempted saleRun_interleaves).2.1 _

def hasReturned : Program interface Unit → Bool
  | .done _ => true
  | .call _ _ => false

/-- The configuration subscribes to the event and is not read back; the delivery is still
pending, with no attempt counted, when trigger and batch have returned. -/
theorem sale_unattempted :
    (∃ row, subscribedStore.config (.repeated 1) = some row ∧
      row.subscribes "luxe" "asset.sold" = true ∧ ¬ReadsBack saleWorker subscribedStore row) ∧
    (saleRun.2.state.delivery (.repeated 2)).any
      (fun d => d.status = .pending && d.attempts = 0) = true ∧
    ∀ i, hasReturned (saleRun.2.threads i) = true := by
  refine ⟨?_, by decide +kernel, by decide +kernel⟩
  have hsome : (subscribedStore.config (.repeated 1)).any (·.subscribes "luxe" "asset.sold") = true := by
    decide +kernel
  obtain ⟨row, hrow, hsubscribes⟩ := (Option.any_eq_true _ _).mp hsome
  exact ⟨row, hrow, hsubscribes, not_readsBack subscribedStore row⟩

end Sample

end RcProtocol.Webhooks
