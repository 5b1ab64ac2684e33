import RcProtocol.Library.JsonStrings
import RcProtocol.Webhooks.Spec

/-!
Any number of webhook workers on one queue. A worker keeps no hold on what it fetched,
and its update asks for no status: what another worker recorded in between is
overwritten. A delivery is safe as long as no attempt of it is recorded between a
worker's fetch and its own attempt or update.
-/

namespace RcProtocol.Webhooks
open Library

def finalStatuses : List DeliveryStatus := [.sent, .abandoned]

/-- As a delivery stands when it is enqueued. -/
def WebhookDelivery.Enqueued (d : WebhookDelivery) : Prop := d.status = .pending ∧ d.attempts = 0

section Histories
variable {ι : Type} [DecidableEq ι] (h : List (Move interface Store ι))

/-- At each attempt, and at each update after one, the row still counts as many attempts
as when its worker fetched it. -/
def AsFetched : Prop :=
  ∀ h₁ v h₂, h = h₁ ++ v :: h₂ → ∀ d, Fetched (eventsOf v.thread h₁) d →
    v.event.op.handled = some d.deliveryID → v.before.attempts d.deliveryID = some d.attempts

variable (maxRetries : Int) (c : Pool interface Store ι Unit)

structure Safe : Prop where
  final : ∀ v ∈ h, ∀ id d, v.before.delivery id = some d → d.status ∈ finalStatuses →
    ∃ d', c.state.delivery id = some d' ∧ d'.status = d.status
  bounded : ∀ id d, c.state.delivery id = some d → (d.attempts : Int) ≤ maxRetries
  once : ∀ h₁ v h₂, h = h₁ ++ v :: h₂ → ∀ id request, v.event.op = .send id request →
    ∀ u ∈ h₁, ∀ d, u.after.delivery id = some d → d.status ≠ .sent

end Histories

namespace Store
variable {s : Store} {id key : Uuid} {f : WebhookDelivery → WebhookDelivery}
  {hf : ∀ d, (f d).deliveryID = d.deliveryID}

theorem delivery_updateDelivery :
    (s.updateDelivery key f hf).delivery id =
      (s.delivery id).map fun d => if d.deliveryID = key then f d else d := by
  have hid : ∀ d, decide ((f d).deliveryID = id) = decide (d.deliveryID = id) := fun d => by rw [hf]
  simpa only [delivery, updateDelivery, decide_eq_true_eq] using
    Table.find_update (t := s.deliveries) (p := fun d => d.deliveryID = key) hid

theorem id_of_delivery {d : WebhookDelivery} (h : s.delivery id = some d) : d.deliveryID = id := by
  have hid := Table.prop_of_find (t := s.deliveries) h
  exact of_decide_eq_true hid

theorem delivery_of_mem {d : WebhookDelivery} (hd : d ∈ s.deliveries.rows) :
    s.delivery d.deliveryID = some d :=
  Table.find_eq_some hd (by simp) fun a _ ha => of_decide_eq_true ha

theorem delivery_updateDelivery_self {d : WebhookDelivery} (hd : s.delivery key = some d) :
    (s.updateDelivery key f hf).delivery key = some (f d) := by
  rw [delivery_updateDelivery, hd, Option.map_some, if_pos (id_of_delivery hd)]

theorem delivery_updateDelivery_other (hne : id ≠ key) :
    (s.updateDelivery key f hf).delivery id = s.delivery id := by
  rw [delivery_updateDelivery]
  cases hd : s.delivery id with
  | none => rfl
  | some d =>
      have hid := id_of_delivery hd
      rw [Option.map_some, if_neg]
      rwa [hid]

theorem written_snd (s' : Store) (env : Env) :
    (s.written env s').2 = if env.writes then s' else s := by
  rw [written, Env.writes]
  cases env.fails with
  | none => rfl
  | some e =>
      rw [Option.isNone_some, Bool.false_or]

theorem execUpdate_snd {env : Env} {body : List UInt8}
    {g : String → WebhookDelivery → WebhookDelivery}
    {hg : ∀ text d, (g text d).deliveryID = d.deliveryID} :
    (s.execUpdate env key body g hg).2 = s ∨
      ∃ text, (s.execUpdate env key body g hg).2 = s.updateDelivery key (g text) (hg text) := by
  dsimp only [execUpdate]
  split
  · exact .inl rfl
  · next text _ =>
    split
    · exact .inl rfl
    · rw [written_snd]
      split
      · exact .inr ⟨text, rfl⟩
      · exact .inl rfl

section Update
variable {d : WebhookDelivery} {env : Env} {body : List UInt8} {text : String}
  {g : String → WebhookDelivery → WebhookDelivery}
  {hg : ∀ text d, (g text d).deliveryID = d.deliveryID}

theorem execUpdate_taken (hd : s.delivery key = some d) (htext : textIn body = some text)
    (hlt : d.attempts < maxInt) (hwrites : env.writes = true) :
    (s.execUpdate env key body g hg).2 = s.updateDelivery key (g text) (hg text) := by
  rw [execUpdate, htext, hd, Option.any_some]
  dsimp only
  rw [if_neg (by simpa using hlt), written_snd, if_pos hwrites]

theorem execUpdate_refused (hd : s.delivery key = some d)
    (hnot : ¬((textIn body).isSome = true ∧ d.attempts < maxInt ∧ env.writes = true)) :
    (s.execUpdate env key body g hg).2 = s := by
  rw [execUpdate, hd, Option.any_some]
  cases htext : textIn body with
  | none => rfl
  | some text =>
      dsimp only
      split
      · rfl
      · next hlt =>
        rw [written_snd, if_neg]
        intro hwrites
        apply hnot
        rw [htext]
        exact ⟨rfl, by simpa using hlt, hwrites⟩

end Update

theorem execInsert_snd (s : Store) (env : Env) (webhookID : Uuid) (eventType : String)
    (payload : Json) :
    (s.execInsert env webhookID eventType payload).2 = s ∨
      ∃ d deliveries, d.Enqueued ∧ s.deliveries.insert d = some deliveries ∧
        (s.execInsert env webhookID eventType payload).2 = { s with deliveries := deliveries } := by
  dsimp only [execInsert]
  split
  · exact .inl rfl
  split
  · exact .inl rfl
  split
  · exact .inl rfl
  · next deliveries hinsert =>
    rw [written_snd]
    split
    · exact .inr ⟨_, deliveries, ⟨rfl, rfl⟩, hinsert, rfl⟩
    · exact .inl rfl

end Store

/-- What an update of a delivery leaves. -/
inductive Records : Op → WebhookDelivery → WebhookDelivery → Prop
  | success (id : Uuid) (d : WebhookDelivery) (now : Time) (statusCode : Nat) (responseBody : List UInt8)
      (text : String) :
      Records (.updateSuccess id statusCode responseBody) d (d.succeed now statusCode text)
  | failure (id : Uuid) (d : WebhookDelivery) (now : Time) (statusCode : Option Nat)
      (responseBody : List UInt8) (text : String) (nextRetryAt : Option Time)
      (maxRetriesReached : Bool) :
      Records (.updateFailure id statusCode responseBody nextRetryAt maxRetriesReached) d
        (d.fail now statusCode text nextRetryAt maxRetriesReached)

theorem Records.attempts {op : Op} {d d' : WebhookDelivery} (h : Records op d d') :
    d'.attempts = d.attempts + 1 := by
  cases h <;> rfl

theorem Records.recorded {op : Op} {d d' : WebhookDelivery} (h : Records op d d') :
    op.recorded = op.handled := by
  cases h <;> rfl

/-- What one step can do to a delivery. -/
inductive Changes (op : Op) (id : Uuid) : Option WebhookDelivery → Option WebhookDelivery → Prop
  | same (d : Option WebhookDelivery) : Changes op id d d
  | enqueued {d : WebhookDelivery} (hd : d.Enqueued) : Changes op id none (some d)
  | recorded {d d' : WebhookDelivery} (hop : op.handled = some id) (hd : Records op d d') :
      Changes op id (some d) (some d')

theorem changes_update {s s' : Store} {op : Op} {id key : Uuid}
    {f : String → WebhookDelivery → WebhookDelivery}
    {hf : ∀ text d, (f text d).deliveryID = d.deliveryID}
    (hs : s' = s ∨ ∃ text, s' = s.updateDelivery key (f text) (hf text))
    (hop : op.handled = some key) (hrecords : ∀ text d, Records op d (f text d)) :
    Changes op id (s.delivery id) (s'.delivery id) := by
  obtain rfl | ⟨text, rfl⟩ := hs
  · exact .same _
  rw [Store.delivery_updateDelivery]
  cases hd : s.delivery id with
  | none => exact .same none
  | some d =>
      have hid := Store.id_of_delivery hd
      by_cases hkey : d.deliveryID = key
      · rw [Option.map_some, if_pos hkey]
        exact .recorded (by rw [hop, ← hkey, hid]) (hrecords text d)
      · rw [Option.map_some, if_neg hkey]
        exact .same _

theorem exec_changes (env : Env) (op : Op) (s : Store) (id : Uuid) :
    Changes op id (s.delivery id) ((exec env op s).2.delivery id) := by
  cases op with
  | selectSubscribed _ _ | newUuid | utcNow | selectPending _ | selectConfig _ | send _ _ | now =>
      exact .same _
  | updateSuccess key statusCode responseBody =>
      exact changes_update Store.execUpdate_snd rfl fun _ d => .success key d _ _ _ _
  | updateFailure key statusCode responseBody nextRetryAt maxRetriesReached =>
      exact changes_update Store.execUpdate_snd rfl fun _ d => .failure key d _ _ _ _ _ _
  | insertDelivery webhookID eventType payload =>
      show Changes _ id (s.delivery id) ((s.execInsert env webhookID eventType payload).2.delivery id)
      obtain hsame | ⟨d, deliveries, hd, hinsert, hafter⟩ :=
        s.execInsert_snd env webhookID eventType payload
      · rw [hsame]
        exact .same _
      · rw [hafter]
        simp only [Store.delivery, Table.find_insert hinsert]
        cases s.deliveries.find fun d => d.deliveryID = id with
        | some d' => exact .same _
        | none =>
            rw [Option.none_or]
            split
            · exact .enqueued hd
            · exact .same _

section Runs
variable {ι : Type} [DecidableEq ι] {w : Worker} {tasks : ι → Task} {start : Store}
  {h h₁ h₂ : List (Move interface Store ι)} {c : Pool interface Store ι Unit}
  {v : Move interface Store ι} {d d' : WebhookDelivery} {id : Uuid}

theorem move_changes (run : Interleaves machine (Task.pool w tasks start) h c) (hv : v ∈ h)
    (id : Uuid) :
    Changes v.event.op id (v.before.delivery id) (v.after.delivery id) := by
  obtain ⟨env, hexec⟩ := run.move hv
  have hafter : (exec env v.event.op v.before).2 = v.after := congrArg Prod.snd hexec
  rw [← hafter]
  exact exec_changes env v.event.op v.before id

/-- A row is as it was, or counts more attempts. -/
def Grows (id : Uuid) (s s' : Store) : Prop :=
  ∀ d, s.delivery id = some d →
    ∃ d', s'.delivery id = some d' ∧ (d' = d ∨ d.attempts < d'.attempts)

theorem Grows.refl (id : Uuid) (s : Store) : Grows id s s :=
  fun d hd => ⟨d, hd, .inl rfl⟩

theorem Grows.trans {s s' s'' : Store} (h : Grows id s s') (h' : Grows id s' s'') :
    Grows id s s'' := by
  intro d hd
  obtain ⟨d', hd', hsame⟩ := h d hd
  obtain ⟨d'', hd'', hsame'⟩ := h' d' hd'
  refine ⟨d'', hd'', ?_⟩
  cases hsame with
  | inl hsame =>
      rw [hsame] at hsame'
      exact hsame'
  | inr hlt =>
      cases hsame' with
      | inl hsame' =>
          rw [hsame']
          exact .inr hlt
      | inr hlt' => exact .inr (hlt.trans hlt')

theorem move_grows (run : Interleaves machine (Task.pool w tasks start) h c) (hv : v ∈ h)
    (id : Uuid) :
    Grows id v.before v.after := by
  intro d hd
  have hchanges := move_changes run hv id
  rw [hd] at hchanges
  generalize v.after.delivery id = after at hchanges
  cases hchanges with
  | same => exact ⟨d, rfl, .inl rfl⟩
  | @recorded _ d' _ hrecords => exact ⟨d', rfl, .inr (by rw [hrecords.attempts]; omega)⟩

/-- What a worker fetches is a row as it stands, and pending. -/
theorem fetched_pending (run : Interleaves machine (Task.pool w tasks start) h c) (hv : v ∈ h)
    {limit : Nat} {ds : List WebhookDelivery} (hevent : v.event = ⟨.selectPending limit, .ok ds⟩)
    (hd : d ∈ ds) : v.after.delivery d.deliveryID = some d ∧ d.status = .pending := by
  obtain ⟨env, hexec⟩ := run.move hv
  rw [hevent] at hexec
  have hanswer : orFails env (v.before.pending env.now env.rank limit) = .ok ds :=
    congrArg Prod.fst hexec
  have hstate : v.before = v.after := congrArg Prod.snd hexec
  dsimp only [orFails] at hanswer
  split at hanswer
  · cases hanswer
  · obtain rfl := Except.ok.inj hanswer
    have hmem := List.mem_of_mem_take hd
    rw [List.mem_insertionSort, List.mem_filter, WebhookDelivery.due, Bool.and_eq_true,
      decide_eq_true_eq] at hmem
    rw [← hstate]
    exact ⟨Store.delivery_of_mem hmem.1, hmem.2.1⟩

/-- A row with the attempts it was fetched with is the one that was fetched. -/
theorem fetched_unchanged (run : Interleaves machine (Task.pool w tasks start) h c)
    (hh : h = h₁ ++ v :: h₂) (hd : Fetched (eventsOf v.thread h₁) d)
    (hsame : v.before.attempts d.deliveryID = some d.attempts) :
    v.before.delivery d.deliveryID = some d ∧ d.status = .pending := by
  obtain ⟨limit, ds, hmem, hd⟩ := hd
  obtain ⟨u, hu, -, hevent⟩ := mem_eventsOf.mp hmem
  obtain ⟨h₀, h', rfl⟩ := List.append_of_mem hu
  rw [List.append_assoc, List.cons_append] at hh
  have hu : u ∈ h := by
    rw [hh]
    simp
  obtain ⟨hstored, hpending⟩ := fetched_pending run hu hevent hd
  have hgrows : Grows d.deliveryID u.after v.before := by
    apply run.relates_between (Grows.refl _) Grows.trans hh
    intro x hx
    exact move_grows run (by rw [hh]; simp [hx]) _
  obtain ⟨d', hd', hunchanged | hlt⟩ := hgrows d hstored
  · rw [hd', hunchanged]
    exact ⟨rfl, hpending⟩
  · rw [Store.attempts, hd', Option.map_some, Option.some.injEq] at hsame
    omega

/-- What is handled is pending: it was so when it was fetched. -/
theorem handled_pending (run : Interleaves machine (Task.pool w tasks start) h c)
    (hfetched : AsFetched h) (hh : h = h₁ ++ v :: h₂) (hid : v.event.op.handled = some id) :
    ∃ row, v.before.delivery id = some row ∧ row.status = .pending := by
  have hcall := pool_calls run hh
  obtain ⟨d, hd, rfl⟩ : ∃ d, Fetched (eventsOf v.thread h₁) d ∧ d.deliveryID = id := by
    generalize v.event.op = op at hcall hid
    cases hcall with
    | aside hnone => rw [hnone] at hid; cases hid
    | send hd _ => exact ⟨_, hd, Option.some.inj hid⟩
    | success hd _ _ _ => exact ⟨_, hd, Option.some.inj hid⟩
    | failure hd _ _ _ _ => exact ⟨_, hd, Option.some.inj hid⟩
  obtain ⟨hrow, hpending⟩ := fetched_unchanged run hh hd (hfetched h₁ v h₂ hh d hd hid)
  exact ⟨d, hrow, hpending⟩

/-- Where no attempt of a delivery is recorded between its fetch and what its worker does
with it, each worker finds its deliveries as it fetched them. -/
theorem asFetched_of_isolated (run : Interleaves machine (Task.pool w tasks start) h c)
    (halone : ∀ h₁ u h₂ v h₃, h = h₁ ++ u :: (h₂ ++ v :: h₃) → u.thread = v.thread →
      ∀ d, Fetched [u.event] d → v.event.op.handled = some d.deliveryID →
        ∀ x ∈ h₂, x.event.op.recorded ≠ some d.deliveryID) : AsFetched h := by
  intro h₁ v h₂ hh d hd hid
  obtain ⟨limit, ds, hmem, hd⟩ := hd
  obtain ⟨u, hu, hthread, hevent⟩ := mem_eventsOf.mp hmem
  obtain ⟨h₀, h', rfl⟩ := List.append_of_mem hu
  rw [List.append_assoc, List.cons_append] at hh
  have hu : u ∈ h := by
    rw [hh]
    simp
  obtain ⟨hstored, -⟩ := fetched_pending run hu hevent hd
  have hquiet := halone h₀ u h' v h₂ hh hthread d ⟨limit, ds, by rw [hevent]; exact .head _, hd⟩ hid
  have hkept : v.before.delivery d.deliveryID = some d := by
    apply run.keeps_between (I := fun s => s.delivery d.deliveryID = some d) hh hstored
    intro x hx hbefore
    have hchanges := move_changes run (by rw [hh]; simp [hx] : x ∈ h) d.deliveryID
    rw [hbefore] at hchanges
    generalize x.after.delivery d.deliveryID = after at hchanges
    cases hchanges with
    | same => rfl
    | recorded hop hrecords => exact absurd (hrecords.recorded.trans hop) (hquiet x hx)
  rw [Store.attempts, hkept, Option.map_some]

theorem Calls.recorded {log : Log} {op : Op} (hcall : Calls w log op) (hrecords : Records op d d')
    (hattempts : ∀ e, Fetched log e → op.handled = some e.deliveryID → d.attempts = e.attempts) :
    d'.attempts = d.attempts + 1 ∧
      (d'.status = .pending → (d'.attempts : Int) < w.retryConfig.maxRetries) := by
  cases hrecords with
  | success id d now statusCode responseBody text =>
      exact ⟨rfl, fun hpending => by cases hpending⟩
  | failure id d now statusCode responseBody text nextRetryAt maxRetriesReached =>
      refine ⟨rfl, fun hpending => ?_⟩
      cases hcall with
      | aside hnone => cases hnone
      | @failure e he _ _ _ _ _ =>
          have hsame := hattempts e he rfl
          simp only [WebhookDelivery.fail] at hpending ⊢
          by_contra hle
          rw [if_pos (decide_eq_true (by omega))] at hpending
          cases hpending

/-- No delivery has used up its attempts while it is pending. -/
def Store.Bounded (maxRetries : Int) (s : Store) : Prop :=
  ∀ id d, s.delivery id = some d →
    (d.attempts : Int) ≤ maxRetries ∧ (d.status = .pending → (d.attempts : Int) < maxRetries)

theorem move_bounded (run : Interleaves machine (Task.pool w tasks start) h c)
    (hfetched : AsFetched h) (hmax : 1 ≤ w.retryConfig.maxRetries) (hv : v ∈ h)
    (hbefore : v.before.Bounded w.retryConfig.maxRetries) :
    v.after.Bounded w.retryConfig.maxRetries := by
  obtain ⟨h₁, h₂, hh⟩ := List.append_of_mem hv
  intro id d' hd'
  have hchanges := move_changes run hv id
  rw [hd'] at hchanges
  generalize hbefore_id : v.before.delivery id = before at hchanges
  cases hchanges with
  | same => exact hbefore id d' hbefore_id
  | enqueued henqueued =>
      rw [henqueued.2]
      exact ⟨by omega, fun _ => by omega⟩
  | @recorded d _ hop hrecords =>
      obtain ⟨d₀, hrow, hpending⟩ := handled_pending run hfetched hh hop
      obtain rfl := Option.some.inj (hrow.symm.trans hbefore_id)
      have hlt := (hbefore id d₀ hrow).2 hpending
      obtain ⟨hattempts, hstill⟩ := (pool_calls run hh).recorded hrecords fun e he hid => by
        have hsame := hfetched h₁ v h₂ hh e he hid
        obtain rfl := Option.some.inj (hop.symm.trans hid)
        rw [Store.attempts, hrow, Option.map_some, Option.some.injEq] at hsame
        exact hsame
      exact ⟨by omega, hstill⟩

/-- A status other than pending is kept. -/
theorem move_final (run : Interleaves machine (Task.pool w tasks start) h c)
    (hfetched : AsFetched h) (hv : v ∈ h) {status : DeliveryStatus} (hstatus : status ≠ .pending)
    (hbefore : ∃ d, v.before.delivery id = some d ∧ d.status = status) :
    ∃ d, v.after.delivery id = some d ∧ d.status = status := by
  obtain ⟨h₁, h₂, hh⟩ := List.append_of_mem hv
  obtain ⟨d, hd, rfl⟩ := hbefore
  have hchanges := move_changes run hv id
  rw [hd] at hchanges
  generalize v.after.delivery id = after at hchanges
  cases hchanges with
  | same => exact ⟨d, rfl, rfl⟩
  | recorded hop _ =>
      obtain ⟨d₀, hrow, hpending⟩ := handled_pending run hfetched hh hop
      obtain rfl := Option.some.inj (hd.symm.trans hrow)
      exact absurd hpending hstatus

theorem final_lasts (run : Interleaves machine (Task.pool w tasks start) h c)
    (hfetched : AsFetched h) (hv : v ∈ h) (hd : v.before.delivery id = some d)
    (hfinal : d.status ∈ finalStatuses) :
    ∃ d', c.state.delivery id = some d' ∧ d'.status = d.status := by
  have hstatus : d.status ≠ .pending := by
    intro hpending
    rw [hpending] at hfinal
    exact absurd hfinal (by decide)
  have step : ∀ u ∈ h, (∃ e, u.before.delivery id = some e ∧ e.status = d.status) →
      ∃ e, u.after.delivery id = some e ∧ e.status = d.status :=
    fun u hu => move_final run hfetched hu hstatus
  exact run.lasts (P := fun s => ∃ e, s.delivery id = some e ∧ e.status = d.status) step hv
    (step v hv ⟨d, hd, rfl⟩)

/-- What is attempted has not been sent before. -/
theorem attempted_unsent (run : Interleaves machine (Task.pool w tasks start) h c)
    (hfetched : AsFetched h) (hh : h = h₁ ++ v :: h₂) {request : OutgoingRequest}
    (hsend : v.event.op = .send id request) {u : Move interface Store ι} (hu : u ∈ h₁)
    (hd : u.after.delivery id = some d) : d.status ≠ .sent := by
  intro hsent
  obtain ⟨c₁, -, run₁, hstate, -⟩ := run.split hh
  have step : ∀ x ∈ h₁, (∃ e, x.before.delivery id = some e ∧ e.status = .sent) →
      ∃ e, x.after.delivery id = some e ∧ e.status = .sent :=
    fun x hx => move_final run hfetched (by rw [hh]; simp [hx]) (by decide)
  obtain ⟨e, he, hstill⟩ :=
    run₁.lasts (P := fun s => ∃ e, s.delivery id = some e ∧ e.status = .sent) step hu ⟨d, hd, hsent⟩
  obtain ⟨d₀, hrow, hpending⟩ := handled_pending run hfetched hh (by rw [hsend]; rfl)
  rw [hstate] at he
  obtain rfl := Option.some.inj (he.symm.trans hrow)
  rw [hstill] at hpending
  cases hpending

end Runs

section Sample

/-- What the worker decodes of this event list where the column hands out its JSON text. -/
def decodeJsonColumn (events : List String) (text : String) : Option (List String) :=
  if text = (TextArray.ofList events).out then
    JsonStrings.unmarshalStrings (Json.arr (events.map .str)).render
  else none

theorem decodeJsonColumn_out (events : List String) :
    decodeJsonColumn events (TextArray.ofList events).out = some events := by
  rw [decodeJsonColumn, if_pos rfl, JsonStrings.unmarshalStrings_render]

def courier : Worker where
  primitives := default
  retryConfig := { maxRetries := 3 }
  unmarshal := decodeJsonColumn ["asset.sold"]

def oneDelivery : Store where
  configs := .single
    { webhookID := .repeated 1
      brandID := "luxe"
      url := "https://hooks.luxe/rc"
      events := .ofList ["asset.sold"] }
  deliveries := .single
    { deliveryID := .repeated 2
      webhookID := .repeated 1
      eventType := "asset.sold"
      payload := .null
      createdAt := 0 }

theorem oneDelivery_enqueued : ∀ d ∈ oneDelivery.deliveries.rows, d.Enqueued := by
  intro d hd
  obtain rfl := List.mem_singleton.mp hd
  exact ⟨rfl, rfl⟩

def couriers : Pool interface Store Bool Unit := Task.pool courier (fun _ => .batch) oneDelivery

def serverError : Except SendError (Nat × List UInt8) := .ok (500, [])

def accepted : Except SendError (Nat × List UInt8) := .ok (200, [])

/-- One worker fails, the other comes when the retry is due. -/
def retriedRun : List (Move interface Store Bool) × Pool interface Store Bool Unit :=
  couriers.schedule machine
    [(false, {}), (false, {}), (false, { outcome := serverError }), (false, {}), (false, {}),
      (true, { now := 60000000 }), (true, {}), (true, { outcome := accepted }), (true, {})]

theorem retriedRun_interleaves : Interleaves machine couriers retriedRun.1 retriedRun.2 :=
  schedule_interleaves _ _

def fetchedBy : Event interface → List WebhookDelivery
  | ⟨.selectPending _, .ok ds⟩ => ds
  | _ => []

theorem mem_fetchedBy {log : Log} {d : WebhookDelivery} (hd : Fetched log d) :
    d ∈ log.flatMap fetchedBy := by
  obtain ⟨limit, ds, hmem, hd⟩ := hd
  exact List.mem_flatMap.mpr ⟨_, hmem, hd⟩

/-- What `AsFetched` asks of one move, as it can be computed. -/
def FoundAsFetched {ι : Type} [DecidableEq ι] (past : List (Move interface Store ι))
    (v : Move interface Store ι) : Prop :=
  ∀ d ∈ (eventsOf v.thread past).flatMap fetchedBy,
    v.event.op.handled = some d.deliveryID → v.before.attempts d.deliveryID = some d.attempts

instance {ι : Type} [DecidableEq ι] (past : List (Move interface Store ι))
    (v : Move interface Store ι) : Decidable (FoundAsFetched past v) :=
  inferInstanceAs (Decidable (∀ _ ∈ _, _ → _))

theorem asFetched_of_found {ι : Type} [DecidableEq ι] {h : List (Move interface Store ι)}
    (hfound : Follows FoundAsFetched [] h) : AsFetched h := by
  intro h₁ v h₂ hh d hd hid
  exact follows_iff.mp hfound h₁ v h₂ hh d (mem_fetchedBy hd) hid

/-- Both workers fetch the delivery. One has it accepted; the failure of the other makes
it pending again. -/
def racedRun : List (Move interface Store Bool) × Pool interface Store Bool Unit :=
  couriers.schedule machine
    [(false, {}), (true, {}), (false, {}), (false, { outcome := accepted }), (false, {}),
      (true, {}), (true, { outcome := serverError }), (true, {}), (true, {})]

theorem racedRun_interleaves : Interleaves machine couriers racedRun.1 racedRun.2 :=
  schedule_interleaves _ _

end Sample

end RcProtocol.Webhooks
