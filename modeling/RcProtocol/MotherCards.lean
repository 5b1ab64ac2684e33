import RcProtocol.Api.AuthorityDevices
import RcProtocol.Api.EntangleSpec
import RcProtocol.Commits

/-!
Which assets have a mother card. The card is linked before the transaction that
moves the asset, and nothing takes it back when the transaction is not reached: then
the link stays, and the index of Active links refuses every later attempt.
-/

namespace RcProtocol
open Library

/-- The asset has the event of its entangling. -/
def Db.Activated (db : Db) (assetId : String) : Prop :=
  ∃ e ∈ db.events.rows, e.assetId = assetId ∧ e.action = .activateEntangle

/-- A request that writes the rows of mother cards or of events. -/
inductive CardRequest where
  | asset (r : AssetRequest)
  | register (actor : ActorContext) (req : RegisterPhysicalMotherCardRequest) (draws : Draws)

namespace CardRequest

def handle (app : AppState) : CardRequest → Service Reply
  | asset r => r.handle app
  | register actor req draws => registerPhysicalMotherCard app draws actor req

/-- The routers deliver the request. -/
def Routed (r : CardRequest) : Prop := ∀ q, r = .asset (.write q) → q.Routed

def entangle (call : EntangleCall) : CardRequest := .asset (.write call.request)

def pool {ι : Type} (app : AppState) (requests : ι → CardRequest) (start : Store) :
    Pool api Store ι Reply :=
  ⟨start, fun i => (requests i).handle app⟩

def Calls (app : AppState) : CardRequest → Log → Op → Prop
  | asset (.write q) => q.Calls
  | asset (.transfer call) => call.Steps app
  | register .. => fun _ => RegisterCall

theorem handle_meets (app : AppState) (r : CardRequest) :
    Meets (r.Calls app) (fun _ _ => True) [] (r.handle app) := by
  cases r with
  | asset r =>
      cases r with
      | write q => exact (q.handle_meets app).mono (fun _ _ h => h) fun _ _ _ => trivial
      | transfer call =>
          exact (call.transferHandler_steps app).mono (fun _ _ h => h) fun _ _ _ => trivial
  | register actor req draws => exact registerPhysicalMotherCard_meets app draws actor req

end CardRequest

section Histories
variable {ι : Type} [DecidableEq ι] (app : AppState) (requests : ι → CardRequest)
  (h : List (Move api Store ι)) (c : Pool api Store ι Reply)

/-- The request is about to entangle the asset: it has issued a card and not returned. -/
def Issuing (id : String) (i : ι) : Prop :=
  (∃ call, requests i = .entangle call ∧ call.assetId = id) ∧
    (∀ reply, c.threads i ≠ .done reply) ∧ ¬Unissued (eventsOf i h)

structure CardsFollowEvents : Prop where
  backed : ∀ id, c.state.db.Activated id → c.state.db.HasCard id
  linked : ∀ id, (∀ i, ¬Issuing requests h c id i) →
    (c.state.db.HasCard id ↔ c.state.db.Activated id)
  refused : ∀ i call reply, requests i = .entangle call → c.threads i = .done reply →
    reply.status ≠ 200 → Unissued (eventsOf i h)
  retried : ∀ i call reply, requests i = .entangle call → c.threads i = .done reply →
    reply.status ≠ 200 → (∀ j, ¬Issuing requests h c call.assetId j) →
      ¬c.state.db.Activated call.assetId → ∀ draws id required stored uid epoch,
        EntangleCall.Checked app { call with draws := draws } c.state.db required stored uid epoch →
          EntangleCall.Fresh { call with draws := draws } c.state.db id →
            (machine.run (EntangleCall.handle app { call with draws := draws })
              (fun _ => quiet id) c.state).answer.status = 200

/-- No statement of a request fails behind the device of its card. -/
def Unbroken : Prop :=
  ∀ v ∈ h, ∀ call, requests v.thread = .entangle call → breaksCard v.event = false

end Histories

section Effects
variable {e : Event api} {db db' : Db} {id : String}

theorem Changes.hasCard (h : Changes e db db') (hcard : db.HasCard id) : db'.HasCard id := by
  cases h with
  | insertEntanglement hinsert =>
      obtain ⟨r, hr, hid, hactive⟩ := hcard
      exact ⟨r, (Table.mem_insert hinsert).mpr (.inl hr), hid, hactive⟩
  | _ => exact hcard

/-- A card begins with a link. -/
theorem Changes.hasCard_begins (h : Changes e db db') (hbefore : ¬db.HasCard id)
    (hcard : db'.HasCard id) :
    ∃ row a u, e = ⟨.insertEntanglement row, .ok a⟩ ∧ (row u).assetId = id := by
  cases h with
  | insertEntanglement hinsert =>
      obtain ⟨r, hr, hid, hactive⟩ := hcard
      obtain hr | rfl := (Table.mem_insert hinsert).mp hr
      · exact absurd ⟨r, hr, hid, hactive⟩ hbefore
      · exact ⟨_, _, _, rfl, hid⟩
  | _ => exact absurd hcard hbefore

theorem Changes.hasCard_linked {row : Uuid → EntanglementRow} {a : Uuid}
    (h : Changes ⟨.insertEntanglement row, .ok a⟩ db db')
    (hrow : ∀ u, (row u).assetId = id ∧ (row u).entanglementState = "Active") :
    db'.HasCard id := by
  cases h with
  | read h => cases h
  | insertEntanglement hinsert => exact ⟨_, (Table.mem_insert hinsert).mpr (.inr rfl), hrow _⟩

theorem Changes.activated (h : Changes e db db') (hactivated : db.Activated id) :
    db'.Activated id := by
  obtain ⟨r, hr, hrow⟩ := hactivated
  cases h with
  | persistAction hevents | insertTransferEvent hevents =>
      exact ⟨r, (Table.mem_insert hevents).mpr (.inl hr), hrow⟩
  | _ => exact ⟨r, hr, hrow⟩

/-- An event begins with the statement that inserts it. -/
theorem Changes.activated_begins (h : Changes e db db') (hbefore : ¬db.Activated id)
    (hactivated : db'.Activated id) :
    (∃ w, e = ⟨.persistAction w, .ok ()⟩ ∧ w.auditEvent.assetId = id ∧
      w.auditEvent.action = .activateEntangle) ∨
    ∃ row, e = ⟨.insertTransferEvent row, .ok ()⟩ ∧ row.action = .activateEntangle := by
  obtain ⟨r, hr, hid, haction⟩ := hactivated
  have hnew : r ∉ db.events.rows := fun hold => hbefore ⟨r, hold, hid, haction⟩
  cases h with
  | @persistAction w _ _ hevents _ =>
      obtain hr | rfl := (Table.mem_insert hevents).mp hr
      · exact absurd hr hnew
      · exact .inl ⟨w, rfl, hid, haction⟩
  | insertTransferEvent hevents =>
      obtain hr | rfl := (Table.mem_insert hevents).mp hr
      · exact absurd hr hnew
      · exact .inr ⟨_, rfl, haction⟩
  | _ => exact absurd hr hnew

theorem Changes.activated_persisted {w : PersistAction}
    (h : Changes ⟨.persistAction w, .ok ()⟩ db db') (hid : w.auditEvent.assetId = id)
    (haction : w.auditEvent.action = .activateEntangle) : db'.Activated id := by
  cases h with
  | read h => cases h
  | persistAction hevents =>
      exact ⟨_, (Table.mem_insert hevents).mpr (.inr rfl), hid, haction⟩

end Effects

section Calls
variable {app : AppState} {r : CardRequest} {log : Log} {id : String}

theorem entangle_of_act {q : WriteRequest} (hrouted : q.Routed) (hact : q.act = .activateEntangle) :
    ∃ call : EntangleCall, q = call.request ∧ call.assetId = q.assetId := by
  cases q with
  | action call =>
      have hact : call.action = .activateEntangle := hact
      have hrouted : call.action ∈ _ := hrouted
      rw [hact] at hrouted
      simp at hrouted
  | activate => cases hact
  | activateEntangle assetId actor headers payload draws =>
      exact ⟨⟨assetId, actor, headers, payload, draws⟩, rfl, rfl⟩

theorem CardRequest.Calls.links {row : Uuid → EntanglementRow} (hrouted : r.Routed)
    (h : r.Calls app log (.insertEntanglement row)) :
    ∃ call : EntangleCall, r = .entangle call ∧ ∀ u, (row u).assetId = call.assetId := by
  cases r with
  | register => cases h
  | asset r =>
      cases r with
      | transfer call =>
          have h : call.Steps app log (.insertEntanglement row) := h
          cases h with
          | authority _ _ hop => cases hop.authorityCall []
      | write q =>
          have h : q.Calls log (.insertEntanglement row) := h
          cases h with
          | side hw hop =>
              cases q with
              | activate => cases hop
              | action | activateEntangle =>
                  obtain ⟨hact, hcard⟩ := hop
                  obtain ⟨call, hq, hid⟩ := entangle_of_act (hrouted _ rfl) hact
                  cases hcard with
                  | entangle _ hrow =>
                      exact ⟨call, by rw [CardRequest.entangle, hq], fun u =>
                        (hrow u).1.trans hid.symm⟩

theorem CardRequest.Calls.transferEvent {row : EventRow}
    (h : r.Calls app log (.insertTransferEvent row)) : row.action = .transfer := by
  cases r with
  | register => cases h
  | asset r =>
      cases r with
      | write q =>
          have h : q.Calls log (.insertTransferEvent row) := h
          cases h with
          | side hw hop =>
              cases q with
              | activate => cases hop
              | action | activateEntangle => cases hop.2
      | transfer call =>
          have h : call.Steps app log (.insertTransferEvent row) := h
          cases h with
          | authority _ _ hop => cases hop.authorityCall []
          | event => rfl

/-- A transaction is about the asset its request fetched, and its event about the action. -/
theorem CardRequest.Calls.persists {w : PersistAction} (h : r.Calls app log (.persistAction w)) :
    ∃ (q : WriteRequest) (stored : AssetRecord), r = .asset (.write q) ∧
      (⟨.selectAssetRecord q.assetId, .ok (some stored)⟩ : Event api) ∈ log ∧
        w.auditEvent.assetId = stored.assetId ∧ w.auditEvent.action = q.act := by
  cases r with
  | register => cases h
  | asset r =>
      cases r with
      | transfer call =>
          have h : call.Steps app log (.persistAction w) := h
          cases h with
          | authority _ _ hop => cases hop.authorityCall []
      | write q =>
          obtain ⟨required, stored, rest, rfl, hw, -⟩ := WriteRequest.Calls.persist_inv h
          refine ⟨q, stored, rfl, by simp [WriteRequest.start], ?_, ?_⟩
          · rw [← hw.next_assetId, hw.applied.event_eq, hw.applied.next_eq]
          · rw [hw.applied.event_eq]

theorem EntangleCall.eq_of_entangle {call call' : EntangleCall}
    (h : CardRequest.entangle call = .entangle call') : call = call' := by
  cases call
  cases call'
  simpa [CardRequest.entangle, EntangleCall.request] using h

/-- A request to entangle orders its statements, and ends as it does. -/
theorem CardRequest.handle_ends (app : AppState) (r : CardRequest) :
    Meets (fun log op => ∀ call, r = .entangle call → call.Orders log op)
      (fun log reply => ∀ call, r = .entangle call → EntangleCall.Ends log reply) []
      (r.handle app) := by
  by_cases hr : ∃ call, r = .entangle call
  · obtain ⟨call, rfl⟩ := hr
    have hends : Meets call.Orders EntangleCall.Ends [] (call.handle app) :=
      activateEntangleAsset_ends
    refine hends.mono ?_ ?_
    · intro log op h call' hcall
      rw [← EntangleCall.eq_of_entangle hcall]
      exact h
    · intro log reply h call' hcall
      exact h
  · refine (r.handle_meets app).mono ?_ ?_
    · intro log op _ call hcall
      exact absurd ⟨call, hcall⟩ hr
    · intro log reply _ call hcall
      exact absurd ⟨call, hcall⟩ hr

end Calls

section Runs
variable {ι : Type} [DecidableEq ι] {app : AppState} {requests : ι → CardRequest}
  {start : Store} {h h₁ h₂ : List (Move api Store ι)} {c : Pool api Store ι Reply}
  {v : Move api Store ι} {id : String}

theorem card_changes (run : Interleaves machine (CardRequest.pool app requests start) h c)
    (hv : v ∈ h) : Changes v.event v.before.db v.after.db := by
  obtain ⟨env, hexec⟩ := run.move hv
  exact exec_changes hexec

theorem hasCard_lasts (run : Interleaves machine (CardRequest.pool app requests start) h c)
    (hv : v ∈ h) (hcard : v.after.db.HasCard id) : c.state.db.HasCard id :=
  run.lasts (P := fun s => s.db.HasCard id) (fun _ hu => (card_changes run hu).hasCard) hv hcard

theorem hasCard_stays (run : Interleaves machine (CardRequest.pool app requests start) h c)
    (hcard : start.db.HasCard id) : c.state.db.HasCard id :=
  run.stays (P := fun s => s.db.HasCard id) (fun _ hu => (card_changes run hu).hasCard) hcard

theorem activated_stays (run : Interleaves machine (CardRequest.pool app requests start) h c)
    (hactivated : start.db.Activated id) : c.state.db.Activated id :=
  run.stays (P := fun s => s.db.Activated id) (fun _ hu => (card_changes run hu).activated) hactivated

theorem activated_lasts (run : Interleaves machine (CardRequest.pool app requests start) h c)
    (hv : v ∈ h) (hactivated : v.after.db.Activated id) : c.state.db.Activated id :=
  run.lasts (P := fun s => s.db.Activated id) (fun _ hu => (card_changes run hu).activated) hv
    hactivated

theorem persisted_inv (run : Interleaves machine (CardRequest.pool app requests start) h c)
    (hv : v ∈ h) {w : PersistAction} (hw : v.event = ⟨.persistAction w, .ok ()⟩) :
    ∃ q, requests v.thread = .asset (.write q) ∧ w.auditEvent.assetId = q.assetId ∧
      w.auditEvent.action = q.act := by
  obtain ⟨h₁, h₂, hh⟩ := List.append_of_mem hv
  have hcalls := run.calls (fun i => (requests i).handle_meets app) hh
  rw [hw] at hcalls
  obtain ⟨q, stored, hq, hfetched, hid, hact⟩ := CardRequest.Calls.persists hcalls
  obtain ⟨_, run₁, _⟩ := run.cut hh
  obtain ⟨u, -, -, -, hstored⟩ := fetched_of_mem run₁ hfetched
  exact ⟨q, hq, hid.trans (Db.selectAssetRecord_assetId hstored), hact⟩

/-- An event of an entangling is backed by a card. -/
theorem activated_backed (run : Interleaves machine (CardRequest.pool app requests start) h c)
    (hrouted : ∀ i, (requests i).Routed)
    (hstart : start.db.Activated id → start.db.HasCard id) (hactivated : c.state.db.Activated id) :
    c.state.db.HasCard id := by
  obtain hold | ⟨v, hv, hbefore, hafter⟩ :=
    run.begins (P := fun s => s.db.Activated id) hactivated
  · exact hasCard_stays run (hstart hold)
  · obtain ⟨h₁, h₂, hh⟩ := List.append_of_mem hv
    obtain ⟨w, hw, hid, haction⟩ | ⟨row, hrow, haction⟩ :=
      (card_changes run hv).activated_begins hbefore hafter
    · obtain ⟨q, hq, hasset, hact⟩ := persisted_inv run hv hw
      obtain ⟨call, rfl, hcall⟩ := entangle_of_act (hrouted v.thread q hq) (hact.symm.trans haction)
      have horders := run.calls (fun i => (requests i).handle_ends app) hh call hq
      rw [hw] at horders
      obtain ⟨row, a, hlinked, hrow⟩ := horders w rfl
      obtain ⟨u, hu, -, hevent⟩ := mem_eventsOf.mp hlinked
      have hmem : u ∈ h := by
        rw [hh]
        exact List.mem_append_left _ hu
      have hchange := card_changes run hmem
      rw [hevent] at hchange
      refine hasCard_lasts run hmem (hchange.hasCard_linked fun u => ?_)
      rw [← hid, hasset, ← hcall]
      exact hrow u
    · have hcalls := run.calls (fun i => (requests i).handle_meets app) hh
      rw [hrow] at hcalls
      rw [CardRequest.Calls.transferEvent hcalls] at haction
      cases haction

/-- A finished request that has issued a card has committed, unless a statement failed. -/
theorem finished_activated (run : Interleaves machine (CardRequest.pool app requests start) h c)
    (hunbroken : Unbroken requests h) {i : ι} {call : EntangleCall} {reply : Reply}
    (hcall : requests i = .entangle call) (hdone : c.threads i = .done reply) :
    Unissued (eventsOf i h) ∨ reply.status = 200 ∧ c.state.db.Activated call.assetId := by
  have hends := run.answers (fun i => (requests i).handle_ends app) hdone call hcall
  cases hends with
  | unissued h => exact .inl h
  | broken he hbroken =>
      obtain ⟨u, hu, hthread, rfl⟩ := mem_eventsOf.mp he
      rw [hunbroken u hu call (hthread ▸ hcall)] at hbroken
      cases hbroken
  | committed hstatus hw =>
      obtain ⟨u, hu, rfl, hevent⟩ := mem_eventsOf.mp hw
      obtain ⟨q, hq, hasset, hact⟩ := persisted_inv run hu hevent
      obtain rfl : q = call.request := by
        rw [hcall] at hq
        cases hq
        rfl
      have hchange := card_changes run hu
      rw [hevent] at hchange
      exact .inr ⟨hstatus, activated_lasts run hu (hchange.activated_persisted hasset hact)⟩

/-- A card of an asset that nobody is entangling has its event. -/
theorem hasCard_activated (run : Interleaves machine (CardRequest.pool app requests start) h c)
    (hrouted : ∀ i, (requests i).Routed) (hunbroken : Unbroken requests h)
    (hstart : start.db.HasCard id → start.db.Activated id)
    (hidle : ∀ i, ¬Issuing requests h c id i) (hcard : c.state.db.HasCard id) :
    c.state.db.Activated id := by
  obtain hold | ⟨v, hv, hbefore, hafter⟩ := run.begins (P := fun s => s.db.HasCard id) hcard
  · exact activated_stays run (hstart hold)
  · obtain ⟨h₁, h₂, hh⟩ := List.append_of_mem hv
    obtain ⟨row, a, u, hevent, hrow⟩ := (card_changes run hv).hasCard_begins hbefore hafter
    have hcalls := run.calls (fun i => (requests i).handle_meets app) hh
    rw [hevent] at hcalls
    obtain ⟨call, hcall, hlinks⟩ := CardRequest.Calls.links (hrouted v.thread) hcalls
    have hid : call.assetId = id := (hlinks u).symm.trans hrow
    have hissued : ¬Unissued (eventsOf v.thread h) := by
      intro hnone
      have hfalse := hnone v.event (mem_eventsOf.mpr ⟨v, hv, rfl, rfl⟩)
      rw [hevent] at hfalse
      cases hfalse
    have hdone : ∃ reply, c.threads v.thread = .done reply := by
      by_contra hnot
      exact hidle v.thread ⟨⟨call, hcall, hid⟩, fun reply hreply => hnot ⟨reply, hreply⟩, hissued⟩
    obtain ⟨reply, hdone⟩ := hdone
    obtain hnone | ⟨-, hactivated⟩ := finished_activated run hunbroken hcall hdone
    · exact absurd hnone hissued
    · rw [← hid]
      exact hactivated

/-- As long as no statement fails behind the device of a card, cards and events go
together, and a refused request leaves nothing in the way of the next. -/
theorem cards_follow_events
    (run : Interleaves machine (CardRequest.pool app requests start) h c)
    (hrouted : ∀ i, (requests i).Routed)
    (hstart : ∀ id, start.db.HasCard id ↔ start.db.Activated id) (hunbroken : Unbroken requests h) :
    CardsFollowEvents app requests h c := by
  have hbacked : ∀ id, c.state.db.Activated id → c.state.db.HasCard id :=
    fun id => activated_backed run hrouted (hstart id).mpr
  have hlinked : ∀ id, (∀ i, ¬Issuing requests h c id i) →
      (c.state.db.HasCard id ↔ c.state.db.Activated id) :=
    fun id hidle => ⟨hasCard_activated run hrouted hunbroken (hstart id).mp hidle, hbacked id⟩
  refine ⟨hbacked, hlinked, ?_, ?_⟩
  · intro i call reply hcall hdone hstatus
    obtain hnone | ⟨hok, -⟩ := finished_activated run hunbroken hcall hdone
    · exact hnone
    · exact absurd hok hstatus
  · intro i call reply _ _ _ hidle hactivated draws id required stored uid epoch hchecked hfresh
    refine hchecked.succeeds hfresh fun hcard => ?_
    exact hactivated ((hlinked call.assetId hidle).mp hcard)

end Runs

section Sample

/-- An asset whose keys have been rotated. -/
def rotatedStore : Store where
  db :=
    { brands := ["brand"]
      assets := .single
          { assetId := "a", brandId := "brand", uid := some "04A31B2C3D4E5F",
            currentState := .rotatingKeys } }

def clerkCall : EntangleCall where
  assetId := "a"
  actor := { actorId := "clerk", actorRole := .brand, brandId := some "brand" }
  headers := .ofList
    [("X-Trace-Id", "11111111-1111-1111-1111-111111111111"), ("X-Idempotency-Key", "k")]
  payload := {}
  draws := { eventId := .repeated 1, nanoid := "card" }

/-- One request; the statement with the number, if any, fails. -/
def entangleRun (failed : Option Nat) :
    List (Move api Store Unit) × Pool api Store Unit Reply :=
  (CardRequest.pool default (fun _ => .entangle clerkCall) rotatedStore).schedule machine
    ((List.range 6).map fun n => ((), { fails := if some n = failed then some "gone" else none }))

theorem entangleRun_interleaves (failed : Option Nat) :
    Interleaves machine (CardRequest.pool default (fun _ => .entangle clerkCall) rotatedStore)
      (entangleRun failed).1 (entangleRun failed).2 :=
  schedule_interleaves ..

theorem clerkCall_routed : (CardRequest.entangle clerkCall).Routed := by
  intro q hq
  cases hq
  trivial

theorem rotatedStore_bare (id : String) :
    rotatedStore.db.HasCard id ↔ rotatedStore.db.Activated id := by
  constructor
  · rintro ⟨e, he, -⟩
    exact absurd he List.not_mem_nil
  · rintro ⟨e, he, -⟩
    exact absurd he List.not_mem_nil

def statusOf {ι : Type} (c : Pool api Store ι Reply) (i : ι) : Option Nat :=
  match c.threads i with
  | .done reply => some reply.status
  | .call _ _ => none

theorem done_of_statusOf {ι : Type} {c : Pool api Store ι Reply} {i : ι} {status : Nat}
    (h : statusOf c i = some status) : ∃ reply, c.threads i = .done reply ∧ reply.status = status := by
  unfold statusOf at h
  split at h
  · next reply hdone => exact ⟨reply, hdone, Option.some.inj h⟩
  · cases h

theorem cards_follow_events_entangled :
    statusOf (entangleRun none).2 () = some 200 ∧
      CardsFollowEvents default (fun _ => .entangle clerkCall) (entangleRun none).1
        (entangleRun none).2 := by
  refine ⟨by decide +kernel, cards_follow_events (entangleRun_interleaves none)
    (fun _ => clerkCall_routed) rotatedStore_bare ?_⟩
  have hwhole : ∀ v ∈ (entangleRun none).1, breaksCard v.event = false := by decide +kernel
  exact fun v hv _ _ => hwhole v hv

/-- The transaction fails, and the card stays. -/
theorem failed_entangling_leaves_card :
    ¬∀ (ι : Type) (_ : DecidableEq ι) (app : AppState) (requests : ι → CardRequest)
      (start : Store) (h : List (Move api Store ι)) (c : Pool api Store ι Reply),
      Interleaves machine (CardRequest.pool app requests start) h c →
        (∀ i, (requests i).Routed) →
          (∀ id, start.db.HasCard id ↔ start.db.Activated id) →
            CardsFollowEvents app requests h c := by
  intro hall
  have hfollows := hall Unit _ default (fun _ => .entangle clerkCall) rotatedStore _ _
    (entangleRun_interleaves (some 5)) (fun _ => clerkCall_routed) rotatedStore_bare
  obtain ⟨reply, hdone, hstatus⟩ :=
    done_of_statusOf (show statusOf (entangleRun (some 5)).2 () = some 500 by decide +kernel)
  have hnone := hfollows.refused () clerkCall reply rfl hdone (by rw [hstatus]; decide)
  have hissued : ¬Unissued (eventsOf () (entangleRun (some 5)).1) := by
    unfold Unissued
    decide +kernel
  exact hissued hnone

end Sample

end RcProtocol
