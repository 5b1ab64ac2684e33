import RcProtocol.Api.WriteSpec

/-!
The entangling of an asset. The device and the link of its mother card are inserted
before the transaction that moves the asset, each in a statement of its own.
-/

namespace RcProtocol
open Library

def issuesCard : Event api → Bool
  | ⟨.insertAuthorityDevice _, .ok _⟩ | ⟨.insertEntanglement _, .ok _⟩ => true
  | _ => false

/-- A statement behind the device of a card, and it failed. -/
def breaksCard : Event api → Bool
  | ⟨.insertEntanglement _, .error _⟩ | ⟨.persistAction _, .error _⟩ => true
  | _ => false

def Unissued (log : Log) : Prop := ∀ e ∈ log, issuesCard e = false

theorem Unissued.snoc {log : Log} {e : Event api} (h : Unissued log)
    (he : issuesCard e = false) : Unissued (log ++ [e]) := by
  intro x hx
  obtain hx | hx := List.mem_append.mp hx
  · exact h x hx
  · rw [List.mem_singleton.mp hx]
    exact he

/-- A request to `activate_entangle_asset`. -/
structure EntangleCall where
  assetId : String
  actor : ActorContext
  headers : HeaderMap
  payload : AssetActionRequest
  draws : Draws

namespace EntangleCall
variable (app : AppState) (call : EntangleCall)

def request : WriteRequest :=
  .activateEntangle call.assetId call.actor call.headers call.payload call.draws

def handle : Service Reply :=
  activateEntangleAsset app call.draws call.assetId call.actor call.headers call.payload

/-- A link of the asset is in the log. -/
def Linked (log : Log) : Prop :=
  ∃ row id, (⟨.insertEntanglement row, .ok id⟩ : Event api) ∈ log ∧
    ∀ id, (row id).assetId = call.assetId ∧ (row id).entanglementState = "Active"

/-- The transaction comes after the link. -/
def Orders (log : Log) (op : Op) : Prop := ∀ w, op = .persistAction w → call.Linked log

inductive Ends : Log → Reply → Prop
  | unissued {log : Log} {reply : Reply} (h : Unissued log) : Ends log reply
  | broken {log : Log} {reply : Reply} {e : Event api} (he : e ∈ log)
      (h : breaksCard e = true) : Ends log reply
  | committed {log : Log} {reply : Reply} {w : PersistAction} (h : reply.status = 200)
      (hw : (⟨.persistAction w, .ok ()⟩ : Event api) ∈ log) : Ends log reply

end EntangleCall

section Handler
variable {app : AppState} {call : EntangleCall} {log : Log}

open EntangleCall

/-- A card is linked, or not issued at all, or a statement behind its device failed. -/
theorem generateVirtualMotherCardWithResult_links {draws : Draws} {brandId actorId : String}
    (hlog : Unissued log) :
    Meets call.Orders
      (fun log r =>
        match r with
        | .ok _ => call.Linked log
        | .error _ => Unissued log ∨ ∃ e ∈ log, breaksCard e = true)
      log (generateVirtualMotherCardWithResult app draws call.assetId brandId actorId) := by
  refine meets_attempt_ask (fun _ => nofun) (fun r snapshot _ => ?_) fun r e _ => ?_
  · have hlog := hlog.snoc (e := ⟨.selectUidEpoch call.assetId, r⟩) rfl
    obtain ⟨uid, epoch⟩ := snapshot
    simp only
    split
    · exact .inl hlog
    split
    · exact .inl hlog
    refine meets_attempt_ask (fun _ => nofun) (fun r authorityId _ => ?_) fun r e hr => ?_
    · refine meets_attempt_ask (fun _ => nofun) (fun r id hr => ?_) fun r e hr => ?_
      · cases r with
        | error e => cases hr
        | ok a =>
            exact ⟨_, a, List.mem_append_right _ (List.mem_singleton_self _),
              fun _ => ⟨rfl, rfl⟩⟩
      · cases r with
        | ok a => cases hr
        | error e' =>
            exact .inr ⟨_, List.mem_append_right _ (List.mem_singleton_self _), rfl⟩
    · cases r with
      | ok a => cases hr
      | error e' => exact .inl (hlog.snoc rfl)
  · exact .inl (hlog.snoc rfl)

theorem activateEntangleAsset_ends :
    Meets call.Orders Ends [] (call.handle app) := by
  unfold EntangleCall.handle activateEntangleAsset
  have hnil : Unissued [] := fun e he => absurd he List.not_mem_nil
  split
  · exact .unissued hnil
  next required _ =>
  refine meets_attempt_ask (fun _ => nofun) (fun r record _ => ?_)
    fun r e _ => .unissued (hnil.snoc rfl)
  have hlookup := hnil.snoc (e := ⟨.selectIdempotencyRecord required.idempotencyKey, r⟩) rfl
  split
  · split
    · exact .unissued hlookup
    · exact .unissued hlookup
  refine meets_attempt_ask (fun _ => nofun) (fun r stored _ => ?_)
    fun r e _ => .unissued (hlookup.snoc rfl)
  have hfetch := hlookup.snoc (e := ⟨.selectAssetRecord call.assetId, r⟩) rfl
  split
  · exact .unissued hfetch
  simp only
  split
  · exact .unissued hfetch
  rw [meets_attempt]
  refine (generateVirtualMotherCardWithResult_links hfetch).mono (fun _ _ h => h) ?_
  intro log card hcard
  cases card with
  | error e =>
      obtain hlog | ⟨x, hx, hbroken⟩ := hcard
      · exact .unissued hlog
      · exact .broken hx hbroken
  | ok card =>
      refine meets_attempt_ask (fun _ _ => hcard) (fun r _ hr => ?_) fun r e hr => ?_
      · cases r with
        | error e => cases hr
        | ok a => exact .committed rfl (List.mem_append_right _ (List.mem_singleton_self _))
      · cases r with
        | ok a => cases hr
        | error e' => exact .broken (List.mem_append_right _ (List.mem_singleton_self _)) rfl

end Handler

/-- The asset has an Active entanglement. -/
def Db.HasCard (db : Db) (assetId : String) : Prop :=
  ∃ e ∈ db.entanglements.rows, e.assetId = assetId ∧ e.entanglementState = "Active"

namespace Db
variable {db : Db}

theorem insertAuthorityDevice_answered (row : AuthorityDeviceRow) (hbrand : row.brandId ∈ db.brands)
    (hfresh : ∀ d ∈ db.authorityDevices.rows,
      d.authorityId ≠ row.authorityId ∧ d.authorityUid ≠ row.authorityUid) :
    ∃ db', db.insertAuthorityDevice row = .ok (row.authorityId, db') ∧
      row ∈ db'.authorityDevices.rows ∧ db'.entanglements = db.entanglements ∧
        db'.assets = db.assets ∧ db'.events = db.events := by
  obtain ⟨devices, hdevices⟩ : ∃ devices, db.authorityDevices.insert row = some devices :=
    Table.exists_insert fun d hd hclash => hclash.elim (hfresh d hd).1 (hfresh d hd).2
  unfold insertAuthorityDevice
  rw [if_neg (not_not_intro hbrand)]
  split
  · next hnone => 
    rw [hdevices] at hnone
    cases hnone
  · next devices' hsome =>
    exact ⟨_, rfl, (Table.mem_insert hsome).mpr (.inr rfl), rfl, rfl, rfl⟩

theorem insertEntanglement_answered (row : EntanglementRow)
    (hdevice : ∃ d ∈ db.authorityDevices.rows, d.authorityId = row.authorityId)
    (hasset : db.hasAsset row.assetId = true) (hcard : ¬db.HasCard row.assetId)
    (hfresh : ∀ e ∈ db.entanglements.rows, e.entanglementId ≠ row.entanglementId)
    (hactive : row.entanglementState = "Active") :
    ∃ db', db.insertEntanglement row = .ok (row.entanglementId, db') ∧
      db'.assets = db.assets ∧ db'.events = db.events := by
  obtain ⟨entanglements, hinsert⟩ : ∃ entanglements, db.entanglements.insert row =
      some entanglements := by
    refine Table.exists_insert fun e he hclash => ?_
    obtain hid | ⟨hkey, -⟩ := hclash
    · exact hfresh e he hid
    · obtain ⟨hid, hstate⟩ := Prod.mk.inj hkey
      exact hcard ⟨e, he, hid, hstate.trans hactive⟩
  unfold insertEntanglement
  rw [dif_pos hdevice, hasset]
  simp only [Bool.not_true, Bool.false_eq_true, if_false]
  split
  · next hnone =>
    rw [hinsert] at hnone
    cases hnone
  · exact ⟨_, rfl, rfl, rfl⟩

theorem persistAction_answered {w : PersistAction}
    (haction : w.auditEvent.action = .activateEntangle)
    (hasset : db.hasAsset w.auditEvent.assetId = true)
    (hfresh : ∀ e ∈ db.events.rows, e.eventId ≠ w.auditEvent.eventId) :
    ∃ db', db.persistAction w = .ok ((), db') := by
  obtain ⟨events, hevents⟩ : ∃ events, db.events.insert w.eventRow = some events :=
    Table.exists_insert hfresh
  simp only [persistAction, haction, hasAsset_updateAsset, hasset, Bool.not_true,
    Bool.false_eq_true, if_false]
  rw [show (db.updateAsset _ _ _).events = db.events from rfl, hevents]
  exact ⟨_, rfl⟩

end Db

namespace EntangleCall
variable (app : AppState) (call : EntangleCall)

/-- The handler's own checks, on the stored rows. -/
structure Checked (db : Db) (required : RequiredHeaders) (stored : AssetRecord) (uid : String)
    (epoch : Int32) : Prop where
  headers : parseRequiredHeaders call.headers = .ok required
  unused : db.selectIdempotencyRecord required.idempotencyKey = none
  fetched : db.selectAssetRecord call.assetId = some stored
  boundary : checkBrandBoundary call.actor stored.brandId = .ok ()
  applied : ∃ result, applyAction (withPrevious stored call.payload) .activateEntangle
    (auditContext call.actor required call.payload.buyerId) call.draws.eventId = .ok result
  tagged : db.selectUidEpoch call.assetId = some (some uid, epoch)
  keyed : ∃ key, app.kms.deriveMotherKey stored.brandId (utf8 ("vauth-" ++ call.draws.nanoid))
    epoch.toUInt32 = .ok key
  listed : stored.brandId ∈ db.brands

/-- What is drawn is not stored yet. -/
structure Fresh (db : Db) (id : Uuid) : Prop where
  device : ∀ d ∈ db.authorityDevices.rows,
    d.authorityId ≠ id ∧ d.authorityUid ≠ "vauth-" ++ call.draws.nanoid
  link : ∀ e ∈ db.entanglements.rows, e.entanglementId ≠ id
  event : ∀ e ∈ db.events.rows, e.eventId ≠ call.draws.eventId

variable {app call} {s : Store} {required : RequiredHeaders} {stored : AssetRecord} {uid : String}
  {epoch : Int32} {id : Uuid}

theorem Checked.hasAsset (h : call.Checked app s.db required stored uid epoch) :
    s.db.hasAsset call.assetId = true := by
  obtain ⟨r, hr, -⟩ := Option.map_eq_some_iff.mp h.fetched
  rw [Db.hasAsset, hr, Option.isSome_some]

/-- An asset that has no card is given one. -/
theorem Checked.links (h : call.Checked app s.db required stored uid epoch)
    (hfresh : call.Fresh s.db id) (hcard : ¬s.db.HasCard call.assetId) :
    ∃ card db, machine.Evaluates (quiet id) (generateVirtualMotherCardWithResult app call.draws
        call.assetId stored.brandId call.actor.actorId) s (.ok card) { s with db := db } ∧
      db.assets = s.db.assets ∧ db.events = s.db.events := by
  obtain ⟨key, hkey⟩ := h.keyed
  let authorityUid := "vauth-" ++ call.draws.nanoid
  let credentialHash := hexEncode (app.crypto.hmacSha256 key.toList (utf8 authorityUid)).toList
  let device (id : Uuid) : AuthorityDeviceRow :=
    { authorityId := id
      authorityUid := authorityUid
      authorityType := "VIRTUAL_APP"
      brandId := stored.brandId
      keyEpoch := epoch
      virtualCredentialHash := some credentialHash
      boundUserId := some call.actor.actorId
      createdBy := some call.actor.actorId }
  let link (linkId : Uuid) : EntanglementRow :=
    { entanglementId := linkId
      assetId := call.assetId
      childUid := uid
      authorityId := id
      authorityUid := authorityUid
      boundBy := call.actor.actorId }
  obtain ⟨db, hdevice, hmem, hlinks, hassets, hevents⟩ :=
    Db.insertAuthorityDevice_answered (device id) h.listed hfresh.device
  obtain ⟨db', hlink, hassets', hevents'⟩ :=
    Db.insertEntanglement_answered (link id) ⟨device id, hmem, rfl⟩
      (by rw [Db.hasAsset, Db.asset, hassets]; exact h.hasAsset)
      (by rw [Db.HasCard, hlinks]; exact hcard) (by rw [hlinks]; exact hfresh.link) rfl
  refine ⟨⟨authorityUid, "VIRTUAL_APP", credentialHash, epoch⟩, db', ?_,
    hassets'.trans hassets, hevents'.trans hevents⟩
  have htag : machine.exec (quiet id) (.selectUidEpoch call.assetId) s =
      (.ok (some (some uid, epoch)), s) := by
    rw [← h.tagged]
    rfl
  have hdevice : machine.exec (quiet id) (.insertAuthorityDevice device) s =
      (.ok id, { s with db := db }) :=
    command_quiet id (c := fun db => db.insertAuthorityDevice (device id)) hdevice
  have hlink : machine.exec (quiet id) (.insertEntanglement link) { s with db := db } =
      (.ok id, { s with db := db' }) :=
    command_quiet id (c := fun db => db.insertEntanglement (link id)) hlink
  refine evaluates_attempt_ask htag rfl ?_
  simp only [hkey]
  refine evaluates_attempt_ask hdevice rfl ?_
  refine evaluates_attempt_ask hlink rfl ?_
  exact Machine.evaluates_done

/-- A request that passes its checks entangles an asset that has no card. -/
theorem Checked.succeeds (h : call.Checked app s.db required stored uid epoch)
    (hfresh : call.Fresh s.db id) (hcard : ¬s.db.HasCard call.assetId) :
    (machine.run (call.handle app) (fun _ => quiet id) s).answer.status = 200 := by
  obtain ⟨⟨next, event⟩, happly⟩ := h.applied
  have happlied := applyAction_ok happly
  obtain ⟨card, db, hlinks, hassets, hevents⟩ := h.links hfresh hcard
  have hasset : db.hasAsset event.assetId = true := by
    have hprevious : (withPrevious stored call.payload).assetId = stored.assetId := by
      unfold withPrevious
      split <;> rfl
    rw [happlied.event_eq, Db.hasAsset, Db.asset, hassets, hprevious,
      Db.selectAssetRecord_assetId h.fetched]
    exact h.hasAsset
  let response := Json.obj
    (actionFields call.assetId .activateEntangle (withPrevious stored call.payload) next event ++
      [("virtual_mother_card", card.toJson)])
  let w : PersistAction :=
    ⟨next, event, buildRequestHash call.assetId .activateEntangle call.payload call.actor required,
      response, none⟩
  obtain ⟨db', hpersist⟩ : ∃ db', db.persistAction w = .ok ((), db') := by
    refine Db.persistAction_answered (congrArg AuditEvent.action happlied.event_eq) hasset ?_
    rw [hevents, show w.auditEvent.eventId = _ from congrArg AuditEvent.eventId happlied.event_eq]
    exact hfresh.event
  have hlookup : machine.exec (quiet id) (.selectIdempotencyRecord required.idempotencyKey) s =
      (.ok none, s) := by
    rw [← h.unused]
    rfl
  have hfetch : machine.exec (quiet id) (.selectAssetRecord call.assetId) s =
      (.ok (some stored), s) := by
    rw [← h.fetched]
    rfl
  have hpersist : machine.exec (quiet id) (.persistAction w) { s with db := db } =
      (.ok (), { s with db := db' }) :=
    command_quiet id (c := fun db => db.persistAction w) hpersist
  have hrun : machine.Evaluates (quiet id) (call.handle app) s (.ok (.json response))
      { s with db := db' } := by
    unfold handle activateEntangleAsset
    simp only [h.headers]
    refine evaluates_attempt_ask hlookup rfl ?_
    refine evaluates_attempt_ask hfetch rfl ?_
    simp only [h.boundary, happly, withPrevious_brandId]
    refine hlinks.attempt (evaluates_attempt_ask hpersist rfl ?_)
    exact Machine.evaluates_done
  rw [hrun.answer]
  rfl

end EntangleCall
end RcProtocol
