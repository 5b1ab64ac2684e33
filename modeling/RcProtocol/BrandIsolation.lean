import RcProtocol.Api.AuthorityDevices
import RcProtocol.Ownership

/-!
What actors of one brand can write of the assets of other brands. The two
activation handlers check the boundary; `execute_asset_action` does not.
-/

namespace RcProtocol
open Library

/-- The rows that belong to assets of other brands than `b`. -/
structure ForeignRows where
  assets : List AssetRow
  events : List EventRow
  authorityDevices : List AuthorityDeviceRow
  entanglements : List EntanglementRow
  deriving DecidableEq

namespace Db
variable (b : String) (db : Db)

def brandOf (assetId : String) : Option String := (db.asset assetId).map (·.brandId)

def isForeign (assetId : String) : Bool := (db.brandOf assetId).any (· ≠ b)

def foreignEntanglements : List EntanglementRow :=
  db.entanglements.rows.filter fun e => db.isForeign b e.assetId

/-- A device of another brand, or bound to an asset of another brand. -/
def isForeignDevice (d : AuthorityDeviceRow) : Bool :=
  d.brandId ≠ b || (db.foreignEntanglements b).any (·.authorityId = d.authorityId)

def foreign : ForeignRows where
  assets := db.assets.rows.filter (·.brandId ≠ b)
  events := db.events.rows.filter fun e => db.isForeign b e.assetId
  authorityDevices := db.authorityDevices.rows.filter (db.isForeignDevice b)
  entanglements := db.foreignEntanglements b

end Db

/-- An operation on the asset `a` of the brand `b`, and on no other asset. -/
def OwnOp (b a : String) : Op → Prop
  | .persistAction w => w.nextRecord.assetId = a ∧ w.auditEvent.assetId = a
  | .updateProductMapping assetId _ _ _ | .bindAssetCommitment assetId _ => assetId = a
  | .insertAuthorityDevice row => ∀ id, (row id).authorityId = id ∧ (row id).brandId = b
  | .insertEntanglement row => ∀ id, (row id).assetId = a
  | .updateAuthorityCtr _ _ | .updateTransferredAsset _ _ _ _ | .updateAssetCtr _ _
  | .insertTransferEvent _ => False
  | _ => True

theorem assetWrite_brandId {e : Event api} {id : String} {f : AssetRow → AssetRow}
    (h : assetWrite e = some (id, f)) (r : AssetRow) : (f r).brandId = r.brandId := by
  obtain ⟨op, a⟩ := e
  cases op <;> first | cases h | (cases a <;> first | (cases h; rfl) | cases h)

section Operations
variable {b a : String} {db db' : Db} {e : Event api}

/-- No operation changes the brand of an asset. -/
theorem Changes.brandOf (h : Changes e db db') (id : String) : db'.brandOf id = db.brandOf id := by
  rw [Db.brandOf, h.asset]
  cases hw : assetWrite e with
  | none => rfl
  | some write =>
      obtain ⟨id', f⟩ := write
      simp only
      split
      · rw [Option.map_map]
        congr 1
        funext r
        exact assetWrite_brandId hw r
      · rfl

theorem Changes.isForeign (h : Changes e db db') (id : String) :
    db'.isForeign b id = db.isForeign b id := by
  rw [Db.isForeign, Db.isForeign, h.brandOf]

theorem brandId_of_not_isForeign (ha : db.isForeign b a = false) {r : AssetRow}
    (hr : r ∈ db.assets.rows) (hid : r.assetId = a) : r.brandId = b := by
  subst hid
  simpa [Db.isForeign, Db.brandOf, Db.asset_of_mem hr] using ha

/-- Updating an asset of the brand leaves the foreign assets as they were. -/
theorem foreign_updateAsset (ha : db.isForeign b a = false) {f : AssetRow → AssetRow}
    (hf : ∀ r, Keyed.key (f r) = Keyed.key r) (hbrand : ∀ r, (f r).brandId = r.brandId) :
    (db.updateAsset a f hf).assets.rows.filter (·.brandId ≠ b) =
      db.assets.rows.filter (·.brandId ≠ b) := by
  have hown : ∀ r ∈ db.assets.rows, decide (r.assetId = a) = true →
      decide (r.brandId ≠ b) = false ∧ decide ((f r).brandId ≠ b) = false := by
    intro r hr hid
    have hb := brandId_of_not_isForeign ha hr (by simpa using hid)
    simp [hbrand, hb]
  show (db.assets.update (·.assetId = a) f hf).rows.filter _ = _
  exact Table.filter_update hown

/-- A new device of the brand is bound to nothing yet. -/
theorem not_isForeignDevice_of_insert {d : AuthorityDeviceRow} {devices : Table AuthorityDeviceRow}
    (h : db.authorityDevices.insert d = some devices) (hb : d.brandId = b) :
    db.isForeignDevice b d = false := by
  have hfresh : ∀ e ∈ db.entanglements.rows, e.authorityId ≠ d.authorityId := by
    intro e he hid
    obtain ⟨d', hd', hid'⟩ := db.entangled e he
    exact Table.not_clash_of_insert h hd' (.inl (hid'.trans hid))
  simp only [Db.isForeignDevice, hb, ne_eq, not_true_eq_false, decide_false, Bool.false_or,
    List.any_eq_false, decide_eq_true_eq]
  intro e he
  exact hfresh e (List.mem_filter.mp he).1

/-- The foreign rows are the same when those of each table are. -/
theorem foreign_eq (hforeign : ∀ id, db'.isForeign b id = db.isForeign b id)
    (hassets : db'.assets.rows.filter (·.brandId ≠ b) = db.assets.rows.filter (·.brandId ≠ b))
    (hevents : (db'.events.rows.filter fun e => db.isForeign b e.assetId) =
      db.events.rows.filter fun e => db.isForeign b e.assetId)
    (hdevices : db'.authorityDevices.rows.filter (db.isForeignDevice b) =
      db.authorityDevices.rows.filter (db.isForeignDevice b))
    (hentanglements : (db'.entanglements.rows.filter fun e => db.isForeign b e.assetId) =
      db.entanglements.rows.filter fun e => db.isForeign b e.assetId) :
    db'.foreign b = db.foreign b := by
  have hbound : db'.foreignEntanglements b = db.foreignEntanglements b := by
    simp only [Db.foreignEntanglements, hforeign]
    exact hentanglements
  have hdevice : db'.isForeignDevice b = db.isForeignDevice b := by
    funext d
    rw [Db.isForeignDevice, Db.isForeignDevice, hbound]
  simp only [Db.foreign, hforeign, hassets, hevents, hdevice, hdevices, hbound]

theorem Changes.foreign (h : Changes e db db') (hop : OwnOp b a e.op)
    (ha : db.isForeign b a = false) : db'.foreign b = db.foreign b := by
  have hforeign : ∀ id, db'.isForeign b id = db.isForeign b id := h.isForeign
  cases h with
  | read => rfl
  | @persistAction w _ events hevents _ =>
      obtain ⟨hid, hevent⟩ := hop
      refine foreign_eq hforeign ?_ ?_ rfl rfl
      · rw [← hid] at ha
        exact foreign_updateAsset ha w.key_apply fun _ => rfl
      · exact Table.filter_insert hevents
          (by rw [show w.eventRow.assetId = a from hevent]; exact ha)
  | updateProductMapping | bindAssetCommitment =>
      obtain rfl : _ = a := hop
      refine foreign_eq hforeign ?_ rfl rfl rfl
      simp only [Db.updateProductMapping, Db.bindAssetCommitment]
      exact foreign_updateAsset ha _ fun _ => rfl
  | insertAuthorityDevice hinsert _ =>
      exact foreign_eq hforeign rfl rfl
        (Table.filter_insert hinsert (not_isForeignDevice_of_insert hinsert (hop _).2)) rfl
  | insertEntanglement hinsert =>
      exact foreign_eq hforeign rfl rfl rfl
        (Table.filter_insert hinsert (by rw [hop _]; exact ha))
  | updateTransferredAsset | updateAssetCtr | updateAuthorityCtr | insertTransferEvent => exact hop.elim
  | _ => rfl

end Operations

/-- The requests a brand's or a factory's clients write with. -/
inductive BrandRequest where
  | write (q : WriteRequest)
  | register (actor : ActorContext) (req : RegisterPhysicalMotherCardRequest) (draws : Draws)

namespace BrandRequest

def handle (app : AppState) : BrandRequest → Service Reply
  | write q => q.handle app
  | register actor req draws => registerPhysicalMotherCard app draws actor req

def actor : BrandRequest → ActorContext
  | write q => q.actor
  | register actor _ _ => actor

/-- The actor's claims name the brand. -/
def OfBrand (b : String) (r : BrandRequest) : Prop :=
  (r.actor.actorRole = .brand ∨ r.actor.actorRole = .factory) ∧ r.actor.brandId = some b

/-- An action the actor's role may take on an asset is asked for on an asset of
the brand. -/
def StaysHome (b : String) (db : Db) (r : BrandRequest) : Prop :=
  ∀ call, r = .write (.action call) → ∀ row, db.asset call.assetId = some row →
    canRoleInitiate call.actor.actorRole row.currentState call.action = true → row.brandId = b

end BrandRequest

abbrev BrandEntry := Served api Store BrandRequest Reply

section Requests
variable {app : AppState} {b : String} {q : WriteRequest} {required : RequiredHeaders}
  {stored : AssetRecord} {w : PersistAction} {s t : Store}

theorem checkBrandBoundary_ok {actor : ActorContext} {brandId : String}
    (h : checkBrandBoundary actor brandId = .ok ())
    (hrole : actor.actorRole = .brand ∨ actor.actorRole = .factory) :
    actor.brandId = some brandId := by
  unfold checkBrandBoundary at h
  rw [if_pos hrole] at h
  split at h
  · assumption
  · cases h

/-- A request that gets to writing is about an asset of the brand. -/
theorem WriteRequest.Writes.brandId (hw : q.Writes required stored w)
    (hbrand : (BrandRequest.write q).OfBrand b)
    (hhome : (BrandRequest.write q).StaysHome b s.db)
    (hstored : s.db.selectAssetRecord q.assetId = some stored) : stored.brandId = b := by
  have hboundary : (∀ call, q ≠ .action call) → stored.brandId = b := by
    intro hq
    have h := checkBrandBoundary_ok (hw.boundary hq) hbrand.1
    exact (Option.some.inj (hbrand.2.symm.trans h)).symm
  cases q with
  | action call =>
      obtain ⟨row, hrow, rfl⟩ := Option.map_eq_some_iff.mp hstored
      have hrole := hw.applied.role
      rw [WriteRequest.Writes.currentState_withPrevious] at hrole
      exact hhome call rfl row hrow hrole
  | activate | activateEntangle => exact hboundary fun _ => nofun

theorem sideCall_ownOp {log : Log} {op : Op} (h : q.SideCall stored log op)
    (hb : stored.brandId = b) : OwnOp b q.assetId op := by
  subst hb
  cases q with
  | activate => cases h <;> trivial
  | action | activateEntangle =>
      cases h.2 with
      | select => trivial
      | device hrow => exact hrow
      | entangle _ hrow => exact fun id => (hrow id).1

theorem ownOp_of_calls {before : Log} {e : Event api} (hcall : q.Calls before e.op)
    (hwrite : isWrite e = true) (hbrand : (BrandRequest.write q).OfBrand b)
    (hhome : (BrandRequest.write q).StaysHome b s.db) (ht : machine.Trace s before t) :
    OwnOp b q.assetId e.op ∧ s.db.isForeign b q.assetId = false := by
  have hown : ∀ {required stored w rest}, before = q.start required stored ++ rest →
      q.Writes required stored w →
      stored.brandId = b ∧ stored.assetId = q.assetId ∧ s.db.isForeign b q.assetId = false := by
    intro required stored w rest hbefore hw
    rw [hbefore] at ht
    have hstored := WriteRequest.trace_start ht
    have hb := hw.brandId hbrand hhome hstored
    refine ⟨hb, Db.selectAssetRecord_assetId hstored, ?_⟩
    obtain ⟨row, hrow, rfl⟩ := Option.map_eq_some_iff.mp hstored
    simpa [Db.isForeign, Db.brandOf, hrow] using hb
  obtain ⟨op, r⟩ := e
  cases hcall with
  | lookup | fetch => cases hwrite
  | side hw hop =>
      obtain ⟨hb, -, hforeign⟩ := hown rfl hw
      exact ⟨sideCall_ownOp hop hb, hforeign⟩
  | persist hw hrest haction =>
      obtain ⟨-, hid, hforeign⟩ := hown rfl hw
      have hnext := hw.next_assetId.trans hid
      refine ⟨⟨hnext, ?_⟩, hforeign⟩
      have hevent := congrArg AuditEvent.assetId hw.applied.event_eq
      have hrecord := congrArg AssetRecord.assetId hw.applied.next_eq
      exact hevent.trans (hrecord.symm.trans hnext)

/-- One request of the brand leaves the rows of other brands as they were. -/
theorem foreign_serve (app : AppState) (r : BrandRequest) (env : Nat → machine.Env)
    (hbrand : r.OfBrand b) (hhome : r.StaysHome b s.db) :
    (machine.run (r.handle app) env s).state.db.foreign b = s.db.foreign b := by
  have htrace := machine.run_trace (r.handle app) env s
  have hwrites : ∀ before e after, (machine.run (r.handle app) env s).log = before ++ e :: after →
      isWrite e = true → ∃ a, OwnOp b a e.op ∧ s.db.isForeign b a = false := by
    intro before e after hlog hwrite
    rw [hlog] at htrace
    obtain ⟨t, ht, -⟩ := machine.trace_append.mp htrace
    cases r with
    | write q =>
        have hcall := machine.meets_run_calls (q.handle_meets app) env s hlog
        exact ⟨q.assetId, ownOp_of_calls hcall hwrite hbrand hhome ht⟩
    | register actor req draws =>
        have hcall := machine.meets_run_calls
          (registerPhysicalMotherCard_meets app draws actor req) env s hlog
        obtain ⟨op, r⟩ := e
        cases hcall <;> cases hwrite
  have hinv := htrace.invariant
    (I := fun t => t.db.foreign b = s.db.foreign b ∧ ∀ id, t.db.isForeign b id = s.db.isForeign b id)
    ⟨rfl, fun _ => rfl⟩ ?_
  · exact hinv.1
  intro env' op t hmem ⟨hsame, hforeign⟩
  have hchange := machine_changes env' op t
  refine ⟨?_, fun id => (hchange.isForeign id).trans (hforeign id)⟩
  rw [← hsame]
  cases hwrite : isWrite ⟨op, (machine.exec env' op t).1⟩ with
  | false => rw [hchange.eq_of_not_isWrite hwrite]
  | true =>
      obtain ⟨before, after, hlog⟩ := List.append_of_mem hmem
      obtain ⟨a, hop, ha⟩ := hwrites before _ after hlog hwrite
      exact hchange.foreign hop ((hforeign a).trans ha)

/-- In every run of requests of one brand that stay on its own assets, nothing
of another brand's assets is created or changed. -/
theorem foreign_rows_unchanged {start : Store} {h : List BrandEntry}
    (run : Serves machine (BrandRequest.handle app) start h s)
    (hbrand : ∀ e ∈ h, e.request.OfBrand b)
    (hhome : ∀ e ∈ h, e.request.StaysHome b e.before.db) :
    s.db.foreign b = start.db.foreign b := by
  refine run.invariant (I := fun s => s.db.foreign b = start.db.foreign b) rfl fun e he hs => ?_
  obtain ⟨env, hserved⟩ := run.entry he
  have hserve := foreign_serve app e.request env (hbrand e he) (hhome e he)
  rw [hserved]
  exact hserve.trans hs

end Requests

section Sample

/-- The freeze of the other brand's asset, in its history. -/
def neighbourEvent : EventRow where
  eventId := .repeated 4
  assetId := "b"
  action := .freeze
  fromState := some .legallySold
  toState := .disputed
  traceId := .repeated 4
  actorId := "moderator"
  actorRole := .moderator
  actorOrg := none
  idempotencyKey := "k0"
  approvalId := none
  policyVersion := none
  assetCommitmentId := none

/-- An activated asset of the brand beside a frozen one of another brand, which has its
card. -/
def activatedStore : Store where
  db :=
    { brands := ["brand", "other"]
      assets :=
        ⟨[{ assetId := "a", brandId := "brand", currentState := .activated },
          { assetId := "b", brandId := "other", currentState := .disputed,
            previousState := some .legallySold, ownerId := some "owner" }], by decide⟩
      events := .single neighbourEvent
      authorityDevices :=
        .single
          { authorityId := .repeated 2, authorityUid := "vauth-b", authorityType := "VIRTUAL_APP",
            brandId := "other", boundUserId := some "owner" }
      entanglements :=
        .single
          { entanglementId := .repeated 3, assetId := "b", childUid := "04B31B2C3D4E5F",
            authorityId := .repeated 2, authorityUid := "vauth-b", boundBy := "other" }
      entangled := by
        intro e he
        obtain rfl := List.mem_singleton.mp he
        exact ⟨_, List.mem_singleton_self _, rfl⟩ }

def sellRequest (brandId : String) : BrandRequest :=
  .write (.action
    { assetId := "a"
      action := .legalSell
      actor := { actorId := "clerk", actorRole := .brand, brandId := some brandId }
      headers := .ofList
        [("X-Trace-Id", "11111111-1111-1111-1111-111111111111"), ("X-Idempotency-Key", "k")]
      payload := { buyerId := some "buyer" }
      draws := { eventId := .repeated 1 } })

def sellRun (brandId : String) : List BrandEntry :=
  machine.serveAll (BrandRequest.handle default) activatedStore [(sellRequest brandId, fun _ => {})]

theorem sellRun_serves (brandId : String) :
    Serves machine (BrandRequest.handle default) activatedStore (sellRun brandId)
      (machine.run ((sellRequest brandId).handle default) (fun _ => {}) activatedStore).state :=
  have hrun : Serves machine (BrandRequest.handle default) activatedStore [] activatedStore :=
    .start
  hrun.step (sellRequest brandId) fun _ => {}

/-- A clerk of the brand sells its asset; the other brand has rows in each table. -/
theorem foreign_rows_unchanged_sold :
    ((∃ e ∈ sellRun "brand", Committed e.log) ∧
      activatedStore.db.foreign "brand" =
        ⟨activatedStore.db.assets.rows.tail, [neighbourEvent],
          activatedStore.db.authorityDevices.rows, activatedStore.db.entanglements.rows⟩) ∧
      (machine.run ((sellRequest "brand").handle default) (fun _ => {})
        activatedStore).state.db.foreign "brand" = activatedStore.db.foreign "brand" := by
  refine ⟨⟨by decide, by decide⟩, foreign_rows_unchanged (sellRun_serves "brand")
    (fun e he => ?_) fun e he => ?_⟩
  · obtain rfl := List.mem_singleton.mp he
    exact ⟨.inl rfl, rfl⟩
  · obtain rfl := List.mem_singleton.mp he
    intro call hcall row hrow _
    cases hcall
    have hbrand : (activatedStore.db.asset "a").map (·.brandId) = some "brand" := by decide
    rw [show activatedStore.db.asset "a" = some row from hrow] at hbrand
    exact Option.some.inj hbrand

/-- A clerk of another brand sells it just as well. -/
theorem foreign_asset_is_sold :
    ¬∀ (app : AppState) (b : String) (start s : Store) (h : List BrandEntry),
      Serves machine (BrandRequest.handle app) start h s →
        (∀ e ∈ h, e.request.OfBrand b) →
          (∀ e ∈ h, ∀ q, e.request = .write q → q.Routed) →
            s.db.foreign b = start.db.foreign b := by
  intro hall
  have hbrand : ∀ e ∈ sellRun "other", e.request.OfBrand "other" := by
    intro e he
    obtain rfl := List.mem_singleton.mp he
    exact ⟨.inl rfl, rfl⟩
  have hrouted : ∀ e ∈ sellRun "other", ∀ q, e.request = .write q → q.Routed := by
    intro e he q hq
    obtain rfl := List.mem_singleton.mp he
    cases hq
    simp [WriteRequest.Routed]
  have hsame := hall _ _ _ _ _ (sellRun_serves "other") hbrand hrouted
  exact absurd (congrArg ForeignRows.assets hsame) (by decide)

end Sample

end RcProtocol
