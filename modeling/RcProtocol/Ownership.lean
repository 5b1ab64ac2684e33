import RcProtocol.Recovery

/-!
Who takes an owned asset from its owner. Transfers compare the actor with the
stored owner; consumption and inheritance do not, so they are the owner's only
as far as consumers ask for them on their own assets.
-/

namespace RcProtocol
open Library

abbrev AssetEntry := Served api Store AssetRequest Reply

section Ownership
variable {app : AppState} {start s : Store} {id owner : String} {h : List AssetEntry}
  {e : AssetEntry} {c c' : Custody}

/-- A sold or transferred asset with a recorded owner. -/
structure Custody.OwnedBy (c : Custody) (owner : String) : Prop where
  state : c.currentState = .legallySold ∨ c.currentState = .transferred
  owner : c.ownerId = some owner

/-- The owner changes, or the asset is consumed or inherited. -/
def Custody.TakenFrom (c' : Custody) (owner : String) : Prop :=
  c'.ownerId ≠ some owner ∨ c'.currentState = .consumed ∨ c'.currentState = .legacy

/-- The owner asked, or the platform under an approval. -/
def AssetRequest.Entitled (r : AssetRequest) (owner : String) : Prop :=
  r.actor.actorId = owner ∨
    (r.actor.actorRole = .platform ∧ (optionalHeader r.headers "X-Approval-Id").isSome = true)

/-- Whatever is taken from an owner is taken by somebody entitled to. -/
def TakenByEntitled (id : String) (e : AssetEntry) : Prop :=
  ∀ c c' owner, e.before.db.custody id = some c → e.after.db.custody id = some c' →
    c.OwnedBy owner → c'.TakenFrom owner → e.request.Entitled owner

/-- A consumer acts on an owned asset only as its owner. -/
def ActsAsOwner (id : String) (e : AssetEntry) : Prop :=
  ∀ q, e.request = .write q → q.assetId = id → q.actor.actorRole = .consumer →
    q.act = .consume ∨ q.act = .legacy ∨ q.act = .transfer →
      ∀ c owner, e.before.db.custody id = some c → c.OwnedBy owner → q.actor.actorId = owner

/-- The actions that write the owner. -/
theorem PersistAction.owner_eq (w : PersistAction) (owner : Option String) :
    w.owner owner = owner ∨ w.auditEvent.action = .legalSell ∨ w.auditEvent.action = .transfer ∨
      w.auditEvent.action = .consume ∨ w.auditEvent.action = .legacy := by
  unfold PersistAction.owner
  cases w.auditEvent.action <;> simp

/-- Beside the platform, only consumers are let at a sold asset. -/
theorem canRoleInitiate_taking {role : ActorRole} {current : AssetState} {action : AssetAction}
    (h : canRoleInitiate role current action = true)
    (ha : action = .consume ∨ action = .legacy ∨ action = .transfer) :
    role = .platform ∨ role = .consumer := by
  obtain rfl | rfl | rfl := ha <;> cases role <;> revert h <;> cases current <;> decide

/-- A transaction that takes the asset from its owner is one of three actions. -/
theorem WriteRequest.Writes.taking {q : WriteRequest} {required : RequiredHeaders}
    {stored : AssetRecord} {w : PersistAction} (hw : q.Writes required stored w)
    (hcurrent : c.currentState = stored.currentState) (hc : c.OwnedBy owner)
    (ht : (w.custody c).TakenFrom owner) :
    q.act = .consume ∨ q.act = .legacy ∨ q.act = .transfer := by
  have htransition := hw.transition
  rw [← hcurrent] at htransition
  have haction : w.auditEvent.action = q.act := by rw [hw.applied.event_eq]
  obtain howner | hretired := ht
  · obtain hsame | hsell | htransfer | hconsume | hlegacy := w.owner_eq c.ownerId
    · exact absurd (hsame.trans hc.owner) howner
    · rw [← haction, hsell] at htransition
      obtain hs | hs := hc.state <;> rw [hs] at htransition <;> cases htransition
    · exact .inr (.inr (haction.symm.trans htransfer))
    · exact .inl (haction.symm.trans hconsume)
    · exact .inr (.inl (haction.symm.trans hlegacy))
  · obtain hconsume | hlegacy := (nextState_retired htransition hretired).1
    · exact .inl hconsume
    · exact .inr (.inl hlegacy)

theorem Custody.OwnedBy.not_takenFrom (hc : c.OwnedBy owner) : ¬c.TakenFrom owner := by
  rintro (howner | hstate | hstate)
  · exact howner hc.owner
  all_goals obtain hs | hs := hc.state <;> rw [hs] at hstate <;> cases hstate

/-- A commit that takes the asset from its owner came from somebody entitled to,
as far as consumers act as owners. -/
theorem entitled_of_commitsFrom {r : AssetRequest} {db : Db} {f : Custody → Custody}
    (hf : AssetRequest.CommitsFrom app db r f) (hc : db.custody r.assetId = some c)
    (howned : c.OwnedBy owner) (htaken : (f c).TakenFrom owner)
    (hacts : ∀ q, r = .write q → q.actor.actorRole = .consumer →
      q.act = .consume ∨ q.act = .legacy ∨ q.act = .transfer → q.actor.actorId = owner) :
    r.Entitled owner := by
  cases hf with
  | @write q required stored w hw hstored =>
      obtain ⟨c₀, hc₀, -, hcurrent, -⟩ := Db.custody_of_selectAssetRecord hstored
      obtain rfl := Option.some.inj (hc₀.symm.trans hc)
      have htaking := hw.taking hcurrent howned htaken
      obtain hplatform | hconsumer := canRoleInitiate_taking hw.applied.role htaking
      · have hbusiness : q.act.isBusiness = true := by
          obtain ha | ha | ha := htaking <;> rw [ha] <;> rfl
        have happroved := hw.applied.approved hplatform hbusiness
        have happroval := (parseRequiredHeaders_ok hw.headers).2.1
        exact .inr ⟨hplatform, happroval ▸ happroved⟩
      · exact .inl (hacts q rfl hconsumer htaking)
  | transfer h ht hstored howner hepoch =>
      obtain ⟨c₀, hc₀, howner₀⟩ := Db.custody_of_selectOwner howner
      obtain rfl := Option.some.inj (hc₀.symm.trans hc)
      refine .inl (h.actor.trans ?_)
      exact Option.some.inj (howner₀.symm.trans howned.owner)

theorem taken_by_entitled (hacts : ActsAsOwner id e)
    (hserved : ∃ env, e = machine.serve (AssetRequest.handle app) e.request env e.before) :
    TakenByEntitled id e := by
  obtain ⟨env, he⟩ := hserved
  intro c c' owner hc hc' howned htaken
  have hafter : e.after.db.custody id =
      (machine.run (e.request.handle app) env e.before).state.db.custody id := by
    rw [he]
    rfl
  obtain ⟨-, hsame⟩ | ⟨f, hf, -, hnext⟩ := e.request.run_commit app env e.before
  · rw [hafter, hsame, hc] at hc'
    obtain rfl := Option.some.inj hc'
    exact absurd htaken howned.not_takenFrom
  · rw [hafter, hnext, hc] at hc'
    by_cases hid : e.request.assetId = id
    · rw [if_pos hid] at hc'
      obtain rfl := Option.some.inj hc'
      refine entitled_of_commitsFrom hf (hid ▸ hc) howned htaken fun q hq hrole hact => ?_
      refine hacts q hq ?_ hrole hact c owner hc howned
      rw [hq] at hid
      exact hid
    · rw [if_neg hid] at hc'
      obtain rfl := Option.some.inj hc'
      exact absurd htaken howned.not_takenFrom

/-- In every run in which consumers ask only for their own assets, nothing is
taken from an owner but by the owner or by the platform under an approval. -/
theorem taken_by_entitled_of_acts_as_owner
    (run : Serves machine (AssetRequest.handle app) start h s)
    (hacts : ∀ id, ∀ e ∈ h, ActsAsOwner id e) : ∀ id, ∀ e ∈ h, TakenByEntitled id e :=
  fun id e he => taken_by_entitled (hacts id e he) (run.entry he)

end Ownership

section Sample

/-- A stranger consumes an asset that somebody else has bought. -/
def consumeRequest (actorId : String) : AssetRequest :=
  .write (.action
    { assetId := "a"
      action := .consume
      actor := { actorId := actorId, actorRole := .consumer }
      headers := .ofList
        [("X-Trace-Id", "11111111-1111-1111-1111-111111111111"), ("X-Idempotency-Key", "k")]
      payload := {}
      draws := { eventId := .repeated 1 } })

def ownedStore : Store where
  db :=
    { brands := ["brand"]
      assets :=
        .single
          { assetId := "a", brandId := "brand", currentState := .legallySold,
            ownerId := some "owner" } }

def consumeRun (actorId : String) : List AssetEntry :=
  machine.serveAll (AssetRequest.handle default) ownedStore [(consumeRequest actorId, fun _ => {})]

theorem consumeRun_serves (actorId : String) :
    ∃ s, Serves machine (AssetRequest.handle default) ownedStore (consumeRun actorId) s :=
  serveAll_serves ..

theorem taken_by_entitled_of_acts_as_owner_consumed :
    (∃ e ∈ consumeRun "owner", Committed e.log) ∧
      ∀ id, ∀ e ∈ consumeRun "owner", TakenByEntitled id e := by
  obtain ⟨s, run⟩ := consumeRun_serves "owner"
  refine ⟨by decide, taken_by_entitled_of_acts_as_owner run fun id e he => ?_⟩
  obtain rfl := List.mem_singleton.mp he
  intro q hq hid _ _ c owner hc howned
  cases hq
  cases hid
  have hstored : ownedStore.db.custody "a" =
      some ⟨"brand", .legallySold, none, some "owner"⟩ := by decide
  obtain rfl := Option.some.inj (hstored.symm.trans hc)
  exact Option.some.inj howned.owner

theorem stranger_consumes :
    ¬∀ (app : AppState) (start s : Store) (h : List AssetEntry),
      Serves machine (AssetRequest.handle app) start h s →
        (∀ e ∈ h, ∀ q, e.request = .write q → q.Routed) →
          ∀ id, ∀ e ∈ h, TakenByEntitled id e := by
  intro hall
  obtain ⟨s, run⟩ := consumeRun_serves "stranger"
  have hrouted : ∀ e ∈ consumeRun "stranger", ∀ q, e.request = .write q → q.Routed := by
    intro e he q hq
    obtain rfl := List.mem_singleton.mp he
    cases hq
    simp [WriteRequest.Routed]
  have hentitled := hall _ _ _ _ run hrouted "a" _ (List.mem_singleton_self _)
    ⟨"brand", .legallySold, none, some "owner"⟩ ⟨"brand", .consumed, none, none⟩ "owner"
    (by decide) (by decide) ⟨.inl rfl, rfl⟩ (.inl nofun)
  obtain hid | ⟨hrole, -⟩ := hentitled
  · exact absurd hid (by decide)
  · exact absurd hrole (by decide)

end Sample

end RcProtocol
