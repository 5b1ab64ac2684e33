import RcProtocol.Api.AuthorityDevices
import RcProtocol.CardCounters
import RcProtocol.TransferRefinement

/-!
The way from the registration of a physical mother card to its first proof. The proofs
read the tables as the migrations declare them; the registration does not.
-/

namespace RcProtocol
open Library

/-- The card made this proof, for the asset. -/
structure PhysicalProof.MadeBy (app : AppState) (p : PhysicalProof)
    (assetId chipUid brandId : String) (keyEpoch : Int32) : Prop where
  asset : p.assetId = assetId
  chip : upper app.unicodeUpper p.uidHex = upper app.unicodeUpper chipUid
  counter : ∃ ctr, parseCtr p.ctrHex = .ok ctr
  authentic : ∃ message, decodeSunMessage "" p.uidHex p.ctrHex p.cmacHex = .ok message ∧
    checkTag app brandId keyEpoch message = .ok true

/-- After any number of proofs the next one the card makes is accepted, if its counter is
above those accepted of the card before. -/
def CardAuthorizes (app : AppState) (start : Store) (assetId chipUid brandId : String)
    (keyEpoch : Int32) : Prop :=
  ∀ (proofs : ℕ → PhysicalProof) h c,
    Interleaves machine (PhysicalProof.pool app proofs start) h c → ∀ p : PhysicalProof,
      p.MadeBy app assetId chipUid brandId keyEpoch →
        (∀ i, start.db.motherCard (proofs i).assetId = start.db.motherCard assetId →
          Granted (c.threads i) → (proofs i).counter < p.counter) →
            ∀ id, Granted (.done (machine.run (p.handle app) (fun _ => quiet id) c.state).answer)

section Links
variable {app : AppState} {start : Store} {assetId chipUid : String} {device : AuthorityDeviceRow}

/-- The card of an asset but for its counter. -/
def Db.cardColumns (db : Db) (assetId : String) : Option AuthorityDeviceRow :=
  (db.selectAuthorityDeviceByAsset assetId).map fun d => { d with lastKnownCtr := none }

theorem Db.updateAuthorityCtr_cardColumns {db : Db} {authorityId : Uuid} {newCtr : Int32} :
    (db.updateAuthorityCtr authorityId newCtr).2.cardColumns assetId = db.cardColumns assetId := by
  simp only [cardColumns, selectAuthorityDeviceByAsset, updateAuthorityCtr]
  cases db.entanglements.find _ with
  | none => rfl
  | some e =>
      simp only
      rw [Table.find_update, Option.map_map]
      · congr 1
        funext r
        simp only [Function.comp_apply]
        split <;> rfl
      · exact fun _ => rfl

theorem proofs_cardColumns {ι : Type} [DecidableEq ι] {proofs : ι → PhysicalProof}
    {h : List (Move api Store ι)} {c : Pool api Store ι (Except RcError AuthorizationResult)}
    (run : Interleaves machine (PhysicalProof.pool app proofs start) h c) (assetId : String) :
    c.state.db.cardColumns assetId = start.db.cardColumns assetId := by
  refine run.relates (R := fun s s' => s'.db.cardColumns assetId = s.db.cardColumns assetId)
    (fun _ => rfl) ?_ fun v hv => ?_
  · intro _ _ _ h h'
    exact Eq.trans h' h
  · obtain ⟨h₁, h₂, hh⟩ := List.append_of_mem hv
    cases htaken : counterTaken v.event with
    | none =>
        obtain ⟨env, hexec⟩ := run.move hv
        have hstate := (proofs_call run hh).exec_none env v.before
        rw [hexec] at hstate
        have hsame : v.after = v.before := hstate htaken
        rw [hsame]
    | some taken =>
        obtain ⟨_, hafter, _⟩ := proofs_taken run hh htaken
        rw [hafter]
        exact Db.updateAuthorityCtr_cardColumns

/-- A new card that is linked as the proofs read it authorizes its asset. -/
theorem linked_authorizes (hdevice : start.db.selectAuthorityDeviceByAsset assetId = some device)
    (htype : device.authorityType = "PHYSICAL_NFC") (hactive : device.status = "Active")
    (hchip : device.physicalChipUid = some chipUid) (hnew : device.lastKnownCtr = none) :
    CardAuthorizes app start assetId chipUid device.brandId device.keyEpoch := by
  intro proofs h c run p hp habove id
  have hfirst : start.db.lastKnownCtr device.authorityId = some none := by
    have hmem := authorityDevice_mem (s := start) hdevice
    have hfound : start.db.authorityDevices.find (·.authorityId = device.authorityId) =
        some device :=
      Table.find_eq_some hmem (by simp) fun _ _ ha => .inl (of_decide_eq_true ha)
    rw [Db.lastKnownCtr, hfound, Option.map_some, hnew, Option.map_none]
  have hcard : start.db.motherCard assetId = some device.authorityId := by
    rw [Db.motherCard, hdevice, Option.map_some]
  have hincrease := card_counters_increase app proofs start h c _ _ run hfirst
  have hnow : c.state.db.cardColumns assetId = some device := by
    rw [proofs_cardColumns run, Db.cardColumns, hdevice, Option.map_some, ← hnew]
  obtain ⟨d, hd, hcolumns⟩ := Option.map_eq_some_iff.mp hnow
  have hlast : c.state.db.lastKnownCtr device.authorityId = some (d.lastKnownCtr.map Int32.toInt) := by
    have hmem := authorityDevice_mem (s := c.state) hd
    have hid : d.authorityId = device.authorityId := by rw [← hcolumns]
    have hfound : c.state.db.authorityDevices.find (·.authorityId = d.authorityId) = some d :=
      Table.find_eq_some hmem (by simp) fun _ _ ha => .inl (of_decide_eq_true ha)
    rw [← hid, Db.lastKnownCtr, hfound, Option.map_some]
  obtain ⟨ctr, hctr⟩ := hp.counter
  have hfresh : d.lastKnownCtr.any (ctr.toInt32 ≤ ·) = false := by
    cases hstored : d.lastKnownCtr with
    | none => rfl
    | some last =>
        rw [hincrease.stored, hstored, Option.or_none, Option.map_some] at hlast
        have hmem := List.max?_mem (Option.some.inj hlast)
        obtain ⟨i, hi, hcounter⟩ := List.mem_map.mp hmem
        have hasset := granted_motherCard run hi
        have hgranted := (granted_iff run).mpr ⟨_, hi⟩
        have hlt := habove i (hasset.trans hcard.symm) hgranted
        have hctrInt := counter_toInt hctr
        rw [Option.any_some, decide_eq_false_iff_not, Int32.le_iff_toInt_le]
        omega
  have hcolumn : ∀ {β : Type} (f : AuthorityDeviceRow → β),
      (∀ r : AuthorityDeviceRow, f { r with lastKnownCtr := none } = f r) → f d = f device := by
    intro β f hf
    rw [← hf d, hcolumns]
  obtain ⟨message, hmessage, htag⟩ := hp.authentic
  have hgrants : d.GrantsPhysical app p.uidHex p.ctrHex p.cmacHex ctr :=
    { authorityType := (hcolumn (·.authorityType) fun _ => rfl).trans htype
      active := (hcolumn (·.status) fun _ => rfl).trans hactive
      chip := ⟨chipUid, (hcolumn (·.physicalChipUid) fun _ => rfl).trans hchip, hp.chip⟩
      counter := hctr
      fresh := hfresh
      authentic := by
        rw [hcolumn (·.brandId) fun _ => rfl, hcolumn (·.keyEpoch) fun _ => rfl]
        exact ⟨message, hmessage, htag⟩ }
  have hrun : (machine.run (p.handle app) (fun _ => quiet id) c.state).answer = .ok d.accepted :=
    (verifyPhysicalAuthority_evaluates (hp.asset ▸ hd) hgrants).answer
  rw [hrun]
  rfl

end Links

/-- A request that may be registered: by a brand or the platform, for a new chip, and an
asset of the brand that has no card. -/
structure MayRegister (app : AppState) (actor : ActorContext)
    (req : RegisterPhysicalMotherCardRequest) (db : Db) : Prop where
  role : actor.actorRole = .brand ∨ actor.actorRole = .platform
  chip : (utf8 req.chipUid).length = 14 ∧ req.chipUid.toList.all isAsciiHexdigit = true
  new : ∀ d ∈ db.authorityDevices.rows, d.physicalChipUid ≠ some (upper app.unicodeUpper req.chipUid)
  asset : ∃ r ∈ db.asset req.assetId, r.brandId = req.brandId
  unlinked : ∀ e ∈ db.entanglements.rows, e.assetId = req.assetId → e.entanglementState ≠ "Active"

/-- The registration succeeds, and from then on the card authorizes its asset. -/
structure RegistrationWorks (app : AppState) (draws : Draws) (actor : ActorContext)
    (req : RegisterPhysicalMotherCardRequest) (env : Nat → machine.Env) (s : Store) : Prop where
  created : (machine.run (registerPhysicalMotherCard app draws actor req) env s).answer.status = 201
  authorizes : CardAuthorizes app
    (machine.run (registerPhysicalMotherCard app draws actor req) env s).state req.assetId
      req.chipUid req.brandId req.keyEpoch

theorem errorResponse_not_created (err : RcError) : (errorResponse err).status ≠ 201 := by
  cases err <;> simp [errorResponse]

theorem exec_selectDeviceIdByChip (env : machine.Env) (chipUid : String) (s : Store) :
    ∃ e, machine.exec env (.selectDeviceIdByChip chipUid) s = (.error e, s) := by
  simp only [machine, exec, command]
  cases env.fails with
  | some e => exact ⟨e, rfl⟩
  | none => exact ⟨_, rfl⟩

/-- Whatever is sent, the registration ends in an error and leaves nothing behind: its first
statement names a column that does not exist. -/
theorem registration_refused (app : AppState) (draws : Draws) (actor : ActorContext)
    (req : RegisterPhysicalMotherCardRequest) (env : Nat → machine.Env) (s : Store) :
    (∃ err, (machine.run (registerPhysicalMotherCard app draws actor req) env s).answer =
      errorResponse err) ∧
    (machine.run (registerPhysicalMotherCard app draws actor req) env s).state = s := by
  have hdone : ∀ err, (∃ err', (machine.run (.done (errorResponse err)) env s).answer =
      errorResponse err') ∧ (machine.run (.done (errorResponse err)) env s).state = s :=
    fun err => ⟨⟨err, rfl⟩, rfl⟩
  unfold registerPhysicalMotherCard
  split
  · exact hdone _
  split
  · exact hdone _
  split
  · exact hdone _
  obtain ⟨e, hexec⟩ := exec_selectDeviceIdByChip (env 0) (upper app.unicodeUpper req.chipUid) s
  simp only [Program.attempt, Program.map, Program.bind, ask, perform, Machine.run, hexec]
  exact ⟨⟨.database e, rfl⟩, rfl⟩

theorem registration_never_works (app : AppState) (draws : Draws) (actor : ActorContext)
    (req : RegisterPhysicalMotherCardRequest) (env : Nat → machine.Env) (s : Store) :
    ¬RegistrationWorks app draws actor req env s := by
  intro h
  obtain ⟨err, hanswer⟩ := (registration_refused app draws actor req env s).1
  have hcreated := h.created
  rw [hanswer] at hcreated
  exact errorResponse_not_created err hcreated

/-- The brand registers the card of a sold asset. -/
theorem registration_of_new_card_fails :
    ¬∀ (app : AppState) (draws : Draws) (actor : ActorContext)
        (req : RegisterPhysicalMotherCardRequest) (s : Store), MayRegister app actor req s.db →
      RegistrationWorks app draws actor req (fun _ => {}) s := by
  intro hall
  have hmay : MayRegister (scanApp 0) { actorId := "clerk", actorRole := .brand }
      ⟨"04a31b2c3d4e5f", "brand", 0, "a"⟩ taggedStore.db :=
    { role := .inl rfl
      chip := by decide
      new := fun _ hd => absurd hd List.not_mem_nil
      asset := by decide
      unlinked := fun _ he => absurd he List.not_mem_nil }
  have hcreated := (hall _ { eventId := .repeated 1 } _ _ _ hmay).created
  exact absurd hcreated (by decide +kernel)

end RcProtocol
