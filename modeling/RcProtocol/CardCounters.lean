import RcProtocol.Api.Effects
import RcProtocol.Api.TransferSpec
import RcProtocol.Library.HighWater
import RcProtocol.Library.Interleaving
import RcProtocol.Replay

/-!
The counter of a physical mother card under any number of proofs at once. A proof looks at
the counter before it checks the tag, and the look may be out of date; only the update,
which takes a larger counter and no other, decides.
-/

namespace RcProtocol
open Library

/-- What a physical card shows for the asset. -/
structure PhysicalProof where
  assetId : String
  uidHex : String
  ctrHex : String
  cmacHex : String

namespace PhysicalProof

def handle (app : AppState) (p : PhysicalProof) : Service (Except RcError AuthorizationResult) :=
  verifyPhysicalAuthority app p.assetId p.uidHex p.ctrHex p.cmacHex

/-- The counter shown, zero if it is not readable. -/
def counter (p : PhysicalProof) : Nat :=
  match parseCtr p.ctrHex with
  | .ok ctr => ctr.toNat
  | .error _ => 0

def pool {ι : Type} (app : AppState) (proofs : ι → PhysicalProof) (start : Store) :
    Pool api Store ι (Except RcError AuthorizationResult) :=
  ⟨start, fun i => (proofs i).handle app⟩

end PhysicalProof

/-- The proof has returned, and is accepted. -/
def Granted : Service (Except RcError AuthorizationResult) → Prop
  | .done (.ok result) => result.authorized = true
  | _ => False

/-- The counter stored for a card. -/
def Db.lastKnownCtr (db : Db) (authorityId : Uuid) : Option (Option ℤ) :=
  (db.authorityDevices.find (·.authorityId = authorityId)).map fun r =>
    r.lastKnownCtr.map Int32.toInt

/-- The mother card of an asset. -/
def Db.motherCard (db : Db) (assetId : String) : Option Uuid :=
  (db.selectAuthorityDeviceByAsset assetId).map (·.authorityId)

/-- The thread whose counter a move takes for the card. -/
def takenBy {ι : Type} (id : Uuid) (v : Move api Store ι) : Option ι :=
  match counterTaken v.event with
  | some (authorityId, _) => if authorityId = id then some v.thread else none
  | none => none

/-- The proofs accepted with a counter of the card, in the order of their updates. -/
def granted {ι : Type} (id : Uuid) (h : List (Move api Store ι)) : List ι :=
  h.filterMap (takenBy id)

section Histories
variable {ι : Type} (proofs : ι → PhysicalProof) (start : Store) (h : List (Move api Store ι))
  (c : Pool api Store ι (Except RcError AuthorizationResult)) (id : Uuid) (first : Option ℤ)

structure CountersIncrease : Prop where
  read : ∀ i ∈ granted id h, ∃ b₀ b₁ b₂, hexDecode (proofs i).ctrHex = some [b₀, b₁, b₂] ∧
    (proofs i).counter = b₀.toNat + b₁.toNat * 256 + b₂.toNat * 65536
  increasing : (granted id h).Pairwise fun i j => (proofs i).counter < (proofs j).counter
  above : ∀ i ∈ granted id h, ∀ m ∈ first, m < (proofs i).counter
  stored : c.state.db.lastKnownCtr id =
    some (((granted id h).map fun i => ((proofs i).counter : ℤ)).max?.or first)
  accepted : ∀ i, start.db.motherCard (proofs i).assetId = some id →
    (Granted (c.threads i) ↔ i ∈ granted id h)
  refused : ∀ v ∈ h, ¬Granted (c.threads v.thread) → v.after = v.before

end Histories

theorem parseCtr_ok {ctrHex : String} {ctr : UInt32} (h : parseCtr ctrHex = .ok ctr) :
    ∃ b : Bytes 3, hexDecode ctrHex = some b.toList ∧ ctr = b.leCounter := by
  unfold parseCtr at h
  split at h
  · cases h
  · obtain ⟨bytes, hbytes, h⟩ := bind_ok h
    obtain ⟨b, hb, h⟩ := bind_ok h
    exact ⟨b, by rw [decodeHex_ok hbytes, sized_ok hb], (Except.ok.inj h).symm⟩

/-- Three bytes are far from the sign of the column. -/
theorem counter_toInt {p : PhysicalProof} {ctr : UInt32} (h : parseCtr p.ctrHex = .ok ctr) :
    ctr.toInt32.toInt = p.counter := by
  obtain ⟨b, _, hctr⟩ := parseCtr_ok h
  have hlt : ctr.toNat < 2 ^ 24 := hctr ▸ b.leCounter_lt
  have hcounter : p.counter = ctr.toNat := by simp only [PhysicalProof.counter, h]
  rw [hcounter]
  apply BitVec.toInt_eq_toNat_of_lt
  show 2 * ctr.toNat < 2 ^ 32
  omega

theorem counter_bytes {p : PhysicalProof} {ctr : UInt32} (h : parseCtr p.ctrHex = .ok ctr) :
    ∃ b₀ b₁ b₂, hexDecode p.ctrHex = some [b₀, b₁, b₂] ∧
      p.counter = b₀.toNat + b₁.toNat * 256 + b₂.toNat * 65536 := by
  obtain ⟨b, hb, hctr⟩ := parseCtr_ok h
  refine ⟨b.get 0, b.get 1, b.get 2, ?_, ?_⟩
  · rw [hb]
    congr 1
    apply List.ext_getElem
    · rw [b.length_eq]
      rfl
    · intro k hk hk'
      match k, hk' with
      | 0, _ => rfl
      | 1, _ => rfl
      | 2, _ => rfl
  · simp only [PhysicalProof.counter, h, hctr, Bytes.leCounter_toNat]

namespace Db
variable {db : Db} {authorityId id : Uuid} {newCtr : Int32} {assetId : String}

theorem withDevices_self {devices : Table AuthorityDeviceRow}
    {h : Entangled db.entanglements devices} (hdevices : devices = db.authorityDevices) :
    { db with authorityDevices := devices, entangled := h } = db := by
  subst hdevices
  rfl

/-- An update that finds no smaller counter changes nothing. -/
theorem updateAuthorityCtr_false (h : (db.updateAuthorityCtr authorityId newCtr).1 = false) :
    (db.updateAuthorityCtr authorityId newCtr).2 = db := by
  apply withDevices_self
  apply Table.update_eq_self
  intro r hr hp
  have hnone := Option.isNone_iff_eq_none.mp (Option.isSome_eq_false_iff.mp h)
  rw [Table.find_eq_none.mp hnone r hr] at hp
  cases hp

/-- An update that does was offered a larger counter. -/
theorem updateAuthorityCtr_true (h : (db.updateAuthorityCtr authorityId newCtr).1 = true) :
    ∃ last, db.lastKnownCtr authorityId = some last ∧ (∀ m ∈ last, m < newCtr.toInt) ∧
      (db.updateAuthorityCtr authorityId newCtr).2.lastKnownCtr authorityId =
        some (some newCtr.toInt) := by
  obtain ⟨r, hr⟩ := Option.isSome_iff_exists.mp h
  have hmem := Table.mem_of_find hr
  have hmatched := Table.prop_of_find hr
  simp only [Bool.and_eq_true, decide_eq_true_eq] at hmatched
  obtain ⟨hid, hlast⟩ := hmatched
  have hfound : db.authorityDevices.find (·.authorityId = authorityId) = some r :=
    Table.find_eq_some hmem (by simpa using hid) fun a _ ha =>
      .inl ((of_decide_eq_true ha).trans hid.symm)
  refine ⟨r.lastKnownCtr.map Int32.toInt, ?_, ?_, ?_⟩
  · simp only [lastKnownCtr, hfound, Option.map_some]
  · intro m hm
    obtain ⟨ctr, hctr, rfl⟩ := Option.map_eq_some_iff.mp hm
    rw [hctr] at hlast
    exact Int32.lt_iff_toInt_lt.mp (by simpa using hlast)
  · simp only [lastKnownCtr, updateAuthorityCtr]
    rw [Table.find_update, hfound]
    · simp [hid, hlast]
    · exact fun _ => rfl

theorem updateAuthorityCtr_other (h : id ≠ authorityId) :
    (db.updateAuthorityCtr authorityId newCtr).2.lastKnownCtr id = db.lastKnownCtr id := by
  simp only [lastKnownCtr, updateAuthorityCtr]
  rw [Table.find_update]
  · cases hr : db.authorityDevices.find (·.authorityId = id) with
    | none => rfl
    | some r =>
        have hid : r.authorityId = id := by simpa using Table.prop_of_find hr
        simp [hid, h]
  · exact fun _ => rfl

theorem updateAuthorityCtr_motherCard :
    (db.updateAuthorityCtr authorityId newCtr).2.motherCard assetId = db.motherCard assetId := by
  simp only [motherCard, selectAuthorityDeviceByAsset, updateAuthorityCtr]
  cases db.entanglements.find _ with
  | none => rfl
  | some e =>
      simp only
      rw [Table.find_update, Option.map_map]
      · congr 1
        funext r
        simp only [Function.comp_apply]
        split <;> rfl
      · exact fun _ => rfl

end Db

section Calls
variable {app : AppState} {assetId : String} {proof : AuthorityProof} {log : Log} {op : Op}
  {env : machine.Env} {s : Store} {id : Uuid} {newCtr : Int32}

/-- Only an update that finds a smaller counter writes. -/
theorem AuthorityStep.exec_none (hop : AuthorityStep app assetId proof log op)
    (env : machine.Env) (s : Store) (h : counterTaken ⟨op, (machine.exec env op s).1⟩ = none) :
    (machine.exec env op s).2 = s := by
  cases hop with
  | device => exact query_state _
  | @counter device uid ctr cmac newCtr hgrants =>
      simp only [machine, exec, command] at h ⊢
      cases hfails : env.fails with
      | some e => rfl
      | none =>
          simp only [hfails] at h
          cases hmoved : (s.db.updateAuthorityCtr device.authorityId newCtr.toInt32).1 with
          | true =>
              rw [hmoved] at h
              cases h
          | false => simp only [Db.updateAuthorityCtr_false hmoved]

theorem exec_taken (h : counterTaken ⟨op, (machine.exec env op s).1⟩ = some (id, newCtr)) :
    op = .updateAuthorityCtr id newCtr ∧ (s.db.updateAuthorityCtr id newCtr).1 = true ∧
      (machine.exec env op s).2 = { s with db := (s.db.updateAuthorityCtr id newCtr).2 } := by
  cases op with
  | updateAuthorityCtr authorityId ctr =>
      simp only [machine, exec, command] at h ⊢
      cases hfails : env.fails with
      | some e =>
          simp only [hfails] at h
          cases h
      | none =>
          simp only [hfails] at h ⊢
          cases hmoved : (s.db.updateAuthorityCtr authorityId ctr).1 with
          | false =>
              rw [hmoved] at h
              cases h
          | true =>
              rw [hmoved] at h
              cases h
              exact ⟨rfl, hmoved, rfl⟩
  | _ => cases h

/-- No move of a proof changes which card an asset has. -/
theorem AuthorityStep.motherCard (hop : AuthorityStep app assetId proof log op)
    (env : machine.Env) (s : Store) (id : String) :
    (machine.exec env op s).2.db.motherCard id = s.db.motherCard id := by
  cases htaken : counterTaken ⟨op, (machine.exec env op s).1⟩ with
  | none => rw [hop.exec_none env s htaken]
  | some taken =>
      rw [(exec_taken htaken).2.2]
      exact Db.updateAuthorityCtr_motherCard

/-- The counter that is taken is the one shown, of the card that was read. -/
theorem AuthorityStep.update {p : PhysicalProof}
    (hop : AuthorityStep app p.assetId (.physicalNfc p.uidHex p.ctrHex p.cmacHex) log
      (.updateAuthorityCtr id newCtr)) :
    ∃ device ctr, log = [⟨.selectAuthorityDeviceByAsset p.assetId, .ok (some device)⟩] ∧
      device.authorityId = id ∧ parseCtr p.ctrHex = .ok ctr ∧ newCtr = ctr.toInt32 := by
  cases hop with
  | counter h => exact ⟨_, _, rfl, rfl, h.counter, rfl⟩

theorem exec_selectAuthorityDevice {device : AuthorityDeviceRow}
    (h : (machine.exec env (.selectAuthorityDeviceByAsset assetId) s).1 = .ok (some device)) :
    s.db.motherCard assetId = some device.authorityId := by
  have hread : s.db.selectAuthorityDeviceByAsset assetId = some device := query_ok h
  rw [Db.motherCard, hread, Option.map_some]

/-- A proof that has taken a counter makes no call. -/
theorem AuthorityStep.untaken (hop : AuthorityStep app assetId proof log op) :
    ∀ e ∈ log, counterTaken e = none := by
  intro e he
  cases hop with
  | device => exact absurd he List.not_mem_nil
  | counter h =>
      obtain rfl := List.mem_singleton.mp he
      rfl

end Calls

section Runs
variable {ι : Type} {app : AppState} {proofs : ι → PhysicalProof} {start : Store}
  {h : List (Move api Store ι)} {c : Pool api Store ι (Except RcError AuthorizationResult)}
  {id : Uuid} {i : ι} {v : Move api Store ι} {first : Option ℤ}

theorem takenBy_eq_some : takenBy id v = some i ↔
    v.thread = i ∧ ∃ newCtr, counterTaken v.event = some (id, newCtr) := by
  unfold takenBy
  cases htaken : counterTaken v.event with
  | none => simp
  | some taken =>
      obtain ⟨authorityId, newCtr⟩ := taken
      by_cases hid : authorityId = id
      · simp [hid]
      · simp [hid]

theorem mem_granted : i ∈ granted id h ↔
    ∃ v ∈ h, v.thread = i ∧ ∃ newCtr, counterTaken v.event = some (id, newCtr) := by
  simp only [granted, List.mem_filterMap, takenBy_eq_some]

theorem granted_append : granted id (h ++ [v]) = granted id h ++ (takenBy id v).toList := by
  cases hv : takenBy id v with
  | none => simp [granted, hv]
  | some i => simp [granted, hv]

variable [DecidableEq ι]

theorem exists_granted :
    (∃ id, i ∈ granted id h) ↔ ∃ e ∈ eventsOf i h, counterTaken e ≠ none := by
  simp only [mem_granted, mem_eventsOf]
  constructor
  · rintro ⟨id, v, hv, hi, newCtr, htaken⟩
    exact ⟨v.event, ⟨v, hv, hi, rfl⟩, by rw [htaken]; exact Option.some_ne_none _⟩
  · rintro ⟨_, ⟨v, hv, hi, rfl⟩, htaken⟩
    obtain ⟨⟨id, newCtr⟩, htaken⟩ := Option.ne_none_iff_exists'.mp htaken
    exact ⟨id, v, hv, hi, newCtr, htaken⟩

section Pool
variable (run : Interleaves machine (PhysicalProof.pool app proofs start) h c)
include run

theorem proofs_outcome (i : ι) :
    Meets (AuthorityStep app (proofs i).assetId
        (.physicalNfc (proofs i).uidHex (proofs i).ctrHex (proofs i).cmacHex))
      (PhysicalOutcome app (proofs i).assetId (proofs i).uidHex (proofs i).ctrHex
        (proofs i).cmacHex) (eventsOf i h) (c.threads i) := by
  have hstart : ∀ j, Meets (AuthorityStep app (proofs j).assetId
        (.physicalNfc (proofs j).uidHex (proofs j).ctrHex (proofs j).cmacHex))
      (PhysicalOutcome app (proofs j).assetId (proofs j).uidHex (proofs j).ctrHex
        (proofs j).cmacHex) [] ((PhysicalProof.pool app proofs start).threads j) :=
    fun j => verifyPhysicalAuthority_outcome _ _ _
  exact run.meets hstart i

/-- A proof is accepted exactly when it has taken a counter. -/
theorem granted_iff : Granted (c.threads i) ↔ ∃ id, i ∈ granted id h := by
  have hmeets := proofs_outcome run i
  rw [exists_granted]
  cases hthread : c.threads i with
  | call op next =>
      rw [hthread] at hmeets
      constructor
      · exact False.elim
      · rintro ⟨e, he, htaken⟩
        exact absurd (hmeets.1.untaken e he) htaken
  | done result =>
      rw [hthread, meets_done] at hmeets
      generalize eventsOf i h = log at hmeets
      cases hmeets with
      | failed hlog => simpa [Granted] using hlog
      | refused hlog => simpa [Granted] using hlog
      | granted hgrants => simp [Granted, AuthorityDeviceRow.accepted, counterTaken]

/-- The call of a move. -/
theorem proofs_call {h₁ h₂ : List (Move api Store ι)} (hh : h = h₁ ++ v :: h₂) :
    AuthorityStep app (proofs v.thread).assetId
      (.physicalNfc (proofs v.thread).uidHex (proofs v.thread).ctrHex (proofs v.thread).cmacHex)
      (eventsOf v.thread h₁) v.event.op := by
  obtain ⟨c₁, next, run₁, _, hv⟩ := run.split hh
  have hmeets := proofs_outcome run₁ v.thread
  rw [hv] at hmeets
  exact hmeets.1

/-- A proof that is not accepted has left the state as it was, at every move. -/
theorem proofs_refused (hv : v ∈ h) (hnot : ¬Granted (c.threads v.thread)) :
    v.after = v.before := by
  obtain ⟨h₁, h₂, hh⟩ := List.append_of_mem hv
  obtain ⟨env, hexec⟩ := run.move hv
  have hnone : counterTaken v.event = none := by
    by_contra htaken
    obtain ⟨⟨id, newCtr⟩, htaken⟩ := Option.ne_none_iff_exists'.mp htaken
    exact hnot ((granted_iff run).mpr ⟨id, mem_granted.mpr ⟨v, hv, rfl, newCtr, htaken⟩⟩)
  have hstate := (proofs_call run hh).exec_none env v.before
  rw [hexec] at hstate
  exact hstate hnone

theorem proofs_motherCard (assetId : String) :
    c.state.db.motherCard assetId = start.db.motherCard assetId := by
  refine run.relates (R := fun s s' => s'.db.motherCard assetId = s.db.motherCard assetId)
    (fun _ => rfl) ?_ fun v hv => ?_
  · intro _ _ _ h h'
    exact Eq.trans h' h
  · obtain ⟨h₁, h₂, hh⟩ := List.append_of_mem hv
    obtain ⟨env, hexec⟩ := run.move hv
    have hcard := (proofs_call run hh).motherCard env v.before assetId
    rwa [hexec] at hcard

/-- A move that takes a counter, and what its proof has read. -/
theorem proofs_taken {h₁ h₂ : List (Move api Store ι)} (hh : h = h₁ ++ v :: h₂) {newCtr : Int32}
    (htaken : counterTaken v.event = some (id, newCtr)) :
    (v.before.db.updateAuthorityCtr id newCtr).1 = true ∧
      v.after.db = (v.before.db.updateAuthorityCtr id newCtr).2 ∧
        ∃ device ctr, eventsOf v.thread h₁ =
          [⟨.selectAuthorityDeviceByAsset (proofs v.thread).assetId, .ok (some device)⟩] ∧
            device.authorityId = id ∧ parseCtr (proofs v.thread).ctrHex = .ok ctr ∧
              newCtr = ctr.toInt32 := by
  obtain ⟨env, hexec⟩ := run.move (v := v) (hh ▸ List.mem_append_right _ (List.mem_cons_self ..))
  have hcall := proofs_call run hh
  have hop : (⟨v.event.op, (machine.exec env v.event.op v.before).1⟩ : Event api) = v.event := by
    rw [hexec]
  obtain ⟨hop, hmoved, hafter⟩ := exec_taken (hop ▸ htaken)
  rw [hop] at hcall
  rw [hexec] at hafter
  exact ⟨hmoved, congrArg Store.db hafter, hcall.update⟩

/-- The counter is taken of the card the asset has. -/
theorem granted_motherCard (hi : i ∈ granted id h) :
    start.db.motherCard (proofs i).assetId = some id := by
  obtain ⟨v, hv, rfl, newCtr, htaken⟩ := mem_granted.mp hi
  obtain ⟨h₁, h₂, hh⟩ := List.append_of_mem hv
  obtain ⟨_, _, device, ctr, hlog, rfl, _⟩ := proofs_taken run hh htaken
  have hread : (⟨.selectAuthorityDeviceByAsset (proofs v.thread).assetId, .ok (some device)⟩ :
      Event api) ∈ eventsOf v.thread h₁ := by
    rw [hlog]
    exact List.mem_singleton_self _
  obtain ⟨w, hw, _, hevent⟩ := mem_eventsOf.mp hread
  obtain ⟨g₁, g₂, rfl⟩ := List.append_of_mem hw
  have hsplit : h = g₁ ++ w :: (g₂ ++ v :: h₂) := by
    rw [hh, List.append_assoc, List.cons_append]
  obtain ⟨c₁, next, run₁, hstate, _⟩ := run.split hsplit
  obtain ⟨env, hexec⟩ :=
    run.move (v := w) (hsplit ▸ List.mem_append_right _ (List.mem_cons_self ..))
  rw [hevent] at hexec
  rw [← proofs_motherCard run₁, hstate]
  exact exec_selectAuthorityDevice (congrArg Prod.fst hexec)

/-- The register of a card holds the largest counter it has taken. -/
theorem counters_raised (hfirst : start.db.lastKnownCtr id = some first) :
    ∃ last, c.state.db.lastKnownCtr id = some last ∧
      Raised first ((granted id h).map fun i => ((proofs i).counter : ℤ)) last := by
  have hrun := run
  induction run with
  | start => exact ⟨first, hfirst, .first⟩
  | @step h c run i op next hi env ih =>
      obtain ⟨last, hlast, hraised⟩ := ih run
      have hcall := proofs_call hrun rfl
      rw [granted_append]
      dsimp only at hcall ⊢
      cases htaken : counterTaken ⟨op, (machine.exec env op c.state).1⟩ with
      | none =>
          simp only [takenBy, htaken, Option.toList_none, List.append_nil,
            hcall.exec_none env c.state htaken]
          exact ⟨last, hlast, hraised⟩
      | some taken =>
          obtain ⟨authorityId, newCtr⟩ := taken
          obtain ⟨hmoved, hafter, device, ctr, _, _, hctr, rfl⟩ := proofs_taken hrun rfl htaken
          dsimp only at hmoved hafter
          rw [hafter]
          by_cases hid : authorityId = id
          · subst hid
            obtain ⟨m, hm, hlt, hnow⟩ := Db.updateAuthorityCtr_true hmoved
            obtain rfl : m = last := Option.some.inj (hm.symm.trans hlast)
            rw [counter_toInt hctr] at hlt hnow
            refine ⟨_, hnow, ?_⟩
            simp only [takenBy, htaken, if_pos, Option.toList_some, List.map_append, List.map_cons,
              List.map_nil]
            exact hraised.enter _ hlt
          · rw [Db.updateAuthorityCtr_other (Ne.symm hid)]
            simp only [takenBy, htaken, if_neg hid, Option.toList_none, List.append_nil]
            exact ⟨last, hlast, hraised⟩

end Pool

end Runs

/-- Under any number of proofs at once the counters of a card that are accepted increase,
and a proof that is not accepted leaves no trace. -/
theorem card_counters_increase {ι : Type} [DecidableEq ι] (app : AppState)
    (proofs : ι → PhysicalProof) (start : Store) (h : List (Move api Store ι))
    (c : Pool api Store ι (Except RcError AuthorizationResult)) (id : Uuid) (first : Option ℤ)
    (run : Interleaves machine (PhysicalProof.pool app proofs start) h c)
    (hfirst : start.db.lastKnownCtr id = some first) :
    CountersIncrease proofs start h c id first := by
  obtain ⟨last, hlast, hraised⟩ := counters_raised run hfirst
  refine ⟨fun i hi => ?_, ?_, fun i hi m hm => ?_, ?_, fun i hi => ?_, fun v hv hnot => ?_⟩
  · obtain ⟨v, hv, rfl, newCtr, htaken⟩ := mem_granted.mp hi
    obtain ⟨h₁, h₂, hh⟩ := List.append_of_mem hv
    obtain ⟨_, _, _, ctr, _, _, hctr, _⟩ := proofs_taken run hh htaken
    exact counter_bytes hctr
  · refine (List.pairwise_map.mp hraised.increasing).imp fun hlt => ?_
    exact_mod_cast hlt
  · exact hraised.above (List.mem_map_of_mem hi) hm
  · rw [hlast, hraised.last_eq]
  · rw [granted_iff run]
    constructor
    · rintro ⟨card, hcard⟩
      have hsame := granted_motherCard run hcard
      rw [hi] at hsame
      cases hsame
      exact hcard
    · intro hcard
      exact ⟨id, hcard⟩
  · exact proofs_refused run hv hnot

/-- An asset with a physical mother card that has not been used. -/
def cardStore : Store where
  db :=
    { brands := ["brand"]
      assets := .single { assetId := "a", brandId := "brand", currentState := .legallySold }
      authorityDevices :=
        .single
          { authorityId := .repeated 1, authorityUid := "04A31B2C3D4E5F",
            authorityType := "PHYSICAL_NFC", brandId := "brand",
            physicalChipUid := some "04A31B2C3D4E5F" }
      entanglements :=
        .single
          { entanglementId := .repeated 2, assetId := "a", childUid := "04B31B2C3D4E5F",
            authorityId := .repeated 1, authorityUid := "04A31B2C3D4E5F", boundBy := "brand" }
      entangled := by
        intro e he
        obtain rfl := List.mem_singleton.mp he
        exact ⟨_, List.mem_singleton_self _, rfl⟩ }

def cardProof : PhysicalProof := ⟨"a", "04a31b2c3d4e5f", "0A0000", "e545ab922a4e3140"⟩

/-- One scan of the card, shown twice: both look before either updates. -/
def cardRun : List (Move api Store Bool) ×
    Pool api Store Bool (Except RcError AuthorizationResult) :=
  (PhysicalProof.pool (scanApp 0) (fun _ => cardProof) cardStore).schedule machine
    [(false, {}), (true, {}), (true, {}), (false, {})]

theorem cardRun_interleaves :
    Interleaves machine (PhysicalProof.pool (scanApp 0) (fun _ => cardProof) cardStore)
      cardRun.1 cardRun.2 :=
  schedule_interleaves ..

theorem card_counters_increase_once :
    granted (.repeated 1) cardRun.1 = [true] ∧
      cardRun.2.state.db.lastKnownCtr (.repeated 1) = some (some 10) ∧
      CountersIncrease (fun _ => cardProof) cardStore cardRun.1 cardRun.2 (.repeated 1) none :=
  ⟨by decide +kernel, by decide +kernel,
    card_counters_increase (scanApp 0) _ cardStore _ _ (.repeated 1) none cardRun_interleaves rfl⟩

end RcProtocol
