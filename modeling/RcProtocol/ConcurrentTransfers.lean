import RcProtocol.Api.Events
import RcProtocol.Api.Transfers
import RcProtocol.ChildTag
import RcProtocol.Library.Ledger

/-!
Transfers at the same time. Each reads the owner, changes it and records the change
in statements of its own, so the records tell the ownership only while nobody
changes the owner behind the back of a request that has read it, and while the
records follow in the order of the changes.
-/

namespace RcProtocol
open Library

/-- The requests, before any of them has run. -/
def TransferCall.pool {ι : Type} (app : AppState) (calls : ι → TransferCall) (start : Store) :
    Pool api Store ι Reply :=
  ⟨start, fun i => (calls i).handle app⟩

def Db.ownerOf (db : Db) (assetId : String) : Option String := (db.selectOwner assetId).join

/-- From whom to whom the records of an asset say it went, oldest first. -/
def Db.handovers (db : Db) (assetId : String) : List (String × String) :=
  (db.transfersOf assetId).map fun r => (r.fromOwnerId, r.toOwnerId)

def TransferCall.handover (call : TransferCall) : String × String :=
  (call.actor.actorId, call.payload.newOwnerId)

abbrev Handed (handovers : List (String × String)) (owner : Option String) : Prop :=
  Tracks (fun h => some h.1) (fun h => h.2) handovers owner

section Histories
variable {ι : Type} (id : String) {v : Move api Store ι}

/-- The owner of the asset changes. -/
def handsOver (v : Move api Store ι) : Bool :=
  match custodyWrite v.event with
  | some (key, _) => key = id
  | none => false

def readsOwner (v : Move api Store ι) : Bool :=
  match v.event.op with
  | .selectOwner assetId => assetId = id
  | _ => false

def insertsRecord (v : Move api Store ι) : Bool :=
  match v.event.op with
  | .insertTransfer _ => true
  | _ => false

theorem handsOver_iff {id : String} : handsOver id v = true ↔ ∃ f, custodyWrite v.event = some (id, f) := by
  unfold handsOver
  cases custodyWrite v.event with
  | none => simp
  | some w => cases w; simp [eq_comm]

theorem readsOwner_iff {id : String} : readsOwner id v = true ↔ v.event.op = .selectOwner id := by
  unfold readsOwner
  cases v.event.op <;> simp

variable [DecidableEq ι]

def waitingStep (waiting : List ι) (v : Move api Store ι) : List ι :=
  if handsOver id v then waiting ++ [v.thread]
  else if insertsRecord v then waiting.erase v.thread
  else waiting

/-- The requests that have changed the owner and have not come to their record,
in the order of the changes. -/
def waiting (h : List (Move api Store ι)) : List ι := h.foldl (waitingStep id) []

/-- The moves from a request's reading of the owner on. -/
def sinceRead (i : ι) (h : List (Move api Store ι)) : List (Move api Store ι) :=
  h.dropWhile fun v => !(v.thread = i && readsOwner id v)

/-- A request has read the owner when the other changes it. -/
def ReadBefore (h : List (Move api Store ι)) (i j : ι) : Prop :=
  ∃ h₁ v h₂, h = h₁ ++ v :: h₂ ∧ v.thread = j ∧ handsOver id v = true ∧
    ∃ r ∈ h₁, r.thread = i ∧ readsOwner id r = true

variable (calls : ι → TransferCall) (h : List (Move api Store ι))

/-- The records of the asset follow each other and, when no record is due, end with
its owner; and of two requests of one actor, each of which had read the owner when
the other changed it, not both succeed. -/
structure SpentOnce (c : Pool api Store ι Reply) : Prop where
  chain : (c.state.db.handovers id).IsChain fun a b => some b.1 = some a.2
  settled : waiting id h = [] → Handed (c.state.db.handovers id) (c.state.db.ownerOf id)
  once : ∀ i j, i ≠ j → (calls i).assetId = id → (calls j).assetId = id →
    (calls i).actor.actorId = (calls j).actor.actorId →
    ReadBefore id h i j → ReadBefore id h j i →
    ∀ reply reply', c.threads i = .done reply → c.threads j = .done reply' →
      ¬(reply.status = 200 ∧ reply'.status = 200)

/-- The owner does not change between a request's reading of it and its change, and
the records are written, in the order of the changes. -/
structure Orderly : Prop where
  current : ∀ h₁ v h₂, h = h₁ ++ v :: h₂ → handsOver id v = true →
    ∀ w ∈ sinceRead id v.thread h₁, handsOver id w = false
  recorded : ∀ h₁ v h₂, h = h₁ ++ v :: h₂ → insertsRecord v = true →
    (calls v.thread).assetId = id →
      writesTransfers v.event = true ∧ (waiting id h₁).head? = some v.thread

/-- What an orderly run asks of a move after the others. -/
def InOrder (past : List (Move api Store ι)) (v : Move api Store ι) : Prop :=
  (handsOver id v = true → ∀ w ∈ sinceRead id v.thread past, handsOver id w = false) ∧
    (insertsRecord v = true → (calls v.thread).assetId = id →
      writesTransfers v.event = true ∧ (waiting id past).head? = some v.thread)

instance (past : List (Move api Store ι)) (v : Move api Store ι) :
    Decidable (InOrder id calls past v) :=
  inferInstanceAs (Decidable (_ ∧ _))

end Histories

namespace TransferCall
variable {app : AppState} {call : TransferCall} {key owner : String} {stored : AssetRecord}
  {log : Log} {e : Event api}

/-- The owner of an asset changes at the update of a request for it. -/
theorem Steps.handsOver {id : String} {f : Custody → Custody} (h : call.Steps app log e.op)
    (hw : custodyWrite e = some (id, f)) :
    ∃ key owner stored, call.Cleared app key stored owner log ∧ e = call.updated stored (.ok ()) ∧
      call.assetId = id := by
  obtain ⟨op, r⟩ := e
  cases h with
  | authority h ht hop => cases hop.authorityCall [] <;> cases hw
  | update h =>
      cases r with
      | error e => cases hw
      | ok r =>
          cases hw
          exact ⟨_, _, _, h, rfl, rfl⟩
  | _ => cases hw

theorem Cleared.owner_mem (h : call.Cleared app key stored owner log) :
    (⟨.selectOwner call.assetId, .ok (some (some owner))⟩ : Event api) ∈ log := by
  obtain ⟨epoch, message, rest, rfl, -⟩ := h.read
  simp [checked, start]

/-- The owner is read once. -/
theorem Cleared.owner_eq (h : call.Cleared app key stored owner log) (he : e ∈ log)
    (hop : e.op = .selectOwner call.assetId) :
    e = ⟨.selectOwner call.assetId, .ok (some (some owner))⟩ := by
  obtain ⟨epoch, message, rest, rfl, -, hauthorized⟩ := h.read
  obtain he | he := List.mem_append.mp he
  · simp only [checked, start, List.cons_append, List.nil_append, List.mem_cons,
      List.not_mem_nil, or_false] at he
    obtain rfl | rfl | rfl := he
    · cases hop
    · rfl
    · cases hop
  · obtain ⟨before, hcall⟩ := hauthorized.authorityCall e he
    rw [hop] at hcall
    cases hcall

end TransferCall

theorem Db.ownerOf_custody {db : Db} {assetId : String} :
    db.ownerOf assetId = (db.custody assetId).bind (·.ownerId) := by
  rw [Db.ownerOf, Db.selectOwner, Db.custody]
  cases db.asset assetId <;> rfl

theorem pool_steps {ι : Type} (app : AppState) (calls : ι → TransferCall) (start : Store) (i : ι) :
    Meets ((calls i).Steps app) ((calls i).Outcome app) []
      ((TransferCall.pool app calls start).threads i) :=
  (calls i).transferHandler_steps app

section Runs
variable {ι : Type} [DecidableEq ι] {app : AppState} {calls : ι → TransferCall} {start : Store}
  {h h₁ h₂ : List (Move api Store ι)} {c : Pool api Store ι Reply} {v : Move api Store ι}
  {id : String} {i j : ι}

theorem waiting_snoc : waiting id (h ++ [v]) = waitingStep id (waiting id h) v := by
  rw [waiting, List.foldl_append]
  rfl

theorem Orderly.before (h' : Orderly id calls (h ++ h₂)) : Orderly id calls h := by
  constructor
  · intro l₁ v l₂ hh
    exact h'.current l₁ v (l₂ ++ h₂) (by rw [hh, List.append_assoc, List.cons_append])
  · intro l₁ v l₂ hh
    exact h'.recorded l₁ v (l₂ ++ h₂) (by rw [hh, List.append_assoc, List.cons_append])

/-- A request changes the owner of its asset, whom it had read. -/
theorem handsOver_read (run : Interleaves machine (TransferCall.pool app calls start) h c)
    (hh : h = h₁ ++ v :: h₂) (hv : handsOver id v = true) :
    ∃ stored l₁ r l₂, v.event = (calls v.thread).updated stored (.ok ()) ∧
      (calls v.thread).assetId = id ∧ h₁ = l₁ ++ r :: l₂ ∧
      sinceRead id v.thread h₁ = r :: l₂ ∧
      r.event = ⟨.selectOwner id, .ok (some (some (calls v.thread).actor.actorId))⟩ := by
  obtain ⟨f, hf⟩ := handsOver_iff.mp hv
  have hcall := run.calls (pool_steps app calls start) hh
  obtain ⟨key, owner, stored, hcleared, hevent, hid⟩ := hcall.handsOver hf
  obtain rfl := hcleared.owns.actor
  obtain ⟨r₀, hr₀, hthread₀, hevent₀⟩ := mem_eventsOf.mp hcleared.owner_mem
  obtain ⟨l₁, r, l₂, rfl, hr, hfirst⟩ := exists_first
    (p := fun r => r.thread = v.thread ∧ readsOwner id r = true) hr₀
    ⟨hthread₀, by rw [readsOwner_iff, hevent₀, hid]⟩
  have hmem : r.event ∈ eventsOf v.thread (l₁ ++ r :: l₂) :=
    mem_eventsOf.mpr ⟨r, List.mem_append_right _ (List.mem_cons_self ..), hr.1, rfl⟩
  have hread := hcleared.owner_eq hmem (by rw [hid]; exact readsOwner_iff.mp hr.2)
  refine ⟨stored, l₁, r, l₂, hevent, hid, rfl, ?_, by rw [hread, hid]⟩
  have hdropped : ∀ w ∈ l₁, (!(w.thread = v.thread && readsOwner id w)) = true := by
    intro w hw
    rw [Bool.not_eq_true', Bool.eq_false_iff]
    simpa using hfirst w hw
  rw [sinceRead, List.dropWhile_append_of_pos hdropped, List.dropWhile_cons_of_neg]
  simp [hr.1, hr.2]

/-- In an orderly run that owner is still the stored one. -/
theorem handsOver_current (run : Interleaves machine (TransferCall.pool app calls start) h c)
    (horderly : Orderly id calls h) (hh : h = h₁ ++ v :: h₂) (hv : handsOver id v = true) :
    ∃ custody, v.before.db.custody id = some custody ∧
      custody.ownerId = some (calls v.thread).actor.actorId := by
  obtain ⟨stored, l₁, r, l₂, -, -, rfl, hsince, hread⟩ := handsOver_read run hh hv
  have hstill := horderly.current _ v h₂ hh hv
  rw [hsince] at hstill
  rw [List.append_assoc, List.cons_append] at hh
  have hmem : ∀ w, w ∈ r :: l₂ → w ∈ h := by
    intro w hw
    rw [hh]
    obtain rfl | hw := List.mem_cons.mp hw <;> simp [*]
  obtain ⟨env, hexec⟩ := run.move (hmem r (List.mem_cons_self ..))
  rw [hread] at hexec
  have hexec : query env r.before (·.selectOwner id) =
      (.ok (some (some (calls v.thread).actor.actorId)), r.after) := hexec
  have hafter : r.before = r.after := (query_changes hexec).symm
  have howner : r.before.db.selectOwner id = some (some (calls v.thread).actor.actorId) :=
    query_ok (congrArg Prod.fst hexec)
  obtain ⟨custody, hcustody, hid⟩ := Db.custody_of_selectOwner howner
  refine ⟨custody, ?_, hid⟩
  have hbetween : v.before.db.custody id = r.after.db.custody id := by
    apply custodyView.get_between run hh
    intro w hw f hf
    have hnot := hstill w (List.mem_cons_of_mem _ hw)
    rw [handsOver_iff.mpr ⟨f, hf⟩] at hnot
    cases hnot
  rw [hbetween, ← hafter, hcustody]

/-- The records there are, with those that are due, tell where the asset is. -/
structure Ledgered (id : String) (calls : ι → TransferCall) (h : List (Move api Store ι))
    (db : Db) : Prop where
  handed : Handed (db.handovers id ++ (waiting id h).map fun i => (calls i).handover)
    (db.ownerOf id)
  due : ∀ i ∈ waiting id h, (calls i).assetId = id

/-- A move that changes no owner and writes no record of the asset. -/
theorem Ledgered.quiet {db : Db} (hl : Ledgered id calls h db) (hv : handsOver id v = false)
    (hi : insertsRecord v = true → (calls v.thread).assetId ≠ id) {db' : Db}
    (hchanges : Changes v.event db db') (hw : writesTransfers v.event = false) :
    Ledgered id calls (h ++ [v]) db' := by
  have hsame : waiting id (h ++ [v]) = waiting id h := by
    rw [waiting_snoc, waitingStep, hv]
    by_cases hinsert : insertsRecord v = true
    · have hnot : v.thread ∉ waiting id h := fun hmem => hi hinsert (hl.due _ hmem)
      rw [hinsert]
      exact List.erase_of_not_mem hnot
    · rw [if_neg Bool.false_ne_true, if_neg hinsert]
  have hrecords : db'.handovers id = db.handovers id := by
    rw [Db.handovers, Db.transfersOf, hchanges.transfers_eq hw]
    rfl
  have howner : db'.ownerOf id = db.ownerOf id := by
    rw [Db.ownerOf_custody, Db.ownerOf_custody, hchanges.custody id]
    unfold handsOver at hv
    cases hwrite : custodyWrite v.event with
    | none => rfl
    | some w =>
        obtain ⟨key, f⟩ := w
        rw [hwrite] at hv
        rw [written, if_neg (by simpa using hv)]
  constructor
  · rw [hsame, hrecords, howner]
    exact hl.handed
  · rw [hsame]
    exact hl.due

/-- A change of the owner puts its record on the list. -/
theorem Ledgered.update {db : Db} (hl : Ledgered id calls h db) {stored : AssetRecord}
    (hevent : v.event = (calls v.thread).updated stored (.ok ()))
    (hid : (calls v.thread).assetId = id) {custody : Custody}
    (hcustody : db.custody id = some custody)
    (howner : custody.ownerId = some (calls v.thread).actor.actorId) {db' : Db}
    (hchanges : Changes v.event db db') : Ledgered id calls (h ++ [v]) db' := by
  have hv : handsOver id v = true := by
    rw [handsOver_iff, hevent, ← hid]
    exact ⟨_, rfl⟩
  have hmore : waiting id (h ++ [v]) = waiting id h ++ [v.thread] := by
    rw [waiting_snoc, waitingStep, if_pos hv]
  have hrecords : db'.handovers id = db.handovers id := by
    rw [Db.handovers, Db.transfersOf, hchanges.transfers_eq (by rw [hevent]; rfl)]
    rfl
  have hnew : db'.ownerOf id = some (calls v.thread).payload.newOwnerId := by
    rw [Db.ownerOf_custody, hchanges.custody id, hevent, hcustody, ← hid]
    show (written (some ((calls v.thread).assetId, _)) (calls v.thread).assetId (some custody)).bind
      _ = _
    rw [written, if_pos rfl]
    rfl
  have hold : db.ownerOf id = some (calls v.thread).actor.actorId := by
    rw [Db.ownerOf_custody, hcustody]
    exact howner
  constructor
  · rw [hmore, hrecords, hnew, List.map_append, ← List.append_assoc]
    exact hl.handed.snoc hold.symm
  · rw [hmore]
    intro i hi
    obtain hi | hi := List.mem_append.mp hi
    · exact hl.due i hi
    · obtain rfl := List.mem_singleton.mp hi
      exact hid

/-- A record that is written first among those due moves from the list to the table. -/
theorem Ledgered.record {db : Db} (hl : Ledgered id calls h db) {key : String} {answer : Uuid}
    (hevent : v.event =
      (calls v.thread).recorded key (calls v.thread).actor.actorId (.ok answer))
    (hfirst : (calls v.thread).assetId = id → (waiting id h).head? = some v.thread) {db' : Db}
    (hchanges : Changes v.event db db') : Ledgered id calls (h ++ [v]) db' := by
  have hv : handsOver id v = false := by
    unfold handsOver
    rw [hevent]
    rfl
  have hi : insertsRecord v = true := by
    unfold insertsRecord
    rw [hevent]
    rfl
  have hless : waiting id (h ++ [v]) = (waiting id h).erase v.thread := by
    rw [waiting_snoc, waitingStep, hv, hi]
    rfl
  have howner : db'.ownerOf id = db.ownerOf id := by
    rw [Db.ownerOf_custody, Db.ownerOf_custody, hchanges.custody id, hevent]
    rfl
  rw [hevent] at hchanges
  obtain ⟨uuid, transfers, -, hinsert, rfl⟩ := hchanges.transfers_insert
  have hrecords := transfersOf_insert hinsert id
  have hasset : ((calls v.thread).row key (calls v.thread).actor.actorId uuid).assetId =
    (calls v.thread).assetId := rfl
  rw [hasset] at hrecords
  by_cases hid : (calls v.thread).assetId = id
  · obtain ⟨rest, hwaiting⟩ := List.head?_eq_some_iff.mp (hfirst hid)
    have hhanded := hl.handed
    rw [hwaiting, List.map_cons, List.append_cons] at hhanded
    rw [hwaiting, List.erase_cons_head] at hless
    rw [if_pos hid] at hrecords
    constructor
    · rw [hless, howner, Db.handovers, hrecords, List.map_append]
      exact hhanded
    · rw [hless]
      intro i hi
      exact hl.due i (by rw [hwaiting]; exact List.mem_cons_of_mem _ hi)
  · have hnot : v.thread ∉ waiting id h := fun hmem => hid (hl.due _ hmem)
    rw [List.erase_of_not_mem hnot] at hless
    rw [if_neg hid] at hrecords
    constructor
    · rw [hless, howner, Db.handovers, hrecords]
      exact hl.handed
    · rw [hless]
      exact hl.due

theorem ledgered (run : Interleaves machine (TransferCall.pool app calls start) h c)
    (hstart : Handed (start.db.handovers id) (start.db.ownerOf id))
    (horderly : Orderly id calls h) : Ledgered id calls h c.state.db := by
  induction run with
  | start =>
      constructor
      · rw [waiting, List.foldl_nil, List.map_nil, List.append_nil]
        exact hstart
      · exact nofun
  | @step h c run i op next hi env ih =>
      have hl := ih horderly.before
      have hrun := run.step i hi env
      have hcall : (calls i).Steps app (eventsOf i h) op := by
        have hmeets := run.meets (pool_steps app calls start) i
        rw [hi] at hmeets
        exact hmeets.1
      have hchanges := machine_changes env op c.state
      generalize (machine.exec env op c.state).1 = r at *
      generalize (machine.exec env op c.state).2 = s' at *
      generalize eventsOf i h = log at hcall
      cases hcall with
      | fetch | owner | epoch | event => exact hl.quiet rfl (fun hinsert => by cases hinsert) hchanges rfl
      | authority _ _ hop =>
          cases hop.authorityCall [] <;> exact hl.quiet rfl (fun hinsert => by cases hinsert) hchanges rfl
      | @update key owner stored _ hcleared =>
          cases r with
          | error e => exact hl.quiet rfl (fun hinsert => by cases hinsert) hchanges rfl
          | ok r =>
              by_cases hid : (calls i).assetId = id
              · subst hid
                obtain ⟨custody, hcustody, howner⟩ :=
                  handsOver_current hrun horderly rfl (handsOver_iff.mpr ⟨_, rfl⟩)
                exact hl.update rfl rfl hcustody howner hchanges
              · refine hl.quiet ?_ (fun hinsert => by cases hinsert) hchanges rfl
                exact decide_eq_false hid
      | @record key owner stored log hcleared =>
          obtain rfl := hcleared.owns.actor
          cases r with
          | ok answer =>
              refine hl.record rfl (fun hid => ?_) hchanges
              exact (horderly.recorded h _ [] rfl rfl hid).2
          | error e =>
              refine hl.quiet rfl (fun _ hid => ?_) hchanges rfl
              cases (horderly.recorded h _ [] rfl rfl hid).1

/-- The owner a request has read does not change before its own change. -/
theorem not_read_before (horderly : Orderly id calls h) (hh : h = h₁ ++ v :: h₂)
    (hv : handsOver id v = true) {w r : Move api Store ι} {l₁ l₂ : List (Move api Store ι)}
    (hw : h₁ = l₁ ++ w :: l₂) (hhands : handsOver id w = true) (hr : r ∈ l₁)
    (hthread : r.thread = v.thread) (hread : readsOwner id r = true) : False := by
  have hmem : w ∈ sinceRead id v.thread h₁ := by
    rw [sinceRead, hw, List.dropWhile_append, if_neg]
    · exact List.mem_append_right _ (List.mem_cons_self ..)
    · rw [List.isEmpty_iff, List.dropWhile_eq_nil_iff]
      intro hall
      have := hall r hr
      simp [hthread, hread] at this
  have hnot := horderly.current h₁ v h₂ hh hv w hmem
  rw [hhands] at hnot
  cases hnot

/-- Of two changes the later one is by a request that has read the owner after the
earlier one. -/
theorem not_racing (horderly : Orderly id calls h) (hne : i ≠ j) (hij : ReadBefore id h i j)
    (hji : ReadBefore id h j i) : False := by
  obtain ⟨h₁, v, h₂, hh, hv, hhands, r, hr, hri, hread⟩ := hij
  obtain ⟨g₁, w, g₂, hg, hw, hhands', r', hr', hrj, hread'⟩ := hji
  have hvw : v ≠ w := by
    intro heq
    exact hne (hw.symm.trans ((congrArg Move.thread heq).symm.trans hv))
  obtain ⟨m, -, hm⟩ | ⟨m, -, hm⟩ := split_splits (hh.symm.trans hg) hvw
  · exact not_read_before horderly hg hhands' hm hhands hr (hri.trans hw.symm) hread
  · exact not_read_before horderly hh hhands hm hhands' hr' (hrj.trans hv.symm) hread'

theorem orderly_iff : Orderly id calls h ↔ Follows (InOrder id calls) [] h := by
  rw [follows_iff]
  constructor
  · intro horderly h₁ v h₂ hh
    exact ⟨horderly.current h₁ v h₂ hh, horderly.recorded h₁ v h₂ hh⟩
  · intro hall
    exact ⟨fun h₁ v h₂ hh => (hall h₁ v h₂ hh).1, fun h₁ v h₂ hh => (hall h₁ v h₂ hh).2⟩

/-- In an orderly run of any number of transfers the records are a ledger of the
owner, and no owner spends the asset twice. -/
theorem orderly_spentOnce (run : Interleaves machine (TransferCall.pool app calls start) h c)
    (hstart : Handed (start.db.handovers id) (start.db.ownerOf id))
    (horderly : Orderly id calls h) : SpentOnce id calls h c := by
  have hl := ledgered run hstart horderly
  constructor
  · exact (List.isChain_append.mp hl.handed.chain).1
  · intro hnone
    have hhanded := hl.handed
    rwa [hnone, List.map_nil, List.append_nil] at hhanded
  · intro i j hne _ _ _ hij hji _ _ _ _ _
    exact not_racing horderly hne hij hji

end Runs

section Sample

/-- The owner's transfer to a friend, and another one by this actor to this person. -/
def transfersBy (actorId newOwnerId : String) : Bool → TransferCall
  | false => ownTagTransfer
  | true =>
      { ownTagTransfer with
        actor := { ownTagTransfer.actor with actorId := actorId }
        payload := { ownTagTransfer.payload with newOwnerId := newOwnerId }
        draws := { eventId := .repeated 5 } }

/-- The turns of the two; the record of the n-th turn has its number as its id. -/
def transfersRun (actorId newOwnerId : String) (turns : List Bool) :
    List (Move api Store Bool) × Pool api Store Bool Reply :=
  (TransferCall.pool transferApp (transfersBy actorId newOwnerId) soldPairStore).schedule machine
    (turns.zipIdx.map fun (i, n) => (i, { uuid := .repeated n }))

theorem transfersRun_interleaves (actorId newOwnerId : String) (turns : List Bool) :
    Interleaves machine (TransferCall.pool transferApp (transfersBy actorId newOwnerId) soldPairStore)
      (transfersRun actorId newOwnerId turns).1 (transfersRun actorId newOwnerId turns).2 :=
  schedule_interleaves ..

/-- The friend reads the owner once it is them, and both records follow. -/
def passedOnTurns : List Bool :=
  [false, false, false, false, false, true, true, true, true, false, true, false, true, true]

theorem orderly_spentOnce_passed_on :
    ((transfersRun "friend" "third" passedOnTurns).2.state.db.handovers "a" =
        [("owner", "friend"), ("friend", "third")]) ∧
      SpentOnce "a" (transfersBy "friend" "third") (transfersRun "friend" "third" passedOnTurns).1
        (transfersRun "friend" "third" passedOnTurns).2 := by
  refine ⟨by decide +kernel, ?_⟩
  have run := transfersRun_interleaves "friend" "third" passedOnTurns
  exact orderly_spentOnce run tracks_nil (orderly_iff.mpr (by decide +kernel))

/-- Two transfers by the owner have both read the owner before either changes it,
and both are recorded. -/
theorem owner_spends_twice :
    ¬∀ (ι : Type) (_ : DecidableEq ι) (app : AppState) (calls : ι → TransferCall) (start : Store)
      (h : List (Move api Store ι)) (c : Pool api Store ι Reply) (id : String),
      Interleaves machine (TransferCall.pool app calls start) h c →
        Handed (start.db.handovers id) (start.db.ownerOf id) → SpentOnce id calls h c := by
  intro hall
  have hspent := hall Bool _ _ _ _ _ _ "a" (transfersRun_interleaves "owner" "third"
    [true, true, false, false, false, false, false, false, false, true, true, true, true, true])
    tracks_nil
  have hchain := hspent.chain
  have hrecords : (transfersRun "owner" "third" [true, true, false, false, false, false, false,
      false, false, true, true, true, true, true]).2.state.db.handovers "a" =
        [("owner", "friend"), ("owner", "third")] := by decide +kernel
  rw [hrecords] at hchain
  exact absurd hchain (by decide)

end Sample

end RcProtocol
