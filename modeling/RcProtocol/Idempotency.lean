import RcProtocol.Api.WriteSpec
import RcProtocol.Ownership

/-!
Requests under one idempotency key. The key is looked up before the asset is read
and stored with the transaction, the first one staying; a request is answered with
the stored response exactly as far as its lookup comes after that transaction.
-/

namespace RcProtocol
open Library

/-- The record an event offers under a key. -/
def recordWrite : Event api → Option (String × IdempotencyRecord)
  | ⟨.persistAction w, .ok _⟩ =>
      some (w.auditEvent.context.idempotencyKey, ⟨w.requestHash, w.responseSnapshot⟩)
  | _ => none

theorem recordWrite_eq {e : Event api} {key : String} {record : IdempotencyRecord}
    (h : recordWrite e = some (key, record)) :
    ∃ w, e = ⟨.persistAction w, .ok ()⟩ ∧ w.auditEvent.context.idempotencyKey = key ∧
      record = ⟨w.requestHash, w.responseSnapshot⟩ := by
  obtain ⟨op, r⟩ := e
  cases op <;> first | cases h | skip
  cases r with
  | error e => cases h
  | ok a =>
      cases h
      exact ⟨_, rfl, rfl, rfl⟩

/-- The record of a key stays the first that was offered. -/
theorem Changes.record {e : Event api} {db db' : Db} (h : Changes e db db') (key : String) :
    db'.selectIdempotencyRecord key =
      (db.selectIdempotencyRecord key).or
        ((recordWrite e).bind fun w => if w.1 = key then some w.2 else none) := by
  cases h with
  | read hw =>
      have hnone : recordWrite e = none := by
        obtain ⟨op, r⟩ := e
        cases op <;> first | rfl | (cases r <;> first | rfl | cases hw)
      rw [hnone, Option.bind_none, Option.or_none]
  | @persistAction w =>
      show (((db.idempotency.insert w.idempotencyRow).getD db.idempotency).find
        (·.idempotencyKey = key)).map _ = _
      cases hi : db.idempotency.insert w.idempotencyRow with
      | some table =>
          rw [Option.getD_some, Table.find_insert hi, Option.map_or, apply_ite (Option.map _)]
          simp only [Db.selectIdempotencyRecord, recordWrite, Option.bind_some]
          by_cases hkey : w.auditEvent.context.idempotencyKey = key
          · simp [PersistAction.idempotencyRow, hkey]
          · simp [PersistAction.idempotencyRow, hkey]
      | none =>
          obtain ⟨r, hr, hclash⟩ := Table.insert_eq_none.mp hi
          have hkey : r.idempotencyKey = w.auditEvent.context.idempotencyKey :=
            congrArg Prod.fst hclash
          rw [Option.getD_none]
          simp only [Db.selectIdempotencyRecord, recordWrite, Option.bind_some]
          split
          · next heq =>
            cases hf : db.idempotency.find (·.idempotencyKey = key) with
            | some r' => rfl
            | none =>
                have hfalse := Table.find_eq_none.mp hf r hr
                simp [hkey, heq] at hfalse
          · rw [Option.or_none]
  | _ => exact (Option.or_none).symm

/-- The write requests, before any of them has run. -/
def WriteRequest.pool {ι : Type} (app : AppState) (requests : ι → WriteRequest) (start : Store) :
    Pool api Store ι Reply :=
  ⟨start, fun i => (requests i).handle app⟩

/-- The request carries the key, among the headers every write must have. -/
def WriteRequest.Carries (q : WriteRequest) (key : String) : Prop :=
  ∃ required, parseRequiredHeaders q.headers = .ok required ∧ required.idempotencyKey = key

section Histories
variable {ι : Type} (requests : ι → WriteRequest) (key : String) (h : List (Move api Store ι))

/-- The move is a transaction under the key, which offers a record. -/
def RecordedBy (v : Move api Store ι) : Prop :=
  ∃ record, recordWrite v.event = some (key, record)

structure ExactlyOnce (finish : Pool api Store ι Reply) : Prop where
  once : ∀ h₁ v h₂ w h₃, h = h₁ ++ v :: (h₂ ++ w :: h₃) → RecordedBy key v → ¬RecordedBy key w
  answered : ∀ v ∈ h, ∀ record, recordWrite v.event = some (key, record) →
    ∀ j required reply, j ≠ v.thread → parseRequiredHeaders (requests j).headers = .ok required →
      required.idempotencyKey = key → finish.threads j = .done reply →
      reply =
        if record.requestHash ≠ (requests j).requestHash required then
          protocolErrorResponse .idempotencyConflict
        else .ok (.json record.responseSnapshot)

/-- Nobody but the request that commits first looks the key up before it has; every
request under the key has a body its handler takes, and no lookup fails. -/
structure LookedUpAfter : Prop where
  after : ∀ h₁ v h₂, h = h₁ ++ v :: h₂ → RecordedBy key v → (∀ u ∈ h₁, ¬RecordedBy key u) →
    ∀ u ∈ h₁, u.event.op = .selectIdempotencyRecord key → u.thread = v.thread
  valid : ∀ i, (requests i).Carries key → (requests i).Valid
  found : ∀ v ∈ h, ∀ e, v.event ≠ ⟨.selectIdempotencyRecord key, .error e⟩

end Histories

section Runs
variable {ι : Type} [DecidableEq ι] {app : AppState} {requests : ι → WriteRequest}
  {start : Store} {key : String} {h h₁ h₂ h₃ : List (Move api Store ι)}
  {finish : Pool api Store ι Reply} {u v w : Move api Store ι} {record : IdempotencyRecord}

theorem move_changes (run : Interleaves machine (WriteRequest.pool app requests start) h finish)
    (hv : v ∈ h) : Changes v.event v.before.db v.after.db := by
  obtain ⟨env, hexec⟩ := run.move hv
  exact exec_changes hexec

/-- The record under the key in the state a lookup was made in. -/
theorem lookup_found (run : Interleaves machine (WriteRequest.pool app requests start) h finish)
    (hv : v ∈ h) {found : Option IdempotencyRecord}
    (he : v.event = ⟨.selectIdempotencyRecord key, .ok found⟩) :
    v.before.db.selectIdempotencyRecord key = found := by
  obtain ⟨env, hexec⟩ := run.move hv
  rw [he] at hexec
  exact query_ok (congrArg Prod.fst hexec)

/-- A record stays. -/
theorem record_stays (run : Interleaves machine (WriteRequest.pool app requests start) h finish)
    (hv : v ∈ h) (hrecord : v.before.db.selectIdempotencyRecord key = some record) :
    v.after.db.selectIdempotencyRecord key = some record := by
  rw [(move_changes run hv).record, hrecord, Option.some_or]

theorem record_none (run : Interleaves machine (WriteRequest.pool app requests start) h finish)
    (hv : v ∈ h) (hquiet : ¬RecordedBy key v)
    (hnone : v.before.db.selectIdempotencyRecord key = none) :
    v.after.db.selectIdempotencyRecord key = none := by
  rw [(move_changes run hv).record, hnone, Option.none_or]
  cases hw : recordWrite v.event with
  | none => rfl
  | some offered =>
      obtain ⟨key', record⟩ := offered
      rw [Option.bind_some, if_neg]
      rintro rfl
      exact hquiet ⟨record, hw⟩

/-- A request commits after a lookup that found nothing, and only once. -/
theorem recorded_lookup
    (run : Interleaves machine (WriteRequest.pool app requests start) h finish)
    (hh : h = h₁ ++ v :: h₂) (hv : recordWrite v.event = some (key, record)) :
    (∃ u ∈ h₁, u.thread = v.thread ∧
        u.event = ⟨.selectIdempotencyRecord key, .ok none⟩) ∧
      ∀ u ∈ h₁, u.thread = v.thread → ¬RecordedBy key u := by
  obtain ⟨w, hevent, hkey, -⟩ := recordWrite_eq hv
  have hcall := run.calls (fun i => (requests i).handle_meets app) hh
  rw [hevent] at hcall
  obtain ⟨required, stored, rest, hlog, hw, hrest⟩ := hcall.persist_inv
  have hsame : required.idempotencyKey = key := by
    rw [← hkey, hw.applied.event_eq]
    rfl
  constructor
  · have hlookup : (⟨.selectIdempotencyRecord key, .ok none⟩ : Event api) ∈
        eventsOf v.thread h₁ := by
      rw [hlog, WriteRequest.start, hsame]
      exact List.mem_cons_self ..
    exact mem_eventsOf.mp hlookup
  · rintro u hu hthread ⟨record', hu'⟩
    obtain ⟨w', hevent', -, -⟩ := recordWrite_eq hu'
    have hmem : u.event ∈ eventsOf v.thread h₁ := mem_eventsOf.mpr ⟨u, hu, hthread, rfl⟩
    rw [hlog, hevent'] at hmem
    obtain hstart | hrest' := List.mem_append.mp hmem
    · simp [WriteRequest.start] at hstart
    · exact hrest (View.wrote_of_mem hrest' rfl)

/-- From the first transaction under the key on, its record is the one stored. -/
theorem first_recorded
    (run : Interleaves machine (WriteRequest.pool app requests start) h finish)
    (hh : h = h₁ ++ v :: (h₂ ++ u :: h₃)) (hv : recordWrite v.event = some (key, record))
    (hfirst : ∀ u ∈ h₁, ¬RecordedBy key u) :
    u.before.db.selectIdempotencyRecord key = some record := by
  have hmem : ∀ m ∈ h₁, m ∈ h := fun m hm => hh ▸ List.mem_append_left _ hm
  have hmem' : ∀ m ∈ v :: (h₂ ++ u :: h₃), m ∈ h := fun m hm => hh ▸ List.mem_append_right _ hm
  have hbefore : v.before.db.selectIdempotencyRecord key = none := by
    obtain ⟨⟨l, hl, -, hlookup⟩, -⟩ := recorded_lookup run hh hv
    obtain ⟨h₀, hbetween, rfl⟩ := List.append_of_mem hl
    have hnone := record_none run (hmem l hl) (hfirst l hl) (lookup_found run (hmem l hl) hlookup)
    rw [List.append_assoc, List.cons_append] at hh
    refine run.keeps_between (I := fun s => s.db.selectIdempotencyRecord key = none) hh hnone ?_
    intro m hm
    have hm := List.mem_append_right h₀ (List.mem_cons_of_mem l hm)
    exact record_none run (hmem m hm) (hfirst m hm)
  have hafter : v.after.db.selectIdempotencyRecord key = some record := by
    rw [(move_changes run (hmem' v (List.mem_cons_self ..))).record, hbefore, hv,
      Option.none_or, Option.bind_some, if_pos rfl]
  refine run.keeps_between (I := fun s => s.db.selectIdempotencyRecord key = some record) hh
    hafter ?_
  intro m hm
  exact record_stays run (hmem' m (by simp [hm]))

/-- A lookup by another request comes after the first transaction, and finds its
record. -/
theorem lookup_recorded
    (run : Interleaves machine (WriteRequest.pool app requests start) h finish)
    (hl : LookedUpAfter requests key h) (hh : h = h₁ ++ v :: h₂)
    (hv : recordWrite v.event = some (key, record)) (hfirst : ∀ u ∈ h₁, ¬RecordedBy key u)
    (hu : u ∈ h) (hthread : u.thread ≠ v.thread) {found : Option IdempotencyRecord}
    (he : u.event = ⟨.selectIdempotencyRecord key, .ok found⟩) : found = some record := by
  rw [← lookup_found run hu he]
  rw [hh] at hu
  obtain hu | hu := List.mem_append.mp hu
  · refine absurd (hl.after h₁ v h₂ hh ⟨record, hv⟩ hfirst u hu ?_) hthread
    rw [he]
  · obtain rfl | hu := List.mem_cons.mp hu
    · exact absurd rfl hthread
    · obtain ⟨h₂, h₃, rfl⟩ := List.append_of_mem hu
      exact first_recorded run hh hv hfirst

/-- After the first transaction under the key there is no other. -/
theorem first_only (run : Interleaves machine (WriteRequest.pool app requests start) h finish)
    (hl : LookedUpAfter requests key h) (hh : h = h₁ ++ v :: (h₂ ++ w :: h₃))
    (hv : RecordedBy key v) (hfirst : ∀ u ∈ h₁, ¬RecordedBy key u) : ¬RecordedBy key w := by
  rintro ⟨record', hw⟩
  obtain ⟨record, hv⟩ := hv
  have hh' := hh
  rw [← List.cons_append, ← List.append_assoc] at hh'
  obtain ⟨⟨u, hu, hthread, hlookup⟩, honce⟩ := recorded_lookup run hh' hw
  have hother : v.thread ≠ w.thread := fun hvw =>
    honce v (List.mem_append_right _ (List.mem_cons_self ..)) hvw ⟨record, hv⟩
  have hmem : u ∈ h := hh' ▸ List.mem_append_left _ hu
  cases lookup_recorded run hl hh hv hfirst hmem (hthread ▸ hother.symm) hlookup

theorem recorded_once (run : Interleaves machine (WriteRequest.pool app requests start) h finish)
    (hl : LookedUpAfter requests key h) (hh : h = h₁ ++ v :: (h₂ ++ w :: h₃))
    (hv : RecordedBy key v) : ¬RecordedBy key w := by
  by_cases hfirst : ∀ u ∈ h₁, ¬RecordedBy key u
  · exact first_only run hl hh hv hfirst
  · push Not at hfirst
    obtain ⟨u, hu, hrecorded⟩ := hfirst
    obtain ⟨l₁, u, l₂, rfl, hu, hbefore⟩ := exists_first hu hrecorded
    rw [List.append_assoc, List.cons_append] at hh
    exact absurd hv (first_only run hl hh hu hbefore)

/-- In every interleaving in which the key is looked up after its first transaction,
that transaction is the only one, and the others are answered from its record. -/
theorem looked_up_exactly_once
    (run : Interleaves machine (WriteRequest.pool app requests start) h finish)
    (hl : LookedUpAfter requests key h) : ExactlyOnce requests key h finish := by
  refine ⟨fun h₁ v h₂ w h₃ hh hv => recorded_once run hl hh hv, ?_⟩
  intro v hv record hrecord j required reply hj hheaders hkey hdone
  obtain ⟨h₁, h₂, hh⟩ := List.append_of_mem hv
  have hfirst : ∀ u ∈ h₁, ¬RecordedBy key u := by
    intro u hu hrecorded
    obtain ⟨l₁, l₂, rfl⟩ := List.append_of_mem hu
    rw [List.append_assoc, List.cons_append] at hh
    exact recorded_once run hl hh hrecorded ⟨record, hrecord⟩
  have hanswer := run.answers (fun i => (requests i).handle_meets app) hdone
  have hlookup : ∀ found, (⟨.selectIdempotencyRecord key, .ok found⟩ : Event api) ∈ eventsOf j h →
      found = some record := by
    intro found hmem
    obtain ⟨u, hu, rfl, he⟩ := mem_eventsOf.mp hmem
    exact lookup_recorded run hl hh hrecord hfirst hu hj he
  have hfound : ∀ e, (⟨.selectIdempotencyRecord key, .error e⟩ : Event api) ∉ eventsOf j h := by
    intro e hmem
    obtain ⟨u, hu, -, he⟩ := mem_eventsOf.mp hmem
    exact hl.found u hu e he
  have hvalid := hl.valid j ⟨required, hheaders, hkey⟩
  have hrequired : ∀ required', parseRequiredHeaders (requests j).headers = .ok required' →
      required' = required := by
    intro required' h
    exact Except.ok.inj (h.symm.trans hheaders)
  generalize eventsOf j h = log at hanswer hlookup hfound
  cases hanswer with
  | unasked _ hrefused =>
      obtain hinvalid | ⟨e, he⟩ := hrefused
      · exact absurd hvalid hinvalid
      · cases he.symm.trans hheaders
  | @lookupFailed required' e hrequired' =>
      obtain rfl := hrequired required' hrequired'
      subst hkey
      exact absurd (List.mem_singleton_self _) (hfound e)
  | @known required' record' hrequired' =>
      obtain rfl := hrequired required' hrequired'
      subst hkey
      obtain rfl := Option.some.inj (hlookup (some record') (List.mem_singleton_self _))
      rfl
  | @fresh required' rest _ hrequired' =>
      obtain rfl := hrequired required' hrequired'
      subst hkey
      cases hlookup none (List.mem_cons_self ..)

end Runs

section Sample

/-- One purchase is consumed by its owner, and the request is sent again. -/
def consumeCalls (again : Bool) : ActionCall where
  assetId := "a"
  action := .consume
  actor := { actorId := "owner", actorRole := .consumer }
  headers := .ofList
    [("X-Trace-Id", "11111111-1111-1111-1111-111111111111"), ("X-Idempotency-Key", "k")]
  payload := {}
  draws := { eventId := .repeated (if again then 2 else 1) }

theorem consumeCalls_carries (again : Bool) : (WriteRequest.action (consumeCalls again)).Carries "k" := by
  cases again <;> exact ⟨_, rfl, rfl⟩

theorem consumeCalls_valid (again : Bool) : (WriteRequest.action (consumeCalls again)).Valid := by
  rintro ⟨hsell, -⟩
  cases hsell

def consumesRun (turns : List Bool) : List (Move api Store Bool) × Pool api Store Bool Reply :=
  (WriteRequest.pool default (fun i => .action (consumeCalls i)) ownedStore).schedule machine
    (turns.map fun i => (i, {}))

theorem consumesRun_interleaves (turns : List Bool) :
    Interleaves machine (WriteRequest.pool default (fun i => .action (consumeCalls i)) ownedStore)
      (consumesRun turns).1 (consumesRun turns).2 :=
  schedule_interleaves ..

def lookupFailed : Event api → Bool
  | ⟨.selectIdempotencyRecord _, .error _⟩ => true
  | _ => false

/-- The second request comes when the first has committed. -/
theorem looked_up_exactly_once_consumed :
    (consumesRun [false, false, false, true]).1.map (fun v => (recordWrite v.event).isSome) =
        [false, false, true, false] ∧
      ExactlyOnce (fun i => .action (consumeCalls i)) "k" (consumesRun [false, false, false, true]).1
        (consumesRun [false, false, false, true]).2 := by
  have run := consumesRun_interleaves [false, false, false, true]
  refine ⟨by decide, looked_up_exactly_once run ⟨?_, fun i _ => consumeCalls_valid i, ?_⟩⟩
  · intro h₁ v h₂ hh hv _ u hu _
    have hthreads : (consumesRun [false, false, false, true]).1.Pairwise fun u v =>
        (recordWrite v.event).isSome = true → u.thread = v.thread := by decide
    rw [hh] at hthreads
    obtain ⟨record, hv⟩ := hv
    exact (List.pairwise_append.mp hthreads).2.2 u hu v (List.mem_cons_self ..) (by rw [hv]; rfl)
  · intro v hv e he
    have hfound : ∀ v ∈ (consumesRun [false, false, false, true]).1,
        lookupFailed v.event = false := by decide
    have hfound := hfound v hv
    rw [he] at hfound
    cases hfound

/-- Both requests look the key up before either commits. -/
theorem consumed_twice :
    ¬∀ (ι : Type) (_ : DecidableEq ι) (app : AppState) (calls : ι → ActionCall) (start : Store)
      (key : String) (h : List (Move api Store ι)) (finish : Pool api Store ι Reply),
      (∀ i, (WriteRequest.action (calls i)).Carries key) →
        (∀ i, (WriteRequest.action (calls i)).Valid) →
          Interleaves machine (WriteRequest.pool app (fun i => .action (calls i)) start) h finish →
            ExactlyOnce (fun i => .action (calls i)) key h finish := by
  intro hall
  have hsafe := hall Bool _ default consumeCalls ownedStore "k" _ _ consumeCalls_carries
    consumeCalls_valid (consumesRun_interleaves [false, true, false, true, false, true])
  exact hsafe.once ((consumesRun [false, true, false, true, false, true]).1.take 4) _ [] _ [] rfl
    ⟨_, rfl⟩ ⟨_, rfl⟩

end Sample

end RcProtocol
