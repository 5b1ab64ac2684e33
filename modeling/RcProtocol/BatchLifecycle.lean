import RcProtocol.Api.BatchRoutes

/-!
Batches under any number of requests at once. A batch is created by a role of its brand, stays as
it was created, and is closed once, by a role of its brand; whoever was shown it finds it again.
-/

namespace RcProtocol.BatchRoutes
open Library

def row (batchId : String) (db : Table Batch) : Option Batch := db.find (·.batchId = batchId)

/-- What becomes of a batch: it stays as it is, or it is closed. -/
def Advances (b b' : Batch) : Prop := b' = b ∨ b.status = "Open" ∧ ∃ now, b' = close now b

/-- What one step of a request may make of the row under an id. -/
inductive Change (r : Request) (batchId : String) : Option Batch → Option Batch → Prop
  | kept (o : Option Batch) : Change r batchId o o
  | created {actor : ActorContext} {payload : CreateBatchRequest} (hr : r = .create actor payload)
      (hallowed : checkBrandRole createRoles actor payload.brandId = .ok ()) (now : String) :
      Change r batchId none (some (payload.row batchId now))
  | closed {actor : ActorContext} {b : Batch} (hr : r = .close actor batchId)
      (hallowed : checkBrandRole closeRoles actor b.brandId = .ok ()) (hopen : b.status = "Open")
      (now : String) : Change r batchId (some b) (some (close now b))

/-- The statement of the event has not answered. -/
inductive Failed : Event interface → Prop
  | create (batchId : String) (req : CreateBatchRequest) (e : String) :
      Failed ⟨.createBatch batchId req, .error e⟩
  | fetch (batchId e : String) : Failed ⟨.fetchBatch batchId, .error e⟩
  | close (batchId e : String) : Failed ⟨.closeBatch batchId, .error e⟩

section Rows
variable {batchId other : String} {b b' b'' : Batch} {db db' : Table Batch} {env : Env}
  {req : CreateBatchRequest}

theorem Advances.refl (b : Batch) : Advances b b := .inl rfl

theorem Advances.closed (h : Advances b b') (hclosed : b.status ≠ "Open") : b' = b := by
  cases h with
  | inl hsame => exact hsame
  | inr hopen => exact absurd hopen.1 hclosed

theorem Advances.trans (h : Advances b b') (h' : Advances b' b'') : Advances b b'' := by
  cases h with
  | inl hsame => exact hsame ▸ h'
  | inr hclose =>
      have hclosed : b'.status ≠ "Open" := by
        obtain ⟨-, now, hb⟩ := hclose
        rw [hb]
        exact (by decide : "Closed" ≠ "Open")
      rw [h'.closed hclosed]
      exact .inr hclose

theorem Advances.same (h : Advances b b') : b'.batchId = b.batchId ∧ b'.brandId = b.brandId := by
  cases h with
  | inl hsame => exact hsame ▸ ⟨rfl, rfl⟩
  | inr hclose =>
      obtain ⟨-, now, hb⟩ := hclose
      exact hb ▸ ⟨rfl, rfl⟩

/-- Every row that was there is there, as it was or closed. -/
def Keeps (db db' : Table Batch) : Prop :=
  ∀ batchId b, row batchId db = some b → ∃ b', row batchId db' = some b' ∧ Advances b b'

theorem Keeps.refl (db : Table Batch) : Keeps db db := fun _ b hb => ⟨b, hb, .refl b⟩

theorem Keeps.trans {db'' : Table Batch} (h : Keeps db db') (h' : Keeps db' db'') :
    Keeps db db'' := by
  intro batchId b hb
  obtain ⟨b', hb', hfirst⟩ := h batchId b hb
  obtain ⟨b'', hb'', hsecond⟩ := h' batchId b' hb'
  exact ⟨b'', hb'', hfirst.trans hsecond⟩

theorem row_batchId (h : row batchId db = some b) : b.batchId = batchId := by
  have hmatches := Table.prop_of_find h
  simpa using hmatches

theorem row_insert (h : db.insert b = some db') :
    row batchId db' = (row batchId db).or (if b.batchId = batchId then some b else none) := by
  have hfind := Table.find_insert (p := fun r : Batch => r.batchId = batchId) h
  simp only [decide_eq_true_eq] at hfind
  exact hfind

theorem row_closeOpen {now : String} : row other (closeOpen batchId now db) =
    (row other db).map fun b => if isOpen batchId b then close now b else b :=
  Table.find_update fun _ => rfl

/-- An open row under an id is the row under that id. -/
theorem row_of_isOpen (h : db.find (isOpen batchId) = some b) :
    row batchId db = some b ∧ b.status = "Open" := by
  have hopen := Table.prop_of_find h
  simp only [isOpen, Bool.and_eq_true, decide_eq_true_eq] at hopen
  refine ⟨Table.find_eq_some (Table.mem_of_find h) (decide_eq_true hopen.1) ?_, hopen.2⟩
  intro a _ ha
  exact (of_decide_eq_true ha).trans hopen.1.symm

theorem not_open_of_none (h : db.find (isOpen batchId) = none) (hb : row batchId db = some b) :
    b.status ≠ "Open" := by
  intro hopen
  have hnone := Table.find_eq_none.mp h b (Table.mem_of_find hb)
  simp [isOpen, hopen, row_batchId hb] at hnone

end Rows

section Statements
variable {batchId other : String} {b b' : Batch} {db db' : Table Batch} {env : Env}
  {req : CreateBatchRequest} {op : Op}

/-- A write fails and does nothing, or does its work, and may still fail. -/
theorem write_cases {α : Type} {r : Except String (α × Table Batch)} {answer : Except String α}
    (h : write env db r = (answer, db')) :
    (∃ e, answer = .error e) ∧ db' = db ∨
      ∃ a, r = .ok (a, db') ∧ (answer = .ok a ∨ ∃ e, answer = .error e) := by
  cases r with
  | error e =>
      obtain ⟨ha, hdb⟩ := Prod.mk.inj h
      exact .inl ⟨⟨_, ha.symm⟩, hdb.symm⟩
  | ok done =>
      rw [write] at h
      split at h
      · next e _ =>
        obtain ⟨ha, hdb⟩ := Prod.mk.inj h
        split at hdb
        · exact .inr ⟨done.1, by rw [← hdb], .inr ⟨e, ha.symm⟩⟩
        · exact .inl ⟨⟨e, ha.symm⟩, hdb.symm⟩
      · obtain ⟨ha, hdb⟩ := Prod.mk.inj h
        exact .inr ⟨done.1, by rw [← hdb], .inl ha.symm⟩

theorem insertBatch_ok {a : Batch} (h : insertBatch env batchId req db = .ok (a, db')) :
    a = req.row batchId env.now ∧ db.insert (req.row batchId env.now) = some db' := by
  rw [insertBatch] at h
  split at h
  · cases h
  split at h
  · cases h
  split at h
  · cases h
  · next hinsert =>
    obtain ⟨ha, hdb⟩ := Prod.mk.inj (Except.ok.inj h)
    exact ⟨ha.symm, hdb ▸ hinsert⟩

theorem updateOpenBatch_ok {a : Option Batch} (h : updateOpenBatch env batchId db = .ok (a, db')) :
    db.find (isOpen batchId) = none ∧ a = none ∧ db' = db ∨
      ∃ b, row batchId db = some b ∧ b.status = "Open" ∧ a = some (close env.now b) ∧
        db' = closeOpen batchId env.now db := by
  rw [updateOpenBatch] at h
  split at h
  · next hnone =>
    obtain ⟨ha, hdb⟩ := Prod.mk.inj (Except.ok.inj h)
    exact .inl ⟨hnone, ha.symm, hdb.symm⟩
  · next b hfind =>
    split at h
    · cases h
    obtain ⟨ha, hdb⟩ := Prod.mk.inj (Except.ok.inj h)
    obtain ⟨hrow, hopen⟩ := row_of_isOpen hfind
    exact .inr ⟨b, hrow, hopen, ha.symm, hdb.symm⟩

/-- An insert fails and does nothing, or adds the row. -/
theorem createBatch_cases {answer : Except String Batch}
    (h : exec env (.createBatch batchId req) db = (answer, db')) :
    (∃ e, answer = .error e) ∧ db' = db ∨
      db.insert (req.row batchId env.now) = some db' ∧
        (answer = .ok (req.row batchId env.now) ∨ ∃ e, answer = .error e) := by
  cases write_cases h with
  | inl hfailed => exact .inl hfailed
  | inr hdone =>
      obtain ⟨a, hr, hanswer⟩ := hdone
      obtain ⟨rfl, hinsert⟩ := insertBatch_ok hr
      exact .inr ⟨hinsert, hanswer⟩

/-- A close fails, finds no open row, or closes the one it finds. -/
theorem closeBatch_cases {answer : Except String (Option Batch)}
    (h : exec env (.closeBatch batchId) db = (answer, db')) :
    (∃ e, answer = .error e) ∧ db' = db ∨
      db.find (isOpen batchId) = none ∧ db' = db ∧ answer = .ok none ∨
      ∃ b, row batchId db = some b ∧ b.status = "Open" ∧ db' = closeOpen batchId env.now db ∧
        (answer = .ok (some (close env.now b)) ∨ ∃ e, answer = .error e) := by
  cases write_cases h with
  | inl hfailed => exact .inl hfailed
  | inr hdone =>
      obtain ⟨a, hr, hanswer⟩ := hdone
      obtain ⟨hnone, rfl, rfl⟩ | ⟨b, hrow, hopen, rfl, rfl⟩ := updateOpenBatch_ok hr
      · cases hanswer with
        | inl hok => exact .inr (.inl ⟨hnone, rfl, hok⟩)
        | inr herror => exact .inl ⟨herror, rfl⟩
      · exact .inr (.inr ⟨b, hrow, hopen, rfl, hanswer⟩)

theorem row_closeOpen_self {now : String} (h : row batchId db = some b)
    (hopen : b.status = "Open") :
    row batchId (closeOpen batchId now db) = some (close now b) := by
  have hmatches : isOpen batchId b = true := by simp [isOpen, row_batchId h, hopen]
  rw [row_closeOpen, h, Option.map_some, if_pos hmatches]

theorem row_closeOpen_other {now : String} (h : other ≠ batchId) :
    row other (closeOpen batchId now db) = row other db := by
  rw [row_closeOpen]
  cases hrow : row other db with
  | none => rfl
  | some b =>
      rw [Option.map_some, if_neg]
      simp [isOpen, row_batchId hrow, h]

theorem keeps_insert (h : db.insert b' = some db') : Keeps db db' := by
  intro batchId b hb
  refine ⟨b, ?_, .refl b⟩
  rw [row_insert h, hb]
  rfl

theorem keeps_closeOpen {now : String} : Keeps db (closeOpen batchId now db) := by
  intro other b hb
  rw [row_closeOpen, hb, Option.map_some]
  refine ⟨_, rfl, ?_⟩
  split
  · next hopen =>
    simp only [isOpen, Bool.and_eq_true, decide_eq_true_eq] at hopen
    exact .inr ⟨hopen.2, now, rfl⟩
  · exact .refl b

theorem keeps_exec {answer : op.Answer} (h : exec env op db = (answer, db')) : Keeps db db' := by
  cases op with
  | generateBatchId =>
      cases h
      exact .refl db
  | fetchBatch batchId =>
      cases h
      exact .refl db
  | createBatch batchId req =>
      cases createBatch_cases h with
      | inl hfailed => exact hfailed.2 ▸ .refl db
      | inr hdone => exact keeps_insert hdone.1
  | closeBatch batchId =>
      obtain ⟨-, rfl⟩ | ⟨-, rfl, -⟩ | ⟨b, -, -, rfl, -⟩ := closeBatch_cases h
      · exact .refl _
      · exact .refl _
      · exact keeps_closeOpen

theorem fetched_row {found : Option Batch}
    (h : exec env (.fetchBatch batchId) db = (.ok found, db')) :
    row batchId db = found ∧ db' = db := by
  obtain ⟨hanswer, hdb⟩ := Prod.mk.inj h
  refine ⟨?_, hdb.symm⟩
  split at hanswer
  · cases hanswer
  · exact Except.ok.inj hanswer

theorem row_inserted (h : db.insert b = some db') : row b.batchId db' = some b := by
  have hnone : row b.batchId db = none := by
    apply Table.find_eq_none.mpr
    intro a ha
    exact decide_eq_false (Table.not_clash_of_insert h ha)
  rw [row_insert h, hnone, if_pos rfl]
  rfl

theorem created_row (h : exec env (.createBatch batchId req) db = (.ok b, db')) :
    row b.batchId db' = some b := by
  obtain ⟨⟨e, he⟩, -⟩ | ⟨hinsert, hok | ⟨e, he⟩⟩ := createBatch_cases h
  · cases he
  · rw [← Except.ok.inj hok] at hinsert
    exact row_inserted hinsert
  · cases he

theorem closed_row (h : exec env (.closeBatch batchId) db = (.ok (some b), db')) :
    ∃ b₀, row batchId db = some b₀ ∧ b₀.status = "Open" ∧ b = close env.now b₀ ∧
      row batchId db' = some b := by
  obtain ⟨⟨e, he⟩, -⟩ | ⟨-, -, hnone⟩ | ⟨b₀, hrow, hopen, rfl, hok | ⟨e, he⟩⟩ := closeBatch_cases h
  · cases he
  · cases hnone
  · have hb : b = close env.now b₀ := Option.some.inj (Except.ok.inj hok)
    refine ⟨b₀, hrow, hopen, hb, ?_⟩
    rw [hb]
    exact row_closeOpen_self hrow hopen
  · cases he

theorem not_open_of_late (h : exec env (.closeBatch batchId) db = (.ok none, db'))
    (hb : row batchId db' = some b) : b.status ≠ "Open" := by
  obtain ⟨⟨e, he⟩, -⟩ | ⟨hnone, rfl, -⟩ | ⟨b₀, -, -, -, hok | ⟨e, he⟩⟩ := closeBatch_cases h
  · cases he
  · exact not_open_of_none hnone hb
  · cases hok
  · cases he

end Statements

/-- What a request asks for, after what it was answered. -/
inductive Calls (r : Request) : List (Event interface) → Op → Prop
  | generate {actor : ActorContext} {payload : CreateBatchRequest} (hr : r = .create actor payload)
      (hallowed : checkBrandRole createRoles actor payload.brandId = .ok ()) :
      Calls r [] .generateBatchId
  | create {actor : ActorContext} {payload : CreateBatchRequest} (hr : r = .create actor payload)
      (hallowed : checkBrandRole createRoles actor payload.brandId = .ok ()) (batchId : String) :
      Calls r [⟨.generateBatchId, batchId⟩] (.createBatch batchId payload)
  | fetch {actor : ActorContext} {batchId : String}
      (hr : r = .get actor batchId ∨ r = .close actor batchId) : Calls r [] (.fetchBatch batchId)
  | close {actor : ActorContext} {batchId : String} (hr : r = .close actor batchId) (b : Batch)
      (hallowed : checkBrandRole closeRoles actor b.brandId = .ok ()) :
      Calls r [⟨.fetchBatch batchId, .ok (some b)⟩] (.closeBatch batchId)

/-- With what a request ends. -/
inductive Outcome (r : Request) : List (Event interface) → Reply → Prop
  | created {actor : ActorContext} {payload : CreateBatchRequest} (hr : r = .create actor payload)
      (batchId : String) (b : Batch) :
      Outcome r [⟨.generateBatchId, batchId⟩, ⟨.createBatch batchId payload, .ok b⟩] (.created b)
  | shown {actor : ActorContext} {batchId : String} (hr : r = .get actor batchId) (b : Batch)
      (hallowed : checkBrandBoundary actor b.brandId = .ok ()) :
      Outcome r [⟨.fetchBatch batchId, .ok (some b)⟩] (.batch b)
  | closed {actor : ActorContext} {batchId : String} (hr : r = .close actor batchId) (b b' : Batch) :
      Outcome r [⟨.fetchBatch batchId, .ok (some b)⟩, ⟨.closeBatch batchId, .ok (some b')⟩] (.batch b')
  | late {actor : ActorContext} {batchId : String} (hr : r = .close actor batchId) (b : Batch) :
      Outcome r [⟨.fetchBatch batchId, .ok (some b)⟩, ⟨.closeBatch batchId, .ok none⟩]
        (.error (.invalidInput "Batch not found or already closed"))
  | absent {actor : ActorContext} {batchId : String}
      (hr : r = .get actor batchId ∨ r = .close actor batchId) :
      Outcome r [⟨.fetchBatch batchId, .ok none⟩] (.error .assetNotFound)
  | barred {actor : ActorContext} {batchId : String}
      (hr : r = .get actor batchId ∨ r = .close actor batchId) (b : Batch) (e : RcError)
      (hbarred : r = .close actor batchId → checkBrandRole closeRoles actor b.brandId = .error e) :
      Outcome r [⟨.fetchBatch batchId, .ok (some b)⟩] (.error e)
  | refused {actor : ActorContext} {payload : CreateBatchRequest} (hr : r = .create actor payload)
      (e : RcError) : Outcome r [] (.error e)
  | failed {log : List (Event interface)} (hlog : ∃ v ∈ log, Failed v) (e : String) :
      Outcome r log (.error (.database e))

theorem createBatch_meets (actor : ActorContext) (payload : CreateBatchRequest) :
    Meets (Calls (.create actor payload)) (Outcome (.create actor payload)) []
      (createBatch actor payload) := by
  rw [createBatch]
  split
  · exact .refused rfl _
  next hallowed =>
  refine ⟨.generate rfl hallowed, fun batchId => ⟨.create rfl hallowed batchId, fun answer => ?_⟩⟩
  cases answer with
  | error e => exact .failed ⟨_, List.mem_cons_of_mem _ (List.mem_singleton_self _), .create ..⟩ e
  | ok b => exact .created rfl batchId b

theorem getBatch_meets (actor : ActorContext) (batchId : String) :
    Meets (Calls (.get actor batchId)) (Outcome (.get actor batchId)) []
      (getBatch actor batchId) := by
  refine ⟨.fetch (.inl rfl), fun answer => ?_⟩
  cases answer with
  | error e => exact .failed ⟨_, List.mem_singleton_self _, .fetch ..⟩ e
  | ok found =>
      cases found with
      | none => exact .absent (.inl rfl)
      | some b =>
          simp only [Program.bind]
          split
          · next e _ =>
            refine .barred (.inl rfl) b e fun hr => ?_
            cases hr
          · next hallowed => exact .shown rfl b hallowed

theorem closeBatch_meets (actor : ActorContext) (batchId : String) :
    Meets (Calls (.close actor batchId)) (Outcome (.close actor batchId)) []
      (closeBatch actor batchId) := by
  refine ⟨.fetch (.inr rfl), fun answer => ?_⟩
  cases answer with
  | error e => exact .failed ⟨_, List.mem_singleton_self _, .fetch ..⟩ e
  | ok found =>
      cases found with
      | none => exact .absent (.inr rfl)
      | some b =>
          simp only [Program.bind]
          split
          · next e hbarred =>
            exact .barred (.inr rfl) b e fun _ => hbarred
          next hallowed =>
          refine ⟨.close rfl b hallowed, fun answer => ?_⟩
          cases answer with
          | error e =>
              exact .failed ⟨_, List.mem_cons_of_mem _ (List.mem_singleton_self _), .close ..⟩ e
          | ok closed =>
              cases closed with
              | none => exact .late rfl b
              | some b' => exact .closed rfl b b'

theorem handle_meets (r : Request) : Meets (Calls r) (Outcome r) [] r.handle := by
  cases r with
  | create actor payload => exact createBatch_meets actor payload
  | get actor batchId => exact getBatch_meets actor batchId
  | close actor batchId => exact closeBatch_meets actor batchId

section Changes
variable {r : Request} {actor : ActorContext} {payload : CreateBatchRequest}
  {batchId id now : String} {b : Batch} {db db' : Table Batch}

theorem change_insert (hr : r = .create actor payload)
    (hallowed : checkBrandRole createRoles actor payload.brandId = .ok ())
    (h : db.insert (payload.row id now) = some db') :
    Change r batchId (row batchId db) (row batchId db') := by
  by_cases hid : id = batchId
  · have hnone : row batchId db = none := by
      apply Table.find_eq_none.mpr
      intro a ha
      exact decide_eq_false (hid ▸ Table.not_clash_of_insert h ha)
    have hsome : row batchId db' = some (payload.row batchId now) := by
      rw [← hid]
      exact row_inserted h
    rw [hnone, hsome]
    exact .created hr hallowed now
  · have hother : (payload.row id now).batchId ≠ batchId := hid
    rw [row_insert h, if_neg hother, Option.or_none]
    exact .kept _

theorem change_close (hr : r = .close actor id)
    (hallowed : checkBrandRole closeRoles actor b.brandId = .ok ())
    (hrow : row id db = some b) (hopen : b.status = "Open") :
    Change r batchId (row batchId db) (row batchId (closeOpen id now db)) := by
  by_cases hid : batchId = id
  · rw [hid, hrow, row_closeOpen_self hrow hopen]
    exact .closed hr hallowed hopen now
  · rw [row_closeOpen_other hid]
    exact .kept _

end Changes

/-- The batch is there before the first statement of the request: from the start, or since
another request has created it. -/
def ThereFor {ι : Type} (i : ι) (start : Table Batch) (h : List (Move interface (Table Batch) ι))
    (b : Batch) : Prop :=
  row b.batchId start = some b ∨ ∃ h₁ v h₂, h = h₁ ++ v :: h₂ ∧ (∀ u ∈ h₁, u.thread ≠ i) ∧
    row b.batchId v.before = some b

/-- What any number of requests do to the batches, and what they answer. -/
structure Disciplined {ι : Type} [DecidableEq ι] (requests : ι → Request) (start : Table Batch)
    (h : List (Move interface (Table Batch) ι)) (c : Pool interface (Table Batch) ι Reply) :
    Prop where
  changes : ∀ v ∈ h, ∀ batchId,
    Change (requests v.thread) batchId (row batchId v.before) (row batchId v.after)
  lasts : ∀ i b, c.threads i = .done (.created b) ∨ c.threads i = .done (.batch b) →
    ∃ b', row b.batchId c.state = some b' ∧ Advances b b'
  closed : ∀ i actor batchId b, requests i = .close actor batchId →
    c.threads i = .done (.batch b) → row batchId c.state = some b ∧ b.status = "Closed"
  once : ∀ i j actor actor' batchId b b', requests i = .close actor batchId →
    requests j = .close actor' batchId → c.threads i = .done (.batch b) →
      c.threads j = .done (.batch b') → i = j
  settled : ∀ i actor reply b, requests i = .close actor b.batchId →
    c.threads i = .done reply → (∀ e ∈ eventsOf i h, ¬Failed e) → ThereFor i start h b →
      checkBrandRole closeRoles actor b.brandId = .ok () →
        ∃ b', row b.batchId c.state = some b' ∧ b'.status ≠ "Open"

section Runs
variable {ι : Type} [DecidableEq ι] {requests : ι → Request} {start : Table Batch}
  {h h₁ h₂ : List (Move interface (Table Batch) ι)} {c : Pool interface (Table Batch) ι Reply}
  {v w : Move interface (Table Batch) ι} {batchId : String} {b b' : Batch} {i : ι}
  (run : Interleaves machine (pool requests start) h c)
include run

theorem keeps_move (hv : v ∈ h) : Keeps v.before v.after := by
  obtain ⟨env, hexec⟩ := run.move hv
  exact keeps_exec hexec

/-- Whatever a row is found to be, in the end it is that or it has been closed. -/
theorem keeps_after (hv : v ∈ h) : Keeps v.after c.state := by
  obtain ⟨h₁, h₂, rfl⟩ := List.append_of_mem hv
  obtain ⟨_, _, run₁⟩ := run.cut rfl
  obtain ⟨_, _, c₁, hc₁, run₂⟩ := run₁.head
  have hkeeps : Keeps c₁.state c.state := by
    refine run₂.relates Keeps.refl Keeps.trans fun u hu => keeps_move run ?_
    exact List.mem_append_right _ (List.mem_cons_of_mem _ hu)
  rwa [hc₁] at hkeeps

theorem keeps_before (hv : v ∈ h) : Keeps start v.before := by
  obtain ⟨h₁, h₂, hh⟩ := List.append_of_mem hv
  obtain ⟨c₁, _, run₁, hc₁, -⟩ := run.split hh
  rw [← hc₁]
  exact run₁.relates Keeps.refl Keeps.trans fun u hu => keeps_move run₁ hu

theorem request_meets (i : ι) : Meets (Calls (requests i)) (Outcome (requests i)) (eventsOf i h)
    (c.threads i) :=
  run.meets (fun j => handle_meets (requests j)) i

theorem request_calls (hh : h = h₁ ++ v :: h₂) :
    Calls (requests v.thread) (eventsOf v.thread h₁) v.event.op :=
  run.calls (fun j => handle_meets (requests j)) hh

theorem move_exec {op : Op} {a : op.Answer} (hv : v ∈ h) (hevent : v.event = ⟨op, a⟩) :
    ∃ env, exec env op v.before = (a, v.after) := by
  obtain ⟨env, hexec⟩ := run.move hv
  rw [hevent] at hexec
  exact ⟨env, hexec⟩

/-- What a request fetched is there from then on, as it was or closed. -/
theorem fetched_lasts
    (hfetched : (⟨.fetchBatch batchId, .ok (some b)⟩ : Event interface) ∈ eventsOf i h) :
    ∃ b', row batchId c.state = some b' ∧ Advances b b' := by
  obtain ⟨v, hv, -, hevent⟩ := mem_eventsOf.mp hfetched
  obtain ⟨env, hexec⟩ := move_exec run hv hevent
  obtain ⟨hrow, hafter⟩ := fetched_row hexec
  rw [← hafter] at hrow
  exact keeps_after run hv _ _ hrow

theorem closed_lasts
    (hclosed : (⟨.closeBatch batchId, .ok (some b)⟩ : Event interface) ∈ eventsOf i h) :
    row batchId c.state = some b ∧ b.status = "Closed" := by
  obtain ⟨v, hv, -, hevent⟩ := mem_eventsOf.mp hclosed
  obtain ⟨env, hexec⟩ := move_exec run hv hevent
  obtain ⟨b₀, -, -, hb, hrow⟩ := closed_row hexec
  have hstatus : b.status = "Closed" := by
    rw [hb]
    rfl
  obtain ⟨b', hrow', hadvance⟩ := keeps_after run hv _ _ hrow
  have hnot : b.status ≠ "Open" := by
    rw [hstatus]
    decide
  rw [hadvance.closed hnot] at hrow'
  exact ⟨hrow', hstatus⟩

theorem row_change (hv : v ∈ h) (batchId : String) :
    Change (requests v.thread) batchId (row batchId v.before) (row batchId v.after) := by
  obtain ⟨h₁, h₂, hh⟩ := List.append_of_mem hv
  have hcall := request_calls run hh
  obtain ⟨env, hexec⟩ := run.move hv
  generalize v.event.answer = answer at hexec
  generalize v.event.op = op at hcall answer
  generalize hlog : eventsOf v.thread h₁ = log at hcall
  cases hcall with
  | generate | fetch =>
      have hsame : v.before = v.after := congrArg Prod.snd hexec
      rw [hsame]
      exact .kept _
  | create hr hallowed id =>
      cases createBatch_cases hexec with
      | inl hfailed =>
          rw [hfailed.2]
          exact .kept _
      | inr hdone => exact change_insert hr hallowed hdone.1
  | close hr b hallowed =>
      obtain ⟨-, hsame⟩ | ⟨-, hsame, -⟩ | ⟨b', hrow, hopen, hclosed, -⟩ := closeBatch_cases hexec
      · rw [hsame]
        exact .kept _
      · rw [hsame]
        exact .kept _
      · obtain ⟨c₁, _, run₁, hc₁, -⟩ := run.split hh
        have hfetched := fetched_lasts run₁ (hlog ▸ List.mem_singleton_self _)
        rw [hc₁] at hfetched
        obtain ⟨b'', hrow', hadvance⟩ := hfetched
        obtain rfl := Option.some.inj (hrow.symm.trans hrow')
        rw [← hadvance.same.2] at hallowed
        rw [hclosed]
        exact change_close hr hallowed hrow hopen

/-- The first of two closes leaves the second nothing to close. -/
theorem not_closed_again {h₃ : List (Move interface (Table Batch) ι)}
    (hh : h = h₁ ++ v :: (h₂ ++ w :: h₃)) (hv : v.event = ⟨.closeBatch batchId, .ok (some b)⟩) :
    w.event ≠ ⟨.closeBatch batchId, .ok (some b')⟩ := by
  intro hw
  have hmem : v ∈ h ∧ w ∈ h ∧ ∀ u ∈ h₂, u ∈ h := by
    rw [hh]
    simp +contextual
  obtain ⟨_, hexec⟩ := move_exec run hmem.1 hv
  obtain ⟨b₀, -, -, hb, hrow⟩ := closed_row hexec
  obtain ⟨_, hexec'⟩ := move_exec run hmem.2.1 hw
  obtain ⟨b₁, hrow₁, hopen, -⟩ := closed_row hexec'
  have hkeeps : Keeps v.after w.before :=
    run.relates_between Keeps.refl Keeps.trans hh fun u hu => keeps_move run (hmem.2.2 u hu)
  obtain ⟨b₂, hrow₂, hadvance⟩ := hkeeps _ _ hrow
  have hclosed : b.status ≠ "Open" := by
    rw [hb]
    exact (by decide : "Closed" ≠ "Open")
  obtain rfl := Option.some.inj (hrow₁.symm.trans hrow₂)
  rw [hadvance.closed hclosed] at hopen
  exact hclosed hopen

theorem closed_once {j : ι}
    (hi : (⟨.closeBatch batchId, .ok (some b)⟩ : Event interface) ∈ eventsOf i h)
    (hj : (⟨.closeBatch batchId, .ok (some b')⟩ : Event interface) ∈ eventsOf j h) : i = j := by
  obtain ⟨v, hv, hvi, hvevent⟩ := mem_eventsOf.mp hi
  obtain ⟨w, hw, hwj, hwevent⟩ := mem_eventsOf.mp hj
  by_contra hne
  have hvw : v ≠ w := by
    intro hsame
    rw [hsame] at hvi
    exact hne (hvi.symm.trans hwj)
  obtain ⟨h₁, h₂, h₃, hh⟩ | ⟨h₁, h₂, h₃, hh⟩ := split_two hv hw hvw
  · exact not_closed_again run hh hvevent hwevent
  · exact not_closed_again run hh hwevent hvevent

/-- A request to close that shows a batch has closed it. -/
theorem closed_event {actor : ActorContext} (hr : requests i = .close actor batchId)
    (hi : c.threads i = .done (.batch b)) :
    (⟨.closeBatch batchId, .ok (some b)⟩ : Event interface) ∈ eventsOf i h := by
  have hmeets := request_meets run i
  rw [hi, meets_done, hr] at hmeets
  generalize eventsOf i h = log at hmeets
  cases hmeets with
  | shown hr => cases hr
  | closed hr b b' =>
      cases hr
      exact List.mem_cons_of_mem _ (List.mem_singleton_self _)

theorem shown_lasts (hi : c.threads i = .done (.created b) ∨ c.threads i = .done (.batch b)) :
    ∃ b', row b.batchId c.state = some b' ∧ Advances b b' := by
  have hmeets := request_meets run i
  generalize hlog : eventsOf i h = log at hmeets
  cases hi with
  | inl hcreated =>
      rw [hcreated, meets_done] at hmeets
      cases hmeets with
      | @created actor payload hr batchId =>
          have hevent : (⟨.createBatch batchId payload, .ok b⟩ : Event interface) ∈ eventsOf i h := by
            rw [hlog]
            exact List.mem_cons_of_mem _ (List.mem_singleton_self _)
          obtain ⟨v, hv, -, hevent⟩ := mem_eventsOf.mp hevent
          obtain ⟨env, hexec⟩ := move_exec run hv hevent
          exact keeps_after run hv _ _ (created_row hexec)
  | inr hshown =>
      rw [hshown, meets_done] at hmeets
      cases hmeets with
      | shown hr =>
          obtain ⟨b', hrow, hadvance⟩ := fetched_lasts run (hlog ▸ List.mem_singleton_self _)
          rw [← hadvance.same.1, row_batchId hrow]
          exact ⟨b', hrow, hadvance⟩
      | closed hr b' =>
          obtain ⟨hrow, -⟩ :=
            closed_lasts run (hlog ▸ List.mem_cons_of_mem _ (List.mem_singleton_self _))
          rw [row_batchId hrow]
          exact ⟨b, hrow, .refl b⟩

/-- A batch that is there for a request is there at each of its statements. -/
theorem thereFor_before (hthere : ThereFor i start h b) (hv : v ∈ h) (hi : v.thread = i) :
    ∃ b', row b.batchId v.before = some b' ∧ Advances b b' := by
  cases hthere with
  | inl hstart => exact keeps_before run hv _ _ hstart
  | inr hlater =>
      obtain ⟨h₁, u, h₂, hh, hothers, hrow⟩ := hlater
      rw [hh] at hv
      cases List.mem_append.mp hv with
      | inl hearlier => exact absurd hi (hothers v hearlier)
      | inr hlast =>
          cases List.mem_cons.mp hlast with
          | inl hsame =>
              rw [hsame]
              exact ⟨b, hrow, .refl b⟩
          | inr hafter =>
              obtain ⟨l₁, l₂, hl⟩ := List.append_of_mem hafter
              rw [hl] at hh
              have hmem : ∀ w ∈ u :: l₁, w ∈ h := by
                rw [hh]
                simp +contextual
              have hkeeps : Keeps u.after v.before :=
                run.relates_between Keeps.refl Keeps.trans hh fun w hw =>
                  keeps_move run (hmem w (List.mem_cons_of_mem _ hw))
              exact (keeps_move run (hmem u (List.mem_cons_self ..))).trans hkeeps _ _ hrow

theorem close_settles {actor : ActorContext} {reply : Reply}
    (hr : requests i = .close actor b.batchId) (hi : c.threads i = .done reply)
    (hlog : ∀ e ∈ eventsOf i h, ¬Failed e) (hthere : ThereFor i start h b)
    (hallowed : checkBrandRole closeRoles actor b.brandId = .ok ()) :
    ∃ b', row b.batchId c.state = some b' ∧ b'.status ≠ "Open" := by
  have hmeets := request_meets run i
  rw [hi, meets_done, hr] at hmeets
  generalize hevents : eventsOf i h = log at hmeets hlog
  have hfetched : ∀ {found : Option Batch},
      (⟨.fetchBatch b.batchId, .ok found⟩ : Event interface) ∈ eventsOf i h →
        ∃ b', found = some b' ∧ Advances b b' := by
    intro found hmem
    obtain ⟨v, hv, hthread, hevent⟩ := mem_eventsOf.mp hmem
    obtain ⟨env, hexec⟩ := move_exec run hv hevent
    obtain ⟨b', hrow, hadvance⟩ := thereFor_before run hthere hv hthread
    exact ⟨b', (fetched_row hexec).1.symm.trans hrow, hadvance⟩
  cases hmeets with
  | closed hr b' b'' =>
      cases hr
      obtain ⟨hrow, hclosed⟩ :=
        closed_lasts run (hevents ▸ List.mem_cons_of_mem _ (List.mem_singleton_self _))
      refine ⟨_, hrow, ?_⟩
      rw [hclosed]
      decide
  | late hr b' =>
      cases hr
      have hmem : (⟨.closeBatch b.batchId, .ok none⟩ : Event interface) ∈ eventsOf i h := by
        rw [hevents]
        exact List.mem_cons_of_mem _ (List.mem_singleton_self _)
      obtain ⟨v, hv, hthread, hevent⟩ := mem_eventsOf.mp hmem
      obtain ⟨env, hexec⟩ := move_exec run hv hevent
      obtain ⟨b₀, hrow₀, -⟩ := thereFor_before run hthere hv hthread
      obtain ⟨b₁, hrow₁, -⟩ := keeps_move run hv _ _ hrow₀
      have hclosed := not_open_of_late hexec hrow₁
      obtain ⟨b₂, hrow₂, hadvance⟩ := keeps_after run hv _ _ hrow₁
      rw [hadvance.closed hclosed] at hrow₂
      exact ⟨b₁, hrow₂, hclosed⟩
  | absent hr =>
      cases hr with
      | inl hget => cases hget
      | inr hclose =>
          cases hclose
          obtain ⟨b', hb', -⟩ := hfetched (hevents ▸ List.mem_singleton_self _)
          cases hb'
  | barred hr b' e hbarred =>
      cases hr with
      | inl hget => cases hget
      | inr hclose =>
          cases hclose
          obtain ⟨b'', hb', hadvance⟩ := hfetched (hevents ▸ List.mem_singleton_self _)
          obtain rfl := Option.some.inj hb'
          rw [hadvance.same.2, hallowed] at hbarred
          cases hbarred rfl
  | created hr | shown hr | refused hr => cases hr
  | failed hfailed =>
      obtain ⟨e, he, hfails⟩ := hfailed
      exact absurd hfails (hlog e he)

/-- However the statements of any number of requests interleave, and whichever of them fail. -/
theorem batches_disciplined : Disciplined requests start h c where
  changes _ hv batchId := row_change run hv batchId
  lasts _ _ hi := shown_lasts run hi
  closed _ _ _ _ hr hi := closed_lasts run (closed_event run hr hi)
  once _ _ _ _ _ _ _ hr hr' hi hj :=
    closed_once run (closed_event run hr hi) (closed_event run hr' hj)
  settled _ _ _ _ hr hi hlog hthere hallowed := close_settles run hr hi hlog hthere hallowed

end Runs

section Sample

/-- The brand and the platform close the same batch at once, and a factory opens another one,
which the platform closes too. -/
def sampleRequest (i : Nat) : Request :=
  if i = 0 then
    .close { actorId := "owner", actorRole := .brand, brandId := some "brand_a" } "batch_1"
  else if i = 1 then .close { actorId := "admin", actorRole := .platform } "batch_1"
  else if i = 3 then
    .close { actorId := "admin", actorRole := .platform } "batch_00000000000000000000000000"
  else
    .create { actorId := "line", actorRole := .factory, brandId := some "brand_a" }
      { brandId := "brand_a" }

def sampleBatches : Table Batch :=
  .single { batchId := "batch_1", brandId := "brand_a", createdAt := "monday" }

/-- The connection breaks after the batch of the factory is stored. -/
def sampleRun : List (Move interface (Table Batch) Nat) × Pool interface (Table Batch) Nat Reply :=
  (pool sampleRequest sampleBatches).schedule machine
    ([0, 1, 2, 1, 0].map (fun i => (i, { now := "tuesday" })) ++
      [(2, { fails := some "broken pipe", applied := true }), (3, { now := "tuesday" }),
        (3, { now := "tuesday" })])

theorem batches_disciplined_sample :
    Disciplined sampleRequest sampleBatches sampleRun.1 sampleRun.2 ∧
      sampleRun.2.state.rows.map (fun b => (b.batchId, b.status)) =
        [("batch_1", "Closed"), ("batch_00000000000000000000000000", "Closed")] :=
  ⟨batches_disciplined (schedule_interleaves ..), by decide⟩

end Sample

end RcProtocol.BatchRoutes
