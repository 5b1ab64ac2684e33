import RcProtocol.Brands.Handlers

/-!
What a request on brands commits: a brand with its first key, or a key in the place of
one it revokes. A reply shows a key exactly when the commit that stores it has succeeded.
-/

namespace RcProtocol.Brands
open Library

abbrev Log := List (Event interface)

/-- What a commit writes. -/
def Op.written : Op → List Write
  | .commit tx => tx.writes
  | _ => []

/-- The writes of a transaction that issues a key. -/
inductive Issues : List Write → ApiKeyRow → Prop
  | registration (brand : BrandRow) {key : ApiKeyRow} (hbrand : key.brandId = brand.brandId)
      (hactive : key.status = .active) : Issues [.insertBrand brand, .insertApiKey key] key
  | rotation (keyId : String) (now : Time) {key : ApiKeyRow} (hactive : key.status = .active) :
      Issues [.revokeApiKey keyId now, .insertApiKey key] key

/-- Each key revoked for the new one was found to be the active one of its brand. -/
def Replaces (log : Log) (ws : List Write) (key : ApiKeyRow) : Prop :=
  ∀ keyId now, .revokeApiKey keyId now ∈ ws → ∃ old, old.keyId = keyId ∧
    (⟨.fetchActiveApiKey ⟨now, []⟩ key.brandId, .ok old⟩ : Event interface) ∈ log

def Calls (log : Log) (op : Op) : Prop :=
  op.written = [] ∨ ∃ key, Issues op.written key ∧ Replaces log op.written key

/-- The event is a commit of the key that has succeeded. -/
def Stores (e : Event interface) (key : ApiKeyRow) : Prop :=
  ∃ tx, e = ⟨.commit tx, .ok ()⟩ ∧ .insertApiKey key ∈ tx.writes

structure Answers (p : Primitives) (log : Log) (reply : Reply) : Prop where
  shown : ∀ e ∈ log, ∀ row, Stores e row →
    ∃ apiKey, reply.apiKey = some apiKey ∧ row.keyHash = hashApiKey p apiKey
  stored : ∀ apiKey, reply.apiKey = some apiKey →
    ∃ e ∈ log, ∃ row, Stores e row ∧ row.keyHash = hashApiKey p apiKey

def Uncommitted (log : Log) : Prop := ∀ e ∈ log, e.op.written = []

section
variable {p : Primitives} {log : Log} {ws : List Write} {key row : ApiKeyRow}

theorem Issues.eq (h : Issues ws key) (hmem : .insertApiKey row ∈ ws) : row = key := by
  cases h <;> simpa using hmem

theorem Issues.mem (h : Issues ws key) : .insertApiKey key ∈ ws := by
  cases h <;> simp

theorem Stores.written {e : Event interface}
    (h : Stores e row) : .insertApiKey row ∈ e.op.written := by
  obtain ⟨tx, rfl, hmem⟩ := h
  exact hmem

theorem Uncommitted.append (h : Uncommitted log) {op : Op} (hop : op.written = [])
    (answer : op.Answer) : Uncommitted (log ++ [⟨op, answer⟩]) := by
  intro e he
  obtain he | he := List.mem_append.mp he
  · exact h e he
  · obtain rfl := List.mem_singleton.mp he
    exact hop

theorem Uncommitted.not_stores (h : Uncommitted log) : ∀ e ∈ log, ∀ row, ¬Stores e row := by
  intro e he row hstores
  have hmem := hstores.written
  rw [h e he] at hmem
  cases hmem

theorem answers_without {reply : Reply} (hlog : ∀ e ∈ log, ∀ row, ¬Stores e row)
    (hreply : reply.apiKey = none) : Answers p log reply where
  shown e he row hstores := absurd hstores (hlog e he row)
  stored apiKey hshown := by
    rw [hreply] at hshown
    cases hshown

theorem meets_database_error (hlog : Uncommitted log) (e : DbError) :
    Meets Calls (Answers p) log (.done (databaseError e)) :=
  answers_without hlog.not_stores rfl

/-- A step that commits nothing. -/
theorem meets_step {op : Op} {next : op.Answer → Program interface Reply} (hop : op.written = [])
    (hlog : Uncommitted log)
    (h : ∀ answer, Uncommitted (log ++ [⟨op, answer⟩]) →
      Meets Calls (Answers p) (log ++ [⟨op, answer⟩]) (next answer)) :
    Meets Calls (Answers p) log ((ask op).bind next) :=
  ⟨.inl hop, fun answer => h answer (hlog.append hop answer)⟩

/-- The last step of a transaction, before the reply that shows its key. -/
theorem meets_commit {tx : Transaction} {reply : Reply} {apiKey : String} (hlog : Uncommitted log)
    (hissues : Issues tx.writes key) (hreplaces : Replaces log tx.writes key)
    (hreply : reply.apiKey = some apiKey) (hhash : key.keyHash = hashApiKey p apiKey) :
    Meets Calls (Answers p) log ((ask (.commit tx)).attempt databaseError fun _ => .done reply) := by
  refine ⟨.inr ⟨key, hissues, hreplaces⟩, fun answer => ?_⟩
  cases answer with
  | error e =>
      refine answers_without (fun e' he' row hstores => ?_) rfl
      obtain he' | he' := List.mem_append.mp he'
      · exact hlog.not_stores e' he' row hstores
      · obtain ⟨tx', heq, -⟩ := hstores
        rw [List.mem_singleton.mp he'] at heq
        cases heq
  | ok _ =>
      constructor
      · intro e he row hstores
        refine ⟨apiKey, hreply, ?_⟩
        obtain he | he := List.mem_append.mp he
        · exact absurd hstores (hlog.not_stores e he row)
        · obtain rfl := List.mem_singleton.mp he
          rw [hissues.eq hstores.written, hhash]
      · intro apiKey' hshown
        obtain rfl := Option.some.inj (hreply.symm.trans hshown)
        exact ⟨_, List.mem_append_right _ (.head _), key, ⟨tx, rfl, hissues.mem⟩, hhash⟩

theorem brandRefused_apiKey (e : DbError) : (brandRefused e).apiKey = none := by
  dsimp only [brandRefused]
  split
  · rfl
  · split <;> rfl

theorem meets_createBrand (brand : BrandRow) (keyUlid apiKey : String) (now : Time)
    (hlog : Uncommitted log) :
    Meets Calls (Answers p) log (createBrand p brand keyUlid apiKey { now := now }) := by
  apply meets_step rfl hlog
  intro answer hlog
  cases answer with
  | error e => exact answers_without hlog.not_stores (brandRefused_apiKey e)
  | ok _ =>
      apply meets_step rfl hlog
      intro answer hlog
      cases answer with
      | error e => exact meets_database_error hlog e
      | ok _ =>
          refine meets_commit hlog (.registration brand rfl rfl) ?_ rfl rfl
          intro keyId now hrevokes
          simp [Transaction.add] at hrevokes

theorem meets_registerBrand (actor : ActorContext) (payload : RegisterBrandRequest) :
    Meets Calls (Answers p) [] (registerBrand p actor payload) := by
  have hlog : Uncommitted [] := fun e he => absurd he List.not_mem_nil
  rw [registerBrand]
  split
  · exact answers_without hlog.not_stores rfl
  apply meets_step rfl hlog
  intro answer hlog
  cases answer with
  | error e => exact meets_database_error hlog e
  | ok existing =>
      dsimp only
      split
      · exact answers_without hlog.not_stores rfl
      apply meets_step rfl hlog
      intro brandUlid hlog
      apply meets_step rfl hlog
      intro bytes hlog
      apply meets_step rfl hlog
      intro keyUlid hlog
      apply meets_step rfl hlog
      intro answer hlog
      cases answer with
      | error e => exact meets_database_error hlog e
      | ok now => exact meets_createBrand _ keyUlid _ now hlog

theorem meets_replaceApiKey (brandId keyUlid apiKey : String) (now : Time)
    (hlog : Uncommitted log) :
    Meets Calls (Answers p) log (replaceApiKey p brandId keyUlid apiKey { now := now }) := by
  apply meets_step rfl hlog
  intro answer hlog
  cases answer with
  | error e => exact meets_database_error hlog e
  | ok oldKey =>
      apply meets_step rfl hlog
      intro answer hlog
      cases answer with
      | error e => exact meets_database_error hlog e
      | ok _ =>
          apply meets_step rfl hlog
          intro answer hlog
          cases answer with
          | error e => exact meets_database_error hlog e
          | ok _ =>
              refine meets_commit hlog (.rotation oldKey.keyId now rfl) ?_ rfl rfl
              intro keyId now' hrevokes
              obtain ⟨rfl, rfl⟩ : keyId = oldKey.keyId ∧ now' = now := by
                simpa [Transaction.add] using hrevokes
              exact ⟨oldKey, rfl, by simp [newApiKey]⟩

theorem meets_rotateApiKey (actor : ActorContext) (brandId : String)
    (payload : RotateApiKeyRequest) :
    Meets Calls (Answers p) [] (rotateApiKey p actor brandId payload) := by
  have hlog : Uncommitted [] := fun e he => absurd he List.not_mem_nil
  rw [rotateApiKey]
  split
  · exact answers_without hlog.not_stores rfl
  apply meets_step rfl hlog
  intro bytes hlog
  apply meets_step rfl hlog
  intro keyUlid hlog
  apply meets_step rfl hlog
  intro answer hlog
  cases answer with
  | error e => exact meets_database_error hlog e
  | ok now => exact meets_replaceApiKey brandId keyUlid _ now hlog

theorem meets_authenticateApiKeyHash (auth : AuthState) (hash : String) :
    Meets Calls (Answers p) [] (authenticateApiKeyHash auth hash) := by
  apply meets_step rfl fun e he => absurd he List.not_mem_nil
  intro answer hlog
  dsimp only
  split <;> exact answers_without hlog.not_stores rfl

theorem BrandRequest.meets_handle (request : BrandRequest) :
    Meets Calls (Answers p) [] (request.handle p) := by
  cases request with
  | register actor payload => exact meets_registerBrand actor payload
  | rotate actor brandId payload => exact meets_rotateApiKey actor brandId payload
  | authenticate auth hash => exact meets_authenticateApiKeyHash auth hash

end

section Runs
variable {ι : Type} [DecidableEq ι] {p : Primitives} {requests : ι → BrandRequest} {start : KeyDb}
  {h : List (Move interface KeyDb ι)} {c : Pool interface KeyDb ι Reply}

omit [DecidableEq ι] in
theorem pool_meets (p : Primitives) (requests : ι → BrandRequest) (start : KeyDb) (i : ι) :
    Meets Calls (Answers p) [] ((BrandRequest.pool p requests start).threads i) :=
  (requests i).meets_handle

theorem pool_calls {h₁ h₂ : List (Move interface KeyDb ι)} {v : Move interface KeyDb ι}
    (run : Interleaves machine (BrandRequest.pool p requests start) h c) (hh : h = h₁ ++ v :: h₂) :
    Calls (eventsOf v.thread h₁) v.event.op := by
  have hcalls := run.calls (pool_meets p requests start) hh
  exact hcalls

theorem pool_answers {i : ι} {reply : Reply}
    (run : Interleaves machine (BrandRequest.pool p requests start) h c)
    (hi : c.threads i = .done reply) : Answers p (eventsOf i h) reply := by
  have hanswers := run.answers (pool_meets p requests start) hi
  exact hanswers

end Runs

end RcProtocol.Brands
