import Mathlib.Data.List.Sort
import RcProtocol.Library.Interleaving
import RcProtocol.Library.Table
import RcProtocol.Library.Text

/-!
Brands and their API keys (db/brands.rs). A transaction is READ COMMITTED: each of its
statements sees what is committed at that moment and its own writes, and nobody else
sees these before it commits. A statement that waits for another transaction is one
that runs after it.
-/

namespace RcProtocol.Brands
open Library

/-- Times are counted in microseconds. -/
abbrev Time := Int

structure BrandRow where
  brandId : String
  brandName : String
  contactEmail : String
  industry : String
  status : String := "Active"
  createdAt : Time

instance : Keyed BrandRow where
  Key := String × String
  key b := (b.brandId, b.contactEmail)
  Clash a b := a.1 = b.1 ∨ a.2 = b.2
  decClash _ _ := inferInstanceAs (Decidable (_ ∨ _))
  symm h := h.imp Eq.symm Eq.symm

inductive KeyStatus where
  | active | revoked
  deriving DecidableEq

structure ApiKeyRow where
  keyId : String
  brandId : String
  keyHash : String
  keyPrefix : String
  status : KeyStatus := .active
  createdAt : Time
  revokedAt : Option Time := none

instance : Keyed ApiKeyRow where
  Key := String × String
  key k := (k.keyId, k.keyHash)
  Clash a b := a.1 = b.1 ∨ a.2 = b.2
  decClash _ _ := inferInstanceAs (Decidable (_ ∨ _))
  symm h := h.imp Eq.symm Eq.symm

def ApiKeyRow.revoke (now : Time) (k : ApiKeyRow) : ApiKeyRow :=
  { k with status := .revoked, revokedAt := some now }

/-- The tables, every key under a brand that exists. -/
structure KeyDb where
  brands : Table BrandRow := .empty
  apiKeys : Table ApiKeyRow := .empty
  owned : ∀ k ∈ apiKeys.rows, ∃ b ∈ brands.rows, b.brandId = k.brandId := by
    intro k hk
    cases hk

namespace KeyDb
variable (db : KeyDb)

def brandByEmail (email : String) : Option BrandRow := db.brands.find (·.contactEmail = email)

def activeKeys (brandId : String) : List ApiKeyRow :=
  db.apiKeys.rows.filter fun k => k.brandId = brandId && k.status = .active

/-- `ORDER BY created_at DESC LIMIT 1`, the rank deciding between keys of one time. -/
def activeApiKey (rank : String → Nat) (brandId : String) : Option ApiKeyRow :=
  ((db.activeKeys brandId).insertionSort fun a b =>
    b.createdAt < a.createdAt ∨ a.createdAt = b.createdAt ∧ rank a.keyId ≤ rank b.keyId).head?

def brandByApiKeyHash (keyHash : String) : Option BrandRow :=
  (db.apiKeys.find fun k => k.keyHash = keyHash && k.status = .active).bind fun k =>
    db.brands.find (·.brandId = k.brandId)

def insertBrand (row : BrandRow) : Option KeyDb :=
  match h : db.brands.insert row with
  | none => none
  | some brands =>
      some
        { brands := brands
          apiKeys := db.apiKeys
          owned := by
            intro k hk
            obtain ⟨b, hb, hid⟩ := db.owned k hk
            exact ⟨b, (Table.mem_insert h).mpr (.inl hb), hid⟩ }

def insertApiKey (row : ApiKeyRow) : Option KeyDb :=
  if hbrand : ∃ b ∈ db.brands.rows, b.brandId = row.brandId then
    match h : db.apiKeys.insert row with
    | none => none
    | some apiKeys =>
        some
          { brands := db.brands
            apiKeys := apiKeys
            owned := by
              intro k hk
              obtain hk | rfl := (Table.mem_insert h).mp hk
              · exact db.owned k hk
              · exact hbrand }
  else none

/-- `UPDATE api_keys … WHERE key_id = $1`: the status of the key is not asked for. -/
def revokeApiKey (keyId : String) (now : Time) : KeyDb where
  brands := db.brands
  apiKeys := db.apiKeys.update (·.keyId = keyId) (ApiKeyRow.revoke now) fun _ => rfl
  owned := by
    intro k hk
    obtain ⟨r, hr, rfl⟩ := Table.mem_update.mp hk
    obtain ⟨b, hb, hid⟩ := db.owned r hr
    refine ⟨b, hb, ?_⟩
    split <;> exact hid

end KeyDb

inductive Write where
  | insertBrand (row : BrandRow)
  | insertApiKey (row : ApiKeyRow)
  | revokeApiKey (keyId : String) (now : Time)

def Write.apply : Write → KeyDb → Option KeyDb
  | .insertBrand row, db => db.insertBrand row
  | .insertApiKey row, db => db.insertApiKey row
  | .revokeApiKey keyId now, db => some (db.revokeApiKey keyId now)

/-- An open transaction: when it began, and what its statements wrote so far. -/
structure Transaction where
  now : Time
  writes : List Write := []

namespace Transaction

def add (tx : Transaction) (w : Write) : Transaction := { tx with writes := tx.writes ++ [w] }

/-- What the writes make of a database, if they break no constraint of it. -/
def applyAll (ws : List Write) (db : KeyDb) : Option KeyDb := ws.foldlM (fun db w => w.apply db) db

def apply (tx : Transaction) (db : KeyDb) : Option KeyDb := applyAll tx.writes db

end Transaction

structure DbError where
  code : Option String := none
  message : String

inductive Op where
  | fetchBrandByEmail (email : String)
  | randomBytes
  | newUlid
  | begin
  | execute (tx : Transaction) (w : Write)
  | fetchActiveApiKey (tx : Transaction) (brandId : String)
  | commit (tx : Transaction)
  | fetchBrandByApiKeyHash (keyHash : String)

@[reducible] def Op.Answer : Op → Type
  | .fetchBrandByEmail _ | .fetchBrandByApiKeyHash _ => Except DbError (Option BrandRow)
  | .randomBytes => Bytes 16
  | .newUlid => String
  | .begin => Except DbError Time
  | .execute _ _ | .commit _ => Except DbError Unit
  | .fetchActiveApiKey _ _ => Except DbError ApiKeyRow

abbrev interface : Interface := ⟨Op, Op.Answer⟩

def ask (op : Op) : Program interface op.Answer := .call op .done

/-- How one step goes; a commit may take effect and still fail. -/
structure Env where
  fails : Option DbError := none
  applied : Bool := false
  now : Time := 0
  random : Bytes 16 := .ofFn fun _ => 0
  ulid : String := "00000000000000000000000000"
  rank : String → Nat := fun _ => 0

def orFails {α : Type} (env : Env) (a : Except DbError α) : Except DbError α :=
  match env.fails with
  | some e => .error e
  | none => a

def uniqueViolation (index : String) : DbError :=
  ⟨some "23505", "duplicate key value violates unique constraint \"" ++ index ++ "\""⟩

/-- The constraint a write breaks that cannot be applied. -/
def violation (db : KeyDb) : Write → DbError
  | .insertBrand row =>
      if db.brands.rows.any (·.brandId = row.brandId) then uniqueViolation "brands_pkey"
      else uniqueViolation "idx_brands_contact_email"
  | .insertApiKey row =>
      if db.brands.rows.all (·.brandId ≠ row.brandId) then
        ⟨some "23503", "insert or update on table \"api_keys\" violates foreign key constraint"⟩
      else if db.apiKeys.rows.any (·.keyId = row.keyId) then uniqueViolation "api_keys_pkey"
      else uniqueViolation "idx_api_keys_key_hash"
  | .revokeApiKey _ _ => ⟨none, ""⟩

def execWrite (tx : Transaction) (w : Write) (db : KeyDb) : Except DbError Unit :=
  match tx.apply db with
  | none => .error ⟨none, "transaction is aborted"⟩
  | some view =>
      match w.apply view with
      | none => .error (violation view w)
      | some _ => .ok ()

def execCommit (env : Env) (tx : Transaction) (db : KeyDb) : Except DbError Unit × KeyDb :=
  match tx.apply db with
  | none => (.error ⟨none, "transaction is aborted"⟩, db)
  | some db' =>
      match env.fails with
      | some e => (.error e, if env.applied then db' else db)
      | none => (.ok (), db')

def exec (env : Env) : (op : Op) → KeyDb → op.Answer × KeyDb
  | .fetchBrandByEmail email, db => (orFails env (.ok (db.brandByEmail email)), db)
  | .randomBytes, db => (env.random, db)
  | .newUlid, db => (env.ulid, db)
  | .begin, db => (orFails env (.ok env.now), db)
  | .execute tx w, db => (orFails env (execWrite tx w db), db)
  | .fetchActiveApiKey tx brandId, db =>
      (orFails env
        (match (tx.apply db).bind (·.activeApiKey env.rank brandId) with
        | some k => .ok k
        | none =>
            .error ⟨none, "no rows returned by a query that expected to return at least one row"⟩),
        db)
  | .commit tx, db => execCommit env tx db
  | .fetchBrandByApiKeyHash keyHash, db => (orFails env (.ok (db.brandByApiKeyHash keyHash)), db)

def machine : Machine interface KeyDb := ⟨Env, exec⟩

end RcProtocol.Brands
