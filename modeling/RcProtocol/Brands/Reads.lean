import RcProtocol.Brands.Handlers
import Mathlib.Logic.Function.Basic

/-!
The reads of the brands (routes/brand.rs): one brand, for those who may see it, and several at once,
for everybody.
-/

namespace RcProtocol.Brands
open Library

structure BrandDetailResponse where
  brandId : String
  brandName : String
  contactEmail : String
  industry : String
  status : String
  createdAt : Time

/-- The logo, the website and the webhook are never there. -/
structure BrandResponse where
  brandId : String
  brandName : String
  brandLogo : Option String := none
  brandWebsite : Option String := none
  webhookUrl : Option String := none
  status : String
  createdAt : Time

def BrandRow.detail (b : BrandRow) : BrandDetailResponse :=
  ⟨b.brandId, b.brandName, b.contactEmail, b.industry, b.status, b.createdAt⟩

def BrandRow.response (b : BrandRow) : BrandResponse where
  brandId := b.brandId
  brandName := b.brandName
  status := b.status
  createdAt := b.createdAt

def checkBrandReadAccess (actor : ActorContext) (brandId : String) : Except RcError Unit :=
  match actor.actorRole with
  | .platform => .ok ()
  | .brand | .factory =>
      if actor.brandId = some brandId then .ok () else .error .brandBoundaryViolation
  | _ => .error .permissionDenied

section Handlers
variable (fails : Option DbError) (db : KeyDb)

def fetchBrandDetail (brandId : String) : Except RcError BrandDetailResponse :=
  match fails with
  | some e => .error (.database e.display)
  | none =>
      match db.brands.find (·.brandId = brandId) with
      | some b => .ok b.detail
      | none => .error (.notFound ("Brand " ++ brandId ++ " not found"))

def getBrand (actor : ActorContext) (brandId : String) : Except RcError BrandDetailResponse := do
  checkBrandReadAccess actor brandId
  fetchBrandDetail fails db brandId

/-- `brand_id = ANY($1)`, which names no order of the rows. -/
def fetchBrandsBatch (arrange : List BrandRow → List BrandRow) (ids : List String) :
    Except RcError (List BrandResponse) :=
  match fails with
  | some e => .error (.database e.display)
  | none => .ok ((arrange (db.brands.rows.filter fun b => ids.contains b.brandId)).map (·.response))

def batchIds (ids : String) : List String :=
  ((ids.toList.splitOn ',').map fun part => trim (.ofList part)).filter (· ≠ "")

def batchBrands (arrange : List BrandRow → List BrandRow) (ids : String) :
    Except RcError (List BrandResponse) :=
  let ids := batchIds ids
  if ids = [] then .ok []
  else if 100 < ids.length then .error (.invalidInput "batch size exceeds 100")
  else fetchBrandsBatch fails db arrange ids

end Handlers

end RcProtocol.Brands
