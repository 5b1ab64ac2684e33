import RcProtocol.Bff.Assets
import RcProtocol.Brands.Reads

/-!
The names of the brands, as go-bff asks rc-api for them (upstream/client.go): those of a list of
assets at once, that of a single asset alone. Where there is no name, the id is shown.
-/

namespace RcProtocol.Bff
open Library Brands

/-- `GetBrandNameWithGatewayAuth`, from the answer to the one request. -/
def getBrandName (answer : Option BrandDetailResponse) (brandID : String) : String :=
  match answer with
  | none => brandID
  | some brand => if brand.brandName = "" then brandID else brand.brandName

/-- The map of the names; a later item takes the place of an earlier one. -/
def namesOf (items : List BrandResponse) : String → String :=
  items.foldl
    (fun result item =>
      if item.brandName ≠ "" then Function.update result item.brandId item.brandName else result)
    fun _ => ""

/-- `GetBrandNamesBatchWithGatewayAuth`, where `answer` is that to the request with these ids. -/
def getBrandNamesBatch (answer : String → Option (List BrandResponse)) (brandIDs : List String) :
    String → String :=
  if brandIDs = [] then fun _ => ""
  else
    match answer (",".intercalate brandIDs) with
    | none => fun _ => ""
    | some items => namesOf items

section Upstream
variable (carried : String → Option (List (String × String))) (fails : Option DbError)
  (arrange : List BrandRow → List BrandRow) (db : KeyDb)

/-- The answer of rc-api to `GET /brands/batch?ids=…`, unless the request does not get there or is
not answered with 200; `carried` are the pairs the ids turn into on the way. -/
def upstreamBrandsBatch (ids : String) : Option (List BrandResponse) := do
  let pairs ← carried ids
  let value ← (queryField "ids" pairs).join
  (batchBrands fails db arrange value).toOption

/-- The answer to `GET /brands/{brandId}`. -/
def upstreamBrand (actor : ActorContext) (brandID : String) : Option BrandDetailResponse :=
  (getBrand fails db actor brandID).toOption

/-- The names on a page; a map of Go is gone through in any order. -/
def brandNames (shuffle : List String → List String) (brandIDs : List String) : String → String :=
  getBrandNamesBatch (upstreamBrandsBatch carried fails arrange db) (shuffle brandIDs)

end Upstream

end RcProtocol.Bff
