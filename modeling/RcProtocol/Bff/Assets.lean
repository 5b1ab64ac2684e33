import RcProtocol.Api.Listings

/-!
The list of a consumer's assets (handler/app_asset.go): one request to rc-api for the
page, one for the names of the brands on it.
-/

namespace RcProtocol.Bff
open Library

/-- `StateLabel` and its default. -/
def mapState : String → String
  | "PreMinted" => "预铸造"
  | "FactoryLogged" => "已登记"
  | "Unassigned" => "待分配"
  | "RotatingKeys" => "密钥轮换中"
  | "EntangledPending" => "绑定确认中"
  | "Activated" => "已激活"
  | "LegallySold" => "已售出"
  | "Transferred" => "已过户"
  | "Consumed" => "已消费"
  | "Legacy" => "传承遗珍"
  | "Disputed" => "争议中"
  | "Tampered" => "已篡改"
  | "Compromised" => "已失陷"
  | "Destructed" => "已销毁"
  | _ => "未知状态"

def mapBadges : String → List String
  | "Activated" | "LegallySold" | "Transferred" => ["verified"]
  | "Disputed" => ["frozen"]
  | _ => []

structure AssetVM where
  assetID : String
  brandName : String
  productName : String
  state : String
  stateLabel : String
  displayBadges : List String
  thumbnailURL : String
  externalProductID : Option String
  externalProductName : Option String
  externalProductURL : Option String

structure ListBody where
  items : List AssetVM
  total : Nat
  page : Int
  pageSize : Int

/-- A query parameter that is missing or no number is none. -/
def queryInt (value : Option Int) (defaultVal : Int) : Int :=
  match value with
  | none => defaultVal
  | some n => if n ≤ 0 then defaultVal else n

def parsePagination (page pageSize : Option Int) : Int × Int :=
  (queryInt page 1, min 100 (queryInt pageSize 20))

def resolveProductDisplayName (productID : String) (externalProductName : Option String) : String :=
  match externalProductName with
  | some name => if name ≠ "" then name else productID
  | none => productID

/-- A field of the query of rc-api; a second one is an error. -/
def queryField (name : String) (pairs : List (String × String)) : Option (Option String) :=
  match pairs.filter (·.1 = name) with
  | [] => some none
  | [(_, value)] => some (some value)
  | _ => none

/-- The query rc-api reads of the URL: the two numbers, and whatever pairs the subject
at its end turns into. A field of another name is ignored. -/
def assetListQuery (page pageSize : Int) (rest : List (String × String)) :
    Option AssetListQuery := do
  if rest.any fun p => p.1 = "page" ∨ p.1 = "page_size" then none
  else
    let brandId ← queryField "brand_id" rest
    let batchId ← queryField "batch_id" rest
    let currentState ← queryField "current_state" rest
    some
      { page := some page
        pageSize := some pageSize
        brandId := brandId
        batchId := batchId
        currentState := currentState }

section Handler
variable (carried : String → Option (List (String × String)))
    (brandNames : List String → String → String)
  (fails : ReadQuery → Option String) (s : Catalogue) (actor : ActorContext)

/-- The answer of rc-api to `GET /assets?page=…&page_size=…&owner_id=…`, unless the request
does not get there or is not answered with 200. -/
def upstreamAssets (page pageSize : Int) (sub : String) :
    Option (PaginatedResponse AssetDetail) := do
  let rest ← carried sub
  let query ← assetListQuery page pageSize rest
  match RcProtocol.listAssets fails s actor query with
  | .ok (some response) => some response
  | _ => none

/-- An item; rc-api sends neither a product id nor a thumbnail. -/
def assetVM (names : String → String) (a : AssetDetail) : AssetVM where
  assetID := a.assetId
  brandName := if names a.brandId = "" then a.brandId else names a.brandId
  productName := resolveProductDisplayName "" a.externalProductName
  state := a.currentState.asDbStr
  stateLabel := mapState a.currentState.asDbStr
  displayBadges := mapBadges a.currentState.asDbStr
  thumbnailURL := ""
  externalProductID := a.externalProductId
  externalProductName := a.externalProductName
  externalProductURL := a.externalProductUrl

/-- `ListAssets` for the subject of the claims and the two query parameters. -/
def listAssets (sub : String) (page pageSize : Option Int) : ListBody :=
  let (page, pageSize) := parsePagination page pageSize
  match upstreamAssets carried fails s actor page pageSize sub with
  | none => ⟨[], 0, page, pageSize⟩
  | some response =>
      let names := brandNames (response.items.map (·.brandId)).dedup
      ⟨response.items.map (assetVM names), response.total, page, pageSize⟩

end Handler

end RcProtocol.Bff
