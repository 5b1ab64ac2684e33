import RcProtocol.Api.Listings
import RcProtocol.Library.QueryString
import RcProtocol.Library.Wrapping

/-!
What the lists of rc-api read of a query string (axum's `Query`), and the arithmetic of
their pages with its overflows (routes/assets.rs, routes/batch.rs, routes/brand.rs).
-/

namespace RcProtocol
open Library

/-- The value of a field, if it has one; a field that comes twice is refused. -/
def queryField (pairs : List (List UInt8 × List UInt8)) (name : String) :
    Option (Option (List UInt8)) :=
  match pairs.filter (·.1 = utf8 name) with
  | [] => some none
  | [(_, value)] => some (some value)
  | _ => none

def queryI64 (pairs : List (List UInt8 × List UInt8)) (name : String) : Option (Option Int) :=
  match queryField pairs name with
  | none => none
  | some none => some none
  | some (some value) => (readInt64 (String.ofList (asChars value))).map some

namespace PaginationParams

/-- The numbers of a query that is accepted, which may have these texts besides. -/
def ofQuery (texts : List String) (query : List UInt8) : Option PaginationParams :=
  let pairs := formPairs query
  if texts.all fun name => (queryField pairs name).isSome then
    (queryI64 pairs "page").bind fun page =>
      (queryI64 pairs "page_size").map fun pageSize => ⟨page, pageSize⟩
  else none

/-- The offset as it is computed. -/
def computeOffset (params : PaginationParams) : Wrapping Int := do
  let skipped ← .int64 (params.getPage - 1)
  .int64 (skipped * params.getPageSize)

end PaginationParams

/-- `AssetListQuery`. -/
def AssetListQuery.ofQuery (query : List UInt8) : Option PaginationParams :=
  PaginationParams.ofQuery ["brand_id", "batch_id", "current_state"] query

/-- `PaginationParams` of routes/batch.rs. -/
def batchParamsOfQuery (query : List UInt8) : Option PaginationParams :=
  PaginationParams.ofQuery [] query

/-- `PaginationParams` of routes/brand.rs. -/
def brandParamsOfQuery (query : List UInt8) : Option PaginationParams :=
  PaginationParams.ofQuery [] query

variable {pairs : List (List UInt8 × List UInt8)} {texts : List String} {query : List UInt8}
  {params : PaginationParams} {name : String} {n : Int}

theorem queryI64_range (h : queryI64 pairs name = some (some n)) : InInt64 n := by
  rw [queryI64] at h
  split at h
  · cases h
  · cases h
  · obtain ⟨m, hm, hn⟩ := Option.map_eq_some_iff.mp h
    obtain rfl := Option.some.inj hn
    exact readInt64_range hm

theorem PaginationParams.page_range (h : ofQuery texts query = some params) :
    ∀ n ∈ params.page, InInt64 n := by
  intro n hn
  dsimp only [ofQuery] at h
  split at h
  · obtain ⟨page, hpage, h⟩ := Option.bind_eq_some_iff.mp h
    obtain ⟨pageSize, -, rfl⟩ := Option.map_eq_some_iff.mp h
    exact queryI64_range (hpage.trans (congrArg some hn))
  · cases h

theorem PaginationParams.getPage_range (h : ∀ n ∈ params.page, InInt64 n) :
    InInt64 (params.getPage - 1) := by
  rw [getPage]
  cases hpage : params.page with
  | none => decide
  | some n =>
      obtain ⟨hlow, hhigh⟩ := h n hpage
      rw [Option.getD_some]
      constructor
      · omega
      · omega

/-- The value of the offset is the one the handlers pass on. -/
theorem PaginationParams.computeOffset_value (h : ∀ n ∈ params.page, InInt64 n) :
    params.computeOffset.value = params.offset := by
  rw [computeOffset, Wrapping.int64_bind (getPage_range h)]
  rfl

end RcProtocol
