import RcProtocol.Api.Pagination
import RcProtocol.Workorders.Pagination

/-!
The pages rc-api and the workorder service take from a query string. Page and size are
always within their bounds; the offset is exact as long as page and size are small enough
for their product.
-/

namespace RcProtocol
open Library

/-- The page that is asked for, and the rows to skip before it. -/
structure PageAsked where
  page : Int
  pageSize : Int
  offset : Int

def PaginationParams.asked (params : PaginationParams) : Wrapping PageAsked := do
  let offset ← params.computeOffset
  pure ⟨params.getPage, params.getPageSize, offset⟩

def Workorders.asked (query : List UInt8) : Wrapping PageAsked := do
  let (page, pageSize) ← parsePagination query
  let offset ← listOffset page pageSize
  pure ⟨page, pageSize, offset⟩

/-- No result is out of range, and page, size and offset are what they should be. -/
structure Exact (asked : Wrapping PageAsked) : Prop where
  fits : asked.fits = true
  page : 1 ≤ asked.value.page
  pageSize : 1 ≤ asked.value.pageSize ∧ asked.value.pageSize ≤ 100
  offset_nonneg : 0 ≤ asked.value.offset
  offset : asked.value.offset = (asked.value.page - 1) * asked.value.pageSize

/-- The offset of the page in the query, of rows in pages of the size in it, is an i64. -/
def PaginationParams.Short (params : PaginationParams) : Prop :=
  ∀ n ∈ params.page, (n - 1) * max 1 (min 100 (params.pageSize.getD 20)) < 2 ^ 63

/-- The digits of the query are read without overflow, and the offset is a 64-bit integer. -/
def Workorders.Short (query : List UInt8) : Prop :=
  queryDigits query "page" < 2 ^ 63 ∧ queryDigits query "page_size" < 2 ^ 63 ∧
    ((queryNumber query "page").getD 1 - 1) * min 100 ((queryNumber query "page_size").getD 20) <
      2 ^ 63

variable {params : PaginationParams} {query : List UInt8} {page pageSize : Int}

theorem mul_range (hpage : 0 ≤ page) (hsize : 0 ≤ pageSize) :
    InInt64 (page * pageSize) ↔ page * pageSize < 2 ^ 63 := by
  have hnonneg := Int.mul_nonneg hpage hsize
  constructor
  · intro h
    exact h.2
  · intro h
    exact ⟨by omega, h⟩

/-- Page and size within their bounds: the product decides. -/
theorem exact_iff_mul {skip : Wrapping Int} (hpage : 1 ≤ page)
    (hsize : 1 ≤ pageSize ∧ pageSize ≤ 100) (hskip : skip = .int64 ((page - 1) * pageSize)) :
    Exact (do
      let offset ← skip
      pure ⟨page, pageSize, offset⟩) ↔ (page - 1) * pageSize < 2 ^ 63 := by
  have hrange : InInt64 ((page - 1) * pageSize) ↔ _ := mul_range (by omega) (by omega)
  rw [hskip, ← hrange]
  constructor
  · intro h
    exact (Wrapping.fits_int64_bind.mp h.fits).1
  · intro h
    rw [Wrapping.int64_bind h]
    exact ⟨rfl, hpage, hsize, Int.mul_nonneg (by omega) (by omega), rfl⟩

theorem getPageSize_range (params : PaginationParams) :
    1 ≤ params.getPageSize ∧ params.getPageSize ≤ 100 := by
  rw [PaginationParams.getPageSize]
  omega

theorem exact_asked_iff (hrange : ∀ n ∈ params.page, InInt64 n) :
    Exact params.asked ↔ params.Short := by
  have hpage : 1 ≤ params.getPage := le_max_left _ _
  have hskip : params.computeOffset = .int64 ((params.getPage - 1) * params.getPageSize) := by
    rw [PaginationParams.computeOffset]
    exact Wrapping.int64_bind (PaginationParams.getPage_range hrange) _
  rw [PaginationParams.asked, exact_iff_mul hpage (getPageSize_range params) hskip,
    PaginationParams.Short, PaginationParams.getPageSize, PaginationParams.getPage]
  cases params.page with
  | none => simp
  | some n =>
      simp only [Option.getD_some, Option.mem_some_iff, forall_eq']
      generalize hsize : max 1 (min 100 (params.pageSize.getD 20)) = size
      by_cases hn : 1 ≤ n
      · rw [max_eq_right hn]
      · have hzero : max 1 n = 1 := max_eq_left (by omega)
        have hneg : (n - 1) * size ≤ 0 := Int.mul_nonpos_of_nonpos_of_nonneg (by omega) (by omega)
        rw [hzero]
        simp only [Int.sub_self, Int.zero_mul]
        omega

theorem exact_accepted_iff {texts : List String} :
    (∀ params, PaginationParams.ofQuery texts query = some params → Exact params.asked) ↔
      ∀ params, PaginationParams.ofQuery texts query = some params → params.Short := by
  constructor
  · intro h params hparams
    exact (exact_asked_iff (PaginationParams.page_range hparams)).mp (h params hparams)
  · intro h params hparams
    exact (exact_asked_iff (PaginationParams.page_range hparams)).mpr (h params hparams)

theorem exact_bind {α : Type} {x : Wrapping α} {f : α → Wrapping PageAsked} :
    Exact (x >>= f) ↔ x.fits = true ∧ Exact (f x.value) := by
  constructor
  · intro h
    have hfits := h.fits
    rw [Wrapping.fits_bind, Bool.and_eq_true] at hfits
    exact ⟨hfits.1, hfits.2, h.page, h.pageSize, h.offset_nonneg, h.offset⟩
  · intro h
    obtain ⟨hx, hf⟩ := h
    refine ⟨?_, hf.page, hf.pageSize, hf.offset_nonneg, hf.offset⟩
    rw [Wrapping.fits_bind, hx, hf.fits]
    rfl

namespace Workorders

theorem exact_asked_iff : Exact (asked query) ↔ Short query := by
  rw [asked, exact_bind, fits_parsePagination, Short, and_assoc]
  apply and_congr_right
  intro hpage
  apply and_congr_right
  intro hsize
  rw [value_parsePagination hpage hsize]
  have hfirst : 1 ≤ (queryNumber query "page").getD 1 ∧ (queryNumber query "page").getD 1 < 2 ^ 63 := by
    cases hn : queryNumber query "page" with
    | none => decide
    | some n => exact ⟨queryNumber_pos hn, queryNumber_lt hpage hn⟩
  have hsecond : 1 ≤ (queryNumber query "page_size").getD 20 := by
    cases hn : queryNumber query "page_size" with
    | none => decide
    | some n => exact queryNumber_pos hn
  generalize (queryNumber query "page").getD 1 = n at hfirst ⊢
  generalize (queryNumber query "page_size").getD 20 = m at hsecond ⊢
  have hskip : listOffset (n : Int) (min 100 (m : Int)) =
      .int64 (((n : Int) - 1) * min 100 (m : Int)) := by
    have hrange : InInt64 ((n : Int) - 1) := ⟨by omega, by omega⟩
    exact Wrapping.int64_bind hrange _
  dsimp only
  rw [exact_iff_mul (by omega) (by omega) hskip]
  have hcast : ((n : Int) - 1) * min 100 (m : Int) = ((n - 1) * min 100 m : Nat) := by
    have hmin : min 100 (m : Int) = (min 100 m : Nat) := by omega
    rw [Int.natCast_mul, Int.natCast_sub hfirst.1, hmin]
    rfl
  rw [hcast]
  omega

end Workorders

/-- Every query that is accepted asks for an exact page, exactly if the offset it asks for
is an i64 and, for the workorder service, its digits are read without overflow. -/
theorem pages_exact_iff (query : List UInt8) :
    ((∀ params, AssetListQuery.ofQuery query = some params → Exact params.asked) ↔
        ∀ params, AssetListQuery.ofQuery query = some params → params.Short) ∧
      ((∀ params, batchParamsOfQuery query = some params → Exact params.asked) ↔
        ∀ params, batchParamsOfQuery query = some params → params.Short) ∧
      ((∀ params, brandParamsOfQuery query = some params → Exact params.asked) ↔
        ∀ params, brandParamsOfQuery query = some params → params.Short) ∧
      (Exact (Workorders.asked query) ↔ Workorders.Short query) :=
  ⟨exact_accepted_iff, exact_accepted_iff, exact_accepted_iff, Workorders.exact_asked_iff⟩

/-- The last page number there is, in pages of the largest size. -/
theorem last_page_wraps : ¬∀ query : List UInt8,
    (∀ params, AssetListQuery.ofQuery query = some params → Exact params.asked) ∧
      (∀ params, batchParamsOfQuery query = some params → Exact params.asked) ∧
        (∀ params, brandParamsOfQuery query = some params → Exact params.asked) ∧
          Exact (Workorders.asked query) := by
  intro hall
  obtain ⟨hassets, -⟩ := hall (utf8 "page=9223372036854775807&page_size=100")
  have hfits := (hassets ⟨some 9223372036854775807, some 100⟩ rfl).fits
  revert hfits
  decide

end RcProtocol
