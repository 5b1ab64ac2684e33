import RcProtocol.Library.QueryString
import RcProtocol.Library.Wrapping

/-!
What the workorder service reads of a query string (handler/response.go), and the offset of
its list (repo/workorder.go), with the overflows of the arithmetic.
-/

namespace RcProtocol.Workorders
open Library

/-- The loop over the characters, which ends at the first that is no digit. -/
def readLoop (n : Int) : List Char → Wrapping (Option Int)
  | [] => pure (some n)
  | c :: cs =>
      match decimalDigit c with
      | none => pure none
      | some d => do
          let tenfold ← .int64 (n * 10)
          let next ← .int64 (tenfold + d)
          readLoop next cs

def queryInt (query : List UInt8) (key : String) (defaultVal : Int) : Wrapping Int :=
  let v := getFirst (parseQuery query) key
  if v = [] then pure defaultVal
  else do
    match ← readLoop 0 (asChars v) with
    | none => pure defaultVal
    | some n => pure (if n = 0 then defaultVal else n)

def parsePagination (query : List UInt8) : Wrapping (Int × Int) := do
  let page ← queryInt query "page" 1
  let pageSize ← queryInt query "page_size" 20
  let page := if page < 1 then 1 else page
  let pageSize := if pageSize < 1 then 20 else pageSize
  let pageSize := if 100 < pageSize then 100 else pageSize
  pure (page, pageSize)

/-- The offset of `List`. -/
def listOffset (page pageSize : Int) : Wrapping Int := do
  let skipped ← .int64 (page - 1)
  .int64 (skipped * pageSize)

/-- The number of the digits that come first. -/
def leadingDigits (n : Nat) : List Char → Nat
  | [] => n
  | c :: cs =>
      match decimalDigit c with
      | none => n
      | some d => leadingDigits (10 * n + d) cs

variable {cs : List Char} {n : Nat} {query : List UInt8} {key : String} {defaultVal : Int}

theorem le_leadingDigits (n : Nat) (cs : List Char) : n ≤ leadingDigits n cs := by
  induction cs generalizing n with
  | nil => exact Nat.le_refl n
  | cons c cs ih =>
      rw [leadingDigits]
      cases decimalDigit c with
      | none => exact Nat.le_refl n
      | some d =>
          have hle := ih (10 * n + d)
          dsimp only
          omega

/-- By induction on the characters: the numbers only grow, so it is the last that counts. -/
theorem fits_readLoop (hn : n < 2 ^ 63) :
    (readLoop n cs).fits = true ↔ leadingDigits n cs < 2 ^ 63 := by
  induction cs generalizing n with
  | nil =>
      rw [leadingDigits]
      exact iff_of_true rfl hn
  | cons c cs ih =>
      rw [readLoop, leadingDigits]
      cases decimalDigit c with
      | none => exact iff_of_true rfl hn
      | some d =>
          have hle := le_leadingDigits (10 * n + d) cs
          have hnext : ((n : Int) * 10 + d) = (10 * n + d : Nat) := by omega
          dsimp only
          rw [Wrapping.fits_int64_bind, Wrapping.fits_int64_bind, hnext]
          constructor
          · intro h
            obtain ⟨-, hrange, hfits⟩ := h
            exact (ih (by have hlt := hrange.2; omega)).mp hfits
          · intro h
            have hlt : 10 * n + d < 2 ^ 63 := Nat.lt_of_le_of_lt hle h
            refine ⟨⟨by omega, by omega⟩, ⟨by omega, by omega⟩, (ih hlt).mpr h⟩

theorem value_readLoop (h : leadingDigits n cs < 2 ^ 63) :
    (readLoop n cs).value = (readDigits n cs).map Int.ofNat := by
  induction cs generalizing n with
  | nil => rfl
  | cons c cs ih =>
      rw [leadingDigits] at h
      rw [readLoop, readDigits]
      cases hd : decimalDigit c with
      | none => rfl
      | some d =>
          rw [hd] at h
          have hle := le_leadingDigits (10 * n + d) cs
          have hlt : 10 * n + d < 2 ^ 63 := Nat.lt_of_le_of_lt hle h
          have hnext : ((n : Int) * 10 + d) = (10 * n + d : Nat) := by omega
          dsimp only
          rw [Wrapping.int64_bind ⟨by omega, by omega⟩, hnext,
            Wrapping.int64_bind ⟨by omega, by omega⟩, ih h]
          rfl

theorem leadingDigits_of_readDigits {m : Nat} (h : readDigits n cs = some m) :
    leadingDigits n cs = m := by
  induction cs generalizing n with
  | nil => exact Option.some.inj h
  | cons c cs ih =>
      rw [readDigits] at h
      rw [leadingDigits]
      cases hd : decimalDigit c with
      | none =>
          rw [hd] at h
          cases h
      | some d =>
          rw [hd] at h
          exact ih h

/-- The number of the query, if it has one that is positive. -/
def queryNumber (query : List UInt8) (key : String) : Option Nat :=
  (readNat (asChars (getFirst (parseQuery query) key))).filter (· ≠ 0)

/-- What is read of the value before the first character that is no digit. -/
def queryDigits (query : List UInt8) (key : String) : Nat :=
  leadingDigits 0 (asChars (getFirst (parseQuery query) key))

theorem fits_queryInt : (queryInt query key defaultVal).fits = true ↔ queryDigits query key < 2 ^ 63 := by
  rw [queryInt, queryDigits]
  by_cases hempty : getFirst (parseQuery query) key = []
  · rw [if_pos hempty, hempty]
    exact iff_of_true rfl (by decide)
  · rw [if_neg hempty, Wrapping.fits_bind, Bool.and_eq_true, ← fits_readLoop (by decide)]
    constructor
    · intro h
      exact h.1
    · intro h
      refine ⟨h, ?_⟩
      split
      · rfl
      · rfl

theorem value_queryInt (h : queryDigits query key < 2 ^ 63) :
    (queryInt query key defaultVal).value =
      ((queryNumber query key).map Int.ofNat).getD defaultVal := by
  rw [queryInt, queryNumber]
  by_cases hempty : getFirst (parseQuery query) key = []
  · rw [if_pos hempty, hempty]
    rfl
  · have hchars : asChars (getFirst (parseQuery query) key) ≠ [] := by
      rw [asChars, ne_eq, List.map_eq_nil_iff]
      exact hempty
    have hvalue : (readLoop 0 (asChars (getFirst (parseQuery query) key))).value = _ :=
      value_readLoop h
    rw [if_neg hempty, Wrapping.value_bind, hvalue, readNat, if_neg hchars]
    cases readDigits 0 (asChars (getFirst (parseQuery query) key)) with
    | none => rfl
    | some n =>
        by_cases hzero : n = 0
        · simp [hzero, Option.filter]
        · simp [hzero, Option.filter]

theorem queryNumber_pos (h : queryNumber query key = some n) : 0 < n := by
  have hne := (Option.filter_eq_some_iff.mp h).2
  exact Nat.pos_of_ne_zero (of_decide_eq_true hne)

theorem queryNumber_lt (hdigits : queryDigits query key < 2 ^ 63)
    (h : queryNumber query key = some n) :
    n < 2 ^ 63 := by
  have hread := (Option.filter_eq_some_iff.mp h).1
  rw [readNat] at hread
  split at hread
  · cases hread
  · rwa [queryDigits, leadingDigits_of_readDigits hread] at hdigits

theorem fits_parsePagination : (parsePagination query).fits = true ↔
    queryDigits query "page" < 2 ^ 63 ∧ queryDigits query "page_size" < 2 ^ 63 := by
  rw [← @fits_queryInt query "page" 1, ← @fits_queryInt query "page_size" 20, parsePagination]
  simp only [Wrapping.fits_bind, Wrapping.fits_pure, Bool.and_true, Bool.and_eq_true]

theorem value_parsePagination (hpage : queryDigits query "page" < 2 ^ 63)
    (hsize : queryDigits query "page_size" < 2 ^ 63) :
    (parsePagination query).value = (((queryNumber query "page").getD 1 : Int),
      (min 100 ((queryNumber query "page_size").getD 20) : Int)) := by
  rw [parsePagination, Wrapping.value_bind, Wrapping.value_bind, value_queryInt hpage,
    value_queryInt hsize, Wrapping.value_pure]
  have hfirst : (if ((queryNumber query "page").map Int.ofNat).getD 1 < 1 then 1
      else ((queryNumber query "page").map Int.ofNat).getD 1) =
        ((queryNumber query "page").getD 1 : Int) := by
    cases hn : queryNumber query "page" with
    | none => rfl
    | some n =>
        have hpos := queryNumber_pos hn
        simp only [Option.map_some, Option.getD_some, Int.ofNat_eq_natCast]
        omega
  have hsecond : (if ((queryNumber query "page_size").map Int.ofNat).getD 20 < 1 then 20
      else ((queryNumber query "page_size").map Int.ofNat).getD 20) =
        ((queryNumber query "page_size").getD 20 : Int) := by
    cases hn : queryNumber query "page_size" with
    | none => rfl
    | some n =>
        have hpos := queryNumber_pos hn
        simp only [Option.map_some, Option.getD_some, Int.ofNat_eq_natCast]
        omega
  rw [hfirst, hsecond]
  refine Prod.ext rfl ?_
  dsimp only
  omega

end RcProtocol.Workorders
