import Mathlib.Order.MinMax
import Mathlib.Tactic.Common

/-!
A register that a value enters only if it is above the one that is there. Whatever is
offered and in whatever order, what enters increases, and the register holds the largest.
-/

namespace RcProtocol.Library

/-- From the first content of the register these values entered, one after another, and
the last content is what is there now. -/
inductive Raised {ν : Type} [LinearOrder ν] (first : Option ν) : List ν → Option ν → Prop
  | first : Raised first [] first
  | enter {vs : List ν} {last : Option ν} (run : Raised first vs last) (v : ν)
      (h : ∀ m ∈ last, m < v) : Raised first (vs ++ [v]) (some v)

namespace Raised
variable {ν : Type} [LinearOrder ν] {first last : Option ν} {vs : List ν}

/-- The register never falls below what it was first, or what has entered. -/
theorem exists_ge (run : Raised first vs last) {m : ν} (hm : m ∈ first ∨ m ∈ vs) :
    ∃ n ∈ last, m ≤ n := by
  induction run with
  | first =>
      rcases hm with hm | hm
      · exact ⟨m, hm, le_rfl⟩
      · exact absurd hm List.not_mem_nil
  | @enter vs last run v h ih =>
      refine ⟨v, rfl, ?_⟩
      by_cases hv : m ∈ first ∨ m ∈ vs
      · obtain ⟨n, hn, hmn⟩ := ih hv
        exact hmn.trans (h n hn).le
      · rcases hm with hm | hm
        · exact absurd (.inl hm) hv
        · rcases List.mem_append.mp hm with hm | hm
          · exact absurd (.inr hm) hv
          · exact (List.mem_singleton.mp hm).le

/-- A value that enters is above everything before it. -/
theorem lt_enter (run : Raised first vs last) {v m : ν} (h : ∀ m ∈ last, m < v)
    (hm : m ∈ first ∨ m ∈ vs) : m < v := by
  obtain ⟨n, hn, hmn⟩ := run.exists_ge hm
  exact hmn.trans_lt (h n hn)

theorem increasing (run : Raised first vs last) : vs.Pairwise (· < ·) := by
  induction run with
  | first => exact .nil
  | enter run v h ih =>
      refine List.pairwise_append.mpr ⟨ih, List.pairwise_singleton _ _, ?_⟩
      intro m hm w hw
      obtain rfl := List.mem_singleton.mp hw
      exact run.lt_enter h (.inr hm)

theorem above (run : Raised first vs last) {v m : ν} (hv : v ∈ vs) (hm : m ∈ first) : m < v := by
  induction run with
  | first => exact absurd hv List.not_mem_nil
  | enter run w h ih =>
      rcases List.mem_append.mp hv with hv | hv
      · exact ih hv
      · obtain rfl := List.mem_singleton.mp hv
        exact run.lt_enter h (.inl hm)

/-- The register holds the largest value that entered, or still the first. -/
theorem last_eq (run : Raised first vs last) : last = vs.max?.or first := by
  cases run with
  | first => rfl
  | @enter vs last run v h =>
      have hmax : (vs ++ [v]).max? = some v := by
        apply List.max?_eq_some_iff.mpr
        refine ⟨List.mem_append_right _ (List.mem_singleton_self v), fun m hm => ?_⟩
        rcases List.mem_append.mp hm with hm | hm
        · exact (run.lt_enter h (.inr hm)).le
        · exact (List.mem_singleton.mp hm).le
      rw [hmax, Option.some_or]

end Raised

end RcProtocol.Library
