import Mathlib.Algebra.Group.Nat.Defs
import RcProtocol.Library.Numerals

/-!
Arithmetic of 64 bits as it is compiled: a result that is out of range wraps around, and
the computation keeps whether one was.
-/

namespace RcProtocol.Library

structure Wrapping (α : Type) where
  value : α
  fits : Bool

namespace Wrapping
variable {α β : Type} {n : Int}

instance : Monad Wrapping where
  pure a := ⟨a, true⟩
  bind x f := ⟨(f x.value).value, x.fits && (f x.value).fits⟩

/-- The result whose exact value this is. -/
def int64 (n : Int) : Wrapping Int := ⟨n.bmod (2 ^ 64), InInt64 n⟩

@[simp] theorem value_pure (a : α) : (pure a : Wrapping α).value = a := rfl

@[simp] theorem fits_pure (a : α) : (pure a : Wrapping α).fits = true := rfl

@[simp] theorem value_bind (x : Wrapping α) (f : α → Wrapping β) :
    (x >>= f).value = (f x.value).value := rfl

@[simp] theorem fits_bind (x : Wrapping α) (f : α → Wrapping β) :
    (x >>= f).fits = (x.fits && (f x.value).fits) := rfl

theorem fits_int64 : (int64 n).fits = true ↔ InInt64 n := decide_eq_true_iff

theorem int64_eq (h : InInt64 n) : int64 n = pure n := by
  have hvalue : n.bmod (2 ^ 64) = n := by
    obtain ⟨hlow, hhigh⟩ := h
    exact Int.bmod_eq_of_le (by omega) (by omega)
  have hfits : (int64 n).fits = true := fits_int64.mpr h
  rw [int64] at hfits ⊢
  rw [hvalue]
  exact congrArg (Wrapping.mk n) hfits

/-- What fits goes on with its exact value. -/
theorem int64_bind (h : InInt64 n) (f : Int → Wrapping β) : int64 n >>= f = f n := by
  rw [int64_eq h]
  have hfits : (true && (f n).fits) = (f n).fits := Bool.true_and _
  exact congrArg (Wrapping.mk _) hfits

theorem fits_int64_bind {f : Int → Wrapping β} :
    (int64 n >>= f).fits = true ↔ InInt64 n ∧ (f n).fits = true := by
  constructor
  · intro h
    have hfits := h
    rw [fits_bind, Bool.and_eq_true] at hfits
    have hn := fits_int64.mp hfits.1
    rw [int64_bind hn] at h
    exact ⟨hn, h⟩
  · intro h
    rw [int64_bind h.1]
    exact h.2

end Wrapping

end RcProtocol.Library
