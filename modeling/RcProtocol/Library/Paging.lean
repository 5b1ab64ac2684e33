import Mathlib.Data.List.Basic
import Mathlib.Data.List.Flatten
import Mathlib.Tactic.Common

/-!
A list read page by page. Pages are numbered from zero; the pages up to one that covers
the list are the whole list, each row once.
-/

namespace RcProtocol.Library

section
variable {α : Type} {size n k : Nat} {rows : List α} {a : α}

/-- `LIMIT size OFFSET offset`. -/
def slice (size offset : Nat) (rows : List α) : List α := (rows.drop offset).take size

theorem mem_of_mem_slice {offset : Nat} (h : a ∈ slice size offset rows) : a ∈ rows :=
  List.mem_of_mem_drop (List.mem_of_mem_take h)

theorem slice_eq_nil_iff {offset : Nat} (hsize : 0 < size) :
    slice size offset rows = [] ↔ rows.length ≤ offset := by
  rw [slice, List.take_eq_nil_iff, List.drop_eq_nil_iff]
  constructor
  · intro h
    obtain hzero | hlength := h
    · omega
    · exact hlength
  · exact .inr

theorem take_append_slice {offset : Nat} :
    rows.take offset ++ slice size offset rows = rows.take (offset + size) := by
  rw [slice, List.take_add]

/-- The first pages one after the other. -/
theorem flatMap_slice (size k : Nat) (rows : List α) :
    ((List.range k).flatMap fun n => slice size (n * size) rows) = rows.take (k * size) := by
  induction k with
  | zero => simp
  | succ k ih =>
      rw [List.range_succ, List.flatMap_append, ih, List.flatMap_singleton, take_append_slice,
        Nat.succ_mul]

/-- The pages that cover the list are the list. -/
theorem flatMap_slice_all (h : rows.length ≤ k * size) :
    ((List.range k).flatMap fun n => slice size (n * size) rows) = rows := by
  rw [flatMap_slice, List.take_of_length_le h]

end

end RcProtocol.Library
