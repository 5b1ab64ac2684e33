import RcProtocol.Library.Paging
import Mathlib.Data.List.Sort
import Mathlib.Data.List.Nodup

/-!
Places in sorted lists. The place of an item is the number of items before it, whatever list
the order was made from, so that two orders of the same items are compared by counting.
-/

namespace RcProtocol.Library
variable {α : Type} {r : α → α → Prop} [DecidableRel r] {l l' : List α} {a x : α}

theorem idxOf_eq_countP [DecidableEq α] (hsorted : l.Pairwise r) (hasymm : ∀ a b, r a b → ¬r b a)
    (hx : x ∈ l) : l.idxOf x = l.countP fun a => r a x := by
  have hirrefl : ¬r x x := fun h => hasymm x x h h
  induction l with
  | nil => cases hx
  | cons a l ih =>
      have hafter := List.pairwise_cons.mp hsorted
      by_cases ha : a = x
      · subst ha
        have hnone : l.countP (fun b => r b a) = 0 := by
          rw [List.countP_eq_zero]
          intro b hb
          simpa using hasymm a b (hafter.1 b hb)
        rw [List.idxOf_cons_self, List.countP_cons_of_neg (by simpa using hirrefl), hnone]
      · have hmem : x ∈ l := (List.mem_cons.mp hx).resolve_left (Ne.symm ha)
        have hbefore : r a x := hafter.1 x hmem
        rw [List.idxOf_cons_ne l ha, List.countP_cons_of_pos (by simpa using hbefore),
          ih hafter.2 hmem]

theorem countP_or {p q : α → Prop} [DecidablePred p] [DecidablePred q] (h : ∀ a, p a → ¬q a) :
    l.countP (fun a => p a ∨ q a) = l.countP p + l.countP q := by
  induction l with
  | nil => rfl
  | cons a l ih =>
      simp only [List.countP_cons, ih, decide_eq_true_eq]
      by_cases hp : p a
      · simp only [hp, h a hp, or_false, if_true, if_false]
        omega
      · simp only [hp, false_or, if_false]
        omega

/-- An item that is comparable with the others is put in its place. -/
theorem pairwise_orderedInsert (htrans : ∀ a b c, r a b → r b c → r a c) (hsorted : l.Pairwise r)
    (hconnex : ∀ b ∈ l, ¬r a b → r b a) : (l.orderedInsert r a).Pairwise r := by
  induction l with
  | nil => exact List.pairwise_singleton r a
  | cons b l ih =>
      have hafter := List.pairwise_cons.mp hsorted
      by_cases hab : r a b
      · rw [List.orderedInsert_cons_of_le r l hab, List.pairwise_cons]
        refine ⟨?_, hsorted⟩
        intro c hc
        obtain rfl | hc := List.mem_cons.mp hc
        · exact hab
        · exact htrans a b c hab (hafter.1 c hc)
      · have hrest := ih hafter.2 fun c hc => hconnex c (List.mem_cons_of_mem b hc)
        rw [List.orderedInsert_of_not_le r l hab, List.pairwise_cons]
        refine ⟨?_, hrest⟩
        intro c hc
        obtain rfl | hc := (List.mem_orderedInsert r).mp hc
        · exact hconnex b List.mem_cons_self hab
        · exact hafter.1 c hc

/-- Two orders of the same items agree on a page exactly where each of its items has the
same place in both. -/
theorem slice_eq_iff [DecidableEq α] {size offset : Nat} (hl : l.Nodup) (hperm : l.Perm l') :
    slice size offset l = slice size offset l' ↔
      ∀ x ∈ l, offset ≤ l.idxOf x → l.idxOf x < offset + size → l.idxOf x = l'.idxOf x := by
  have hl' : l'.Nodup := hperm.nodup_iff.mp hl
  constructor
  · intro h x hx hfrom hto
    have hplace : (slice size offset l)[l.idxOf x - offset]? = some x := by
      rw [slice, List.getElem?_take_of_lt (by omega), List.getElem?_drop, Nat.add_sub_cancel' hfrom]
      exact List.getElem?_idxOf hx
    rw [h, slice, List.getElem?_take_of_lt (by omega), List.getElem?_drop,
      Nat.add_sub_cancel' hfrom, List.getElem?_eq_some_iff] at hplace
    obtain ⟨hlt, hget⟩ := hplace
    rw [← hl'.idxOf_getElem (l.idxOf x) hlt, hget]
  · intro h
    apply List.ext_getElem?
    intro i
    by_cases hi : i < size
    · rw [slice, slice, List.getElem?_take_of_lt hi, List.getElem?_take_of_lt hi,
        List.getElem?_drop, List.getElem?_drop]
      by_cases hlt : offset + i < l.length
      · have hidx : l.idxOf l[offset + i] = offset + i := hl.idxOf_getElem _ hlt
        have hplace := h _ (List.getElem_mem hlt) (by omega) (by omega)
        rw [hidx] at hplace
        have hmem : l[offset + i] ∈ l' := hperm.mem_iff.mp (List.getElem_mem hlt)
        rw [List.getElem?_eq_getElem hlt]
        have hget := List.getElem?_idxOf hmem
        rw [← hplace] at hget
        exact hget.symm
      · rw [List.getElem?_eq_none (by omega), List.getElem?_eq_none]
        rw [← hperm.length_eq]
        omega
    · rw [slice, slice, List.getElem?_take_eq_none (by omega), List.getElem?_take_eq_none (by omega)]

end RcProtocol.Library
