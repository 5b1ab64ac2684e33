import RcProtocol.Library.Ranks
import Mathlib.Order.Defs.LinearOrder

/-!
Pages of a list sorted by a key that rows may share. Each page may come from another order
of the rows of one key; the pages are the rows, each once, exactly where no page ends among
rows of one key.
-/

namespace RcProtocol.Library
variable {ρ τ κ : Type} [LinearOrder τ] (key : ρ → τ)

/-- An order that `ORDER BY key DESC` permits. -/
def SortedBy (l : List ρ) : Prop := l.Pairwise fun a b => key b ≤ key a

def notBelow (a b : ρ) : Prop := key b ≤ key a

instance (a b : ρ) : Decidable (notBelow key a b) := inferInstanceAs (Decidable (_ ≤ _))

instance : Std.Total (notBelow key) := ⟨fun a b => le_total (key b) (key a)⟩

instance : IsTrans ρ (notBelow key) := ⟨fun _ _ _ hab hbc => le_trans hbc hab⟩

/-- `ORDER BY key DESC`: rows of one key stay in the order in which they were found. -/
def orderByDesc (rows : List ρ) : List ρ := rows.insertionSort (notBelow key)

/-- How many rows come before the row in every order. -/
def ahead (rows : List ρ) (x : ρ) : Nat := rows.countP fun a => key x < key a

/-- How many rows have the key of the row, itself included. -/
def tied (rows : List ρ) (x : ρ) : Nat := rows.countP fun a => key a = key x

/-- The place falls among rows of one key. -/
def Splits (rows : List ρ) (place : Nat) : Prop :=
  ∃ x ∈ rows, ahead key rows x < place ∧ place < ahead key rows x + tied key rows x

variable {key} {rows l l' : List ρ} {x y : ρ} {i place size n : Nat}

theorem sortedBy_orderByDesc (rows : List ρ) : SortedBy key (orderByDesc key rows) :=
  List.pairwise_insertionSort (notBelow key) rows

theorem orderByDesc_perm (rows : List ρ) : (orderByDesc key rows).Perm rows :=
  List.perm_insertionSort _ _

theorem orderByDesc_of_sortedBy (h : SortedBy key l) : orderByDesc key l = l :=
  List.Pairwise.insertionSort_eq h

theorem ahead_perm (h : l.Perm l') : ahead key l x = ahead key l' x := h.countP_eq _

theorem tied_perm (h : l.Perm l') : tied key l x = tied key l' x := h.countP_eq _

theorem ahead_add_tied : ahead key rows x + tied key rows x = rows.countP fun a => key x ≤ key a := by
  rw [ahead, tied, ← countP_or fun a hlt heq => hlt.ne heq.symm]
  apply List.countP_congr
  intro a _
  simp only [decide_eq_true_eq]
  constructor
  · rintro (h | h)
    · exact h.le
    · exact h.ge
  · intro h
    obtain h | h := h.lt_or_eq
    · exact .inl h
    · exact .inr h.symm

/-- The rows of one key follow the rows ahead of them. -/
theorem place_bounds {before after : List ρ} (h : SortedBy key (before ++ x :: after)) :
    ahead key (before ++ x :: after) x ≤ before.length ∧
      before.length < ahead key (before ++ x :: after) x + tied key (before ++ x :: after) x := by
  obtain ⟨-, hrest, hbefore⟩ := List.pairwise_append.mp h
  constructor
  · have hnone : (x :: after).countP (fun a => key x < key a) = 0 := by
      rw [List.countP_eq_zero]
      intro a ha
      obtain rfl | ha := List.mem_cons.mp ha
      · simp
      · simpa using (List.pairwise_cons.mp hrest).1 a ha
    rw [ahead, List.countP_append, hnone]
    exact List.countP_le_length
  · have hall : before.countP (fun a => key x ≤ key a) = before.length := by
      rw [List.countP_eq_length]
      intro a ha
      simpa using hbefore a ha x List.mem_cons_self
    rw [ahead_add_tied, List.countP_append, hall, List.countP_cons_of_pos (by simp)]
    omega

/-- A row of a lower key comes after all rows of the key. -/
theorem ahead_of_lt (h : key y < key x) :
    ahead key rows x + tied key rows x ≤ ahead key rows y := by
  rw [ahead_add_tied, ahead]
  apply List.countP_mono_left
  intro a _ ha
  simpa using h.trans_le (by simpa using ha)

/-- The row at a place that falls among rows of one key has that key. -/
theorem key_of_place {before after : List ρ} (h : SortedBy key (before ++ y :: after))
    (hfrom : ahead key (before ++ y :: after) x ≤ before.length)
    (hto : before.length < ahead key (before ++ y :: after) x + tied key (before ++ y :: after) x) :
    key y = key x := by
  have hplace := place_bounds h
  generalize before ++ y :: after = l at *
  obtain hlt | heq | hlt := lt_trichotomy (key y) (key x)
  · have hahead : ahead key l x + tied key l x ≤ ahead key l y := ahead_of_lt hlt
    omega
  · exact heq
  · have hahead : ahead key l y + tied key l y ≤ ahead key l x := ahead_of_lt hlt
    omega

/-- Where a place splits no key, a row comes before it exactly where the rows ahead of it are
fewer. -/
theorem before_iff {before after : List ρ} (hl : SortedBy key (before ++ x :: after))
    (hperm : (before ++ x :: after).Perm rows) (hsplits : ¬Splits key rows place) :
    before.length < place ↔ ahead key rows x < place := by
  have hplace := place_bounds hl
  rw [ahead_perm hperm, tied_perm hperm] at hplace
  have hmem : x ∈ rows := hperm.mem_iff.mp (List.mem_append_right _ List.mem_cons_self)
  constructor
  · intro h
    omega
  · intro h
    by_contra hle
    exact hsplits ⟨x, hmem, h, by omega⟩

/-- Up to a place that splits no key, every order has the same rows. -/
theorem take_perm (hl : SortedBy key l) (hperm : l.Perm rows) (hsplits : ¬Splits key rows place) :
    (l.take place).Perm (rows.filter fun x => ahead key rows x < place) := by
  have hfirst : (l.take place).filter (fun x => ahead key rows x < place) = l.take place := by
    rw [List.filter_eq_self]
    intro x hx
    obtain ⟨s, t, hst⟩ := List.append_of_mem hx
    have hsplit : l = s ++ x :: (t ++ l.drop place) := by
      conv_lhs => rw [← List.take_append_drop place l, hst, List.append_assoc, List.cons_append]
    have hlength : (s ++ x :: t).length ≤ place := hst ▸ List.length_take_le place l
    rw [List.length_append, List.length_cons] at hlength
    have hiff := before_iff (hsplit ▸ hl) (hsplit ▸ hperm) hsplits
    simpa using hiff.mp (by omega)
  have hlast : (l.drop place).filter (fun x => ahead key rows x < place) = [] := by
    rw [List.filter_eq_nil_iff]
    intro x hx
    obtain ⟨s, t, hst⟩ := List.append_of_mem hx
    have hsplit : l = (l.take place ++ s) ++ x :: t := by
      conv_lhs => rw [← List.take_append_drop place l, hst, ← List.append_assoc]
    have hlength : (l.take place).length = place := by
      have hpos := List.length_pos_of_mem hx
      rw [List.length_drop] at hpos
      rw [List.length_take]
      omega
    have hiff := before_iff (hsplit ▸ hl) (hsplit ▸ hperm) hsplits
    rw [List.length_append, hlength] at hiff
    have hnot : ¬ahead key rows x < place := fun h => absurd (hiff.mpr h) (by omega)
    simpa using hnot
  have htake : l.take place = l.filter fun x => ahead key rows x < place := by
    conv_rhs => rw [← List.take_append_drop place l, List.filter_append, hfirst, hlast,
      List.append_nil]
  rw [htake]
  exact hperm.filter _

/-- The pages from one order after another. -/
def pagesOf (size n : Nat) (orders : Nat → List ρ) : List ρ :=
  (List.range n).flatMap fun i => slice size (i * size) (orders i)

theorem pagesOf_succ (orders : Nat → List ρ) :
    pagesOf size (n + 1) orders = pagesOf size n orders ++ slice size (n * size) (orders n) := by
  rw [pagesOf, List.range_succ, List.flatMap_append, List.flatMap_singleton]
  rfl

/-- By induction on the pages: those read so far are the first rows of every order. -/
theorem pagesOf_perm_take {orders : Nat → List ρ} (hperm : ∀ i, (orders i).Perm rows)
    (hsorted : ∀ i, SortedBy key (orders i)) (hsplits : ∀ i, ¬Splits key rows (i * size)) :
    (pagesOf size n orders).Perm ((orders n).take (n * size)) := by
  induction n with
  | zero => simp [pagesOf]
  | succ n ih =>
      have hsame : ((orders n).take ((n + 1) * size)).Perm
          ((orders (n + 1)).take ((n + 1) * size)) :=
        (take_perm (hsorted n) (hperm n) (hsplits (n + 1))).trans
          (take_perm (hsorted (n + 1)) (hperm (n + 1)) (hsplits (n + 1))).symm
      rw [pagesOf_succ]
      refine (ih.append_right _).trans ?_
      rw [take_append_slice, ← Nat.succ_mul]
      exact hsame

/-- Rows of one key may change places. -/
theorem sortedBy_swap {s t : List ρ} (h : SortedBy key (s ++ x :: y :: t)) (hkey : key x = key y) :
    SortedBy key (s ++ y :: x :: t) := by
  have hmap : (s ++ y :: x :: t).map key = (s ++ x :: y :: t).map key := by
    simp only [List.map_append, List.map_cons, hkey]
  have hmapped : ((s ++ x :: y :: t).map key).Pairwise fun a b => b ≤ a := List.pairwise_map.mpr h
  rw [← hmap] at hmapped
  exact List.pairwise_map.mp hmapped

theorem mem_slice {offset : Nat} {s t : List ρ} (hfrom : offset ≤ s.length)
    (hto : s.length < offset + size) : x ∈ slice size offset (s ++ x :: t) := by
  rw [List.mem_iff_getElem?]
  refine ⟨s.length - offset, ?_⟩
  rw [slice, List.getElem?_take_of_lt (by omega), List.getElem?_drop, Nat.add_sub_cancel' hfrom,
    List.getElem?_append_right (le_refl _), Nat.sub_self, List.getElem?_cons_zero]

theorem page_disjoint {orders : Nat → List ρ} {j : Nat} (hnodup : (pagesOf size n orders).Nodup)
    (hij : i < j) (hj : j < n) (hi : x ∈ slice size (i * size) (orders i)) :
    x ∉ slice size (j * size) (orders j) := by
  have hpages := (List.nodup_flatMap.mp hnodup).2
  have hdisjoint := List.pairwise_iff_getElem.mp hpages i j (by simp; omega) (by simp; omega) hij
  rw [List.getElem_range, List.getElem_range] at hdisjoint
  exact hdisjoint hi

/-- Where a page ends among rows of one key, the orders may put one row on two pages. -/
theorem exists_repeated (hsplits : Splits key rows (i * size)) (hcover : rows.length ≤ n * size) :
    ∃ orders : Nat → List ρ, (∀ j, (orders j).Perm rows) ∧ (∀ j, SortedBy key (orders j)) ∧
      ¬(pagesOf size n orders).Nodup := by
  obtain ⟨x, -, hfrom, hto⟩ := hsplits
  have hsize : 0 < size := by
    apply Nat.pos_of_ne_zero
    intro hzero
    rw [hzero, Nat.mul_zero] at hfrom
    exact absurd hfrom (Nat.not_lt_zero _)
  obtain ⟨l, hperm, hsorted⟩ : ∃ l : List ρ, l.Perm rows ∧ SortedBy key l :=
    ⟨_, orderByDesc_perm rows, sortedBy_orderByDesc rows⟩
  have hlength : i * size < l.length := by
    rw [hperm.length_eq]
    have := List.countP_le_length (p := fun a => decide (key x ≤ key a)) (l := rows)
    rw [← ahead_add_tied] at this
    omega
  obtain ⟨s, y, z, t, rfl, hs⟩ : ∃ s y z t, l = s ++ y :: z :: t ∧ s.length + 1 = i * size := by
    refine ⟨l.take (i * size - 1), l[i * size - 1], l[i * size], l.drop (i * size + 1), ?_, ?_⟩
    · rw [← List.drop_eq_getElem_cons hlength]
      have hpred : l.drop (i * size) = l.drop (i * size - 1 + 1) := by
        congr 1
        omega
      rw [hpred, ← List.drop_eq_getElem_cons (by omega), List.take_append_drop]
    · rw [List.length_take]
      omega
  rw [← ahead_perm hperm] at hfrom
  rw [← ahead_perm hperm, ← tied_perm hperm] at hto
  have hy : key y = key x := key_of_place hsorted (by omega) (by omega)
  have hz : key z = key x := by
    have hsplit : s ++ y :: z :: t = (s ++ [y]) ++ z :: t := by simp
    rw [hsplit] at hsorted hfrom hto
    have hlength : (s ++ [y]).length = i * size := by
      rw [List.length_append, List.length_singleton, hs]
    exact key_of_place hsorted (by omega) (by omega)
  refine ⟨fun j => if j < i then s ++ y :: z :: t else s ++ z :: y :: t, ?_, ?_, ?_⟩
  · intro j
    dsimp only
    split
    · exact hperm
    · exact ((List.Perm.swap y z t).append_left s).trans hperm
  · intro j
    dsimp only
    split
    · exact hsorted
    · exact sortedBy_swap hsorted (hy.trans hz.symm)
  · intro hnodup
    obtain ⟨j, rfl⟩ : ∃ j, i = j + 1 := ⟨i - 1, by cases i <;> omega⟩
    rw [Nat.succ_mul] at hs hlength
    have hj : j + 1 < n := by
      by_contra hle
      have hpages := Nat.mul_le_mul_right size (Nat.not_lt.mp hle)
      rw [Nat.succ_mul] at hpages
      rw [hperm.length_eq] at hlength
      omega
    refine page_disjoint (x := y) hnodup (Nat.lt_succ_self j) hj ?_ ?_
    · rw [if_pos (Nat.lt_succ_self j)]
      exact mem_slice (by omega) (by omega)
    · have hsplit : s ++ z :: y :: t = (s ++ [z]) ++ y :: t := by simp
      have hplace : (s ++ [z]).length = j * size + size := by
        rw [List.length_append, List.length_singleton, hs]
      rw [if_neg (Nat.lt_irrefl _), Nat.succ_mul, hsplit]
      exact mem_slice (by omega) (by omega)

/-- The pages are the rows, each once and whatever order each comes from, exactly where no
page ends among rows of one key. -/
theorem pages_perm_iff {id : ρ → κ} (hid : (rows.map id).Nodup) (hcover : rows.length ≤ n * size) :
    (∀ orders : Nat → List ρ, (∀ i, (orders i).Perm rows) → (∀ i, SortedBy key (orders i)) →
        ((pagesOf size n orders).map id).Perm (rows.map id)) ↔
      ∀ i, ¬Splits key rows (i * size) := by
  constructor
  · intro h i hsplits
    obtain ⟨orders, hperm, hsorted, hrepeated⟩ := exists_repeated hsplits hcover
    have hnodup := (h orders hperm hsorted).nodup_iff.mpr hid
    exact hrepeated hnodup.of_map
  · intro h orders hperm hsorted
    have hpages := pagesOf_perm_take (n := n) hperm hsorted h
    rw [List.take_of_length_le (by rw [(hperm n).length_eq]; exact hcover)] at hpages
    exact (hpages.trans (hperm n)).map id

end RcProtocol.Library
