import Mathlib.Tactic.Common
import Mathlib.Data.List.Pairwise

/-!
Tables of rows under uniqueness constraints. A table carries the proof that no
two of its rows clash, so an insert that would break a constraint has no result
and an update may not touch the constrained columns.
-/

namespace RcProtocol.Library

/-- The constrained columns of a row, and when two rows may not both be stored. -/
class Keyed (ρ : Type) where
  Key : Type
  key : ρ → Key
  Clash : Key → Key → Prop
  decClash : ∀ a b, Decidable (Clash a b)
  symm : ∀ {a b}, Clash a b → Clash b a

instance {ρ : Type} [Keyed ρ] (a b : Keyed.Key ρ) : Decidable (Keyed.Clash a b) :=
  Keyed.decClash a b

open Keyed (key Clash)

structure Table (ρ : Type) [Keyed ρ] where
  rows : List ρ
  unique : rows.Pairwise fun a b => ¬Clash (key a) (key b)

namespace Table
variable {ρ : Type} [Keyed ρ]

def empty : Table ρ := ⟨[], .nil⟩

def single (r : ρ) : Table ρ := ⟨[r], List.pairwise_singleton _ r⟩

def find (t : Table ρ) (p : ρ → Bool) : Option ρ := t.rows.find? p

/-- The row stored last among those that match. -/
def newest (t : Table ρ) (p : ρ → Bool) : Option ρ := t.rows.reverse.find? p

def insert (t : Table ρ) (r : ρ) : Option (Table ρ) :=
  if h : ∀ a ∈ t.rows, ¬Clash (key a) (key r) then
    some ⟨t.rows ++ [r], by
      refine List.pairwise_append.mpr ⟨t.unique, List.pairwise_singleton _ _, ?_⟩
      intro a ha b hb
      obtain rfl := List.mem_singleton.mp hb
      exact h a ha⟩
  else none

def update (t : Table ρ) (p : ρ → Bool) (f : ρ → ρ) (hf : ∀ r, key (f r) = key r) : Table ρ :=
  ⟨t.rows.map fun r => if p r then f r else r, by
    refine List.Pairwise.map _ ?_ t.unique
    intro a b h
    simpa only [apply_ite key, hf, ite_self] using h⟩

def delete (t : Table ρ) (p : ρ → Bool) : Table ρ :=
  ⟨t.rows.filter fun r => !p r, t.unique.filter _⟩

variable {t t' : Table ρ} {r a b : ρ} {p q : ρ → Bool} {f : ρ → ρ}
  {hf : ∀ r, key (f r) = key r}

theorem mem_of_find (h : t.find p = some r) : r ∈ t.rows := List.mem_of_find?_eq_some h

theorem prop_of_find (h : t.find p = some r) : p r = true := List.find?_some h

theorem find_eq_none : t.find p = none ↔ ∀ r ∈ t.rows, p r = false := by
  simp [find]

theorem mem_of_newest (h : t.newest p = some r) : r ∈ t.rows :=
  List.mem_reverse.mp (List.mem_of_find?_eq_some h)

theorem prop_of_newest (h : t.newest p = some r) : p r = true := List.find?_some h

theorem eq_of_clash (ha : a ∈ t.rows) (hb : b ∈ t.rows) (h : Clash (key a) (key b)) :
    a = b := by
  by_contra hne
  have : Std.Symm fun a b : ρ => ¬Clash (key a) (key b) := ⟨fun _ _ h c => h (Keyed.symm c)⟩
  exact t.unique.forall ha hb hne h

/-- A row that is alone in matching is the one found. -/
theorem find_eq_some (hr : r ∈ t.rows) (hp : p r = true)
    (h : ∀ a ∈ t.rows, p a = true → Clash (key a) (key r)) : t.find p = some r := by
  cases hf : t.find p with
  | none => rw [find_eq_none.mp hf r hr] at hp; cases hp
  | some a =>
      rw [eq_of_clash (mem_of_find hf) hr (h a (mem_of_find hf) (prop_of_find hf))]

theorem rows_insert (h : t.insert r = some t') : t'.rows = t.rows ++ [r] := by
  simp only [insert] at h
  split at h
  · rw [← Option.some.inj h]
  · cases h

theorem not_clash_of_insert (h : t.insert r = some t') (ha : a ∈ t.rows) :
    ¬Clash (key a) (key r) := by
  simp only [insert] at h
  split at h
  · next hr => exact hr a ha
  · cases h

theorem mem_insert (h : t.insert r = some t') : a ∈ t'.rows ↔ a ∈ t.rows ∨ a = r := by
  rw [rows_insert h, List.mem_append, List.mem_singleton]

theorem find_insert (h : t.insert r = some t') :
    t'.find p = (t.find p).or (if p r then some r else none) := by
  simp only [find, rows_insert h, List.find?_append, List.find?_singleton]

/-- A new row that matches is the newest. -/
theorem newest_insert (h : t.insert r = some t') :
    t'.newest p = if p r then some r else t.newest p := by
  simp only [newest, rows_insert h, List.reverse_append, List.reverse_singleton,
    List.singleton_append, List.find?_cons]
  cases p r <;> rfl

theorem rows_filter_insert (h : t.insert r = some t') :
    t'.rows.filter p = if p r then t.rows.filter p ++ [r] else t.rows.filter p := by
  rw [rows_insert h, List.filter_append]
  by_cases hr : p r = true
  · simp [hr]
  · simp [hr]

/-- A new row outside a selection leaves the selection as it was. -/
theorem filter_insert (h : t.insert r = some t') (hr : p r = false) :
    t'.rows.filter p = t.rows.filter p := by
  rw [rows_filter_insert h, hr, if_neg Bool.false_ne_true]

theorem exists_insert (h : ∀ a ∈ t.rows, ¬Clash (key a) (key r)) : ∃ t', t.insert r = some t' :=
  ⟨_, dif_pos h⟩

theorem insert_eq_none : t.insert r = none ↔ ∃ a ∈ t.rows, Clash (key a) (key r) := by
  simp [insert]

/-- Where an insert leaves the table alone, a row clashes with the new one. -/
theorem clash_of_insert_getD (h : (t.insert r).getD t = t) :
    ∃ a ∈ t.rows, Clash (key a) (key r) := by
  apply insert_eq_none.mp
  cases hi : t.insert r with
  | none => rfl
  | some t' =>
      rw [hi, Option.getD_some] at h
      have hrows := rows_insert hi
      rw [h, List.self_eq_append_right] at hrows
      cases hrows

theorem update_eq_self (h : ∀ a ∈ t.rows, p a = true → f a = a) : t.update p f hf = t := by
  have hrows : t.rows.map (fun r => if p r then f r else r) = t.rows.map id := by
    apply List.map_congr_left
    intro a ha
    by_cases hp : p a = true
    · rw [if_pos hp, h a ha hp, id]
    · rw [if_neg hp, id]
  rw [List.map_id] at hrows
  cases t
  simp only [update, mk.injEq]
  exact hrows

theorem mem_update :
    a ∈ (t.update p f hf).rows ↔ ∃ r ∈ t.rows, (if p r then f r else r) = a := by
  simp only [update, List.mem_map]

theorem mem_delete : a ∈ (t.delete p).rows ↔ a ∈ t.rows ∧ p a = false := by
  simp [delete]

/-- A lookup by constrained columns finds the updated version of the row it
found before. -/
theorem find_update (hq : ∀ r, q (f r) = q r) :
    (t.update p f hf).find q = (t.find q).map fun r => if p r then f r else r := by
  simp only [find, update, List.find?_map]
  congr 2
  funext r
  simp only [Function.comp_apply, apply_ite q, hq, ite_self]

/-- An update of rows outside a selection leaves the selection as it was. -/
theorem filter_update (h : ∀ r ∈ t.rows, p r = true → q r = false ∧ q (f r) = false) :
    (t.update p f hf).rows.filter q = t.rows.filter q := by
  simp only [update]
  generalize t.rows = rows at h
  induction rows with
  | nil => rfl
  | cons r rows ih =>
      have ih := ih fun a ha => h a (List.mem_cons_of_mem _ ha)
      simp only [List.map_cons, List.filter_cons, ih]
      by_cases hp : p r = true
      · obtain ⟨hq, hqf⟩ := h r (List.mem_cons_self ..) hp
        simp [hp, hq, hqf]
      · simp [hp]

end Table

end RcProtocol.Library
