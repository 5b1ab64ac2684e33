import Mathlib.Tactic.Common

/-!
Texts of values between marks. A mark begins with a letter it does not repeat, so
two of its occurrences never overlap; a value that lacks the letter contains no
mark, and any other value may.
-/

namespace RcProtocol.Library
variable {α : Type}

/-- A mark: the letter, then text without it. -/
def IsMark (c : α) (m : List α) : Prop := ∃ w, m = c :: w ∧ c ∉ w

variable {c : α} {m m' a b a' b' x z : List α}

theorem IsMark.mem_append (hm : IsMark c m) : c ∈ a ++ (m ++ b) := by
  obtain ⟨w, rfl, -⟩ := hm
  exact List.mem_append_right a (List.mem_cons_self ..)

/-- An occurrence of the letter comes after a text without it. -/
theorem append_eq_append_cons (ha : c ∉ a) :
    a ++ b = x ++ c :: z ↔ ∃ y, x = a ++ y ∧ b = y ++ c :: z := by
  constructor
  · intro h
    obtain ⟨y, hx, hb⟩ | ⟨y, rfl, hz⟩ := List.append_eq_append_iff.mp h
    · exact ⟨y, hx, hb⟩
    · cases y with
      | nil => exact ⟨[], by simp, hz.symm⟩
      | cons d y =>
          obtain ⟨rfl, -⟩ := List.cons.inj hz
          exact absurd (List.mem_append_right x (List.mem_cons_self ..)) ha
  · rintro ⟨y, rfl, rfl⟩
    exact (List.append_assoc ..).symm

/-- A longer text before an occurrence of the mark has the mark itself. -/
theorem mark_append_eq (hm : IsMark c m) (hx : x ≠ []) :
    m ++ b = x ++ (m ++ b') ↔ ∃ y, x = m ++ y ∧ b = y ++ (m ++ b') := by
  obtain ⟨w, rfl, hw⟩ := hm
  obtain ⟨d, x, rfl⟩ := List.exists_cons_of_ne_nil hx
  simp only [List.cons_append, List.cons.injEq, append_eq_append_cons hw]
  constructor
  · rintro ⟨rfl, y, rfl, rfl⟩
    exact ⟨y, ⟨rfl, rfl⟩, rfl⟩
  · rintro ⟨y, ⟨rfl, rfl⟩, rfl⟩
    exact ⟨rfl, y, rfl, rfl⟩

/-- Two texts with a mark in each: the marks are the same one, or one text has both. -/
theorem append_mark_eq (hm : IsMark c m) :
    a ++ (m ++ b) = a' ++ (m ++ b') ↔ (a = a' ∧ b = b') ∨
      (∃ x, a' = a ++ (m ++ x) ∧ b = x ++ (m ++ b')) ∨
      ∃ x, a = a' ++ (m ++ x) ∧ b' = x ++ (m ++ b) := by
  have hlonger : ∀ {a a' b b' y : List α}, a' = a ++ y → m ++ b = y ++ (m ++ b') →
      (a = a' ∧ b = b') ∨ ∃ x, a' = a ++ (m ++ x) ∧ b = x ++ (m ++ b') := by
    intro a a' b b' y ha hb
    by_cases hy : y = []
    · subst hy
      exact .inl ⟨by simp [ha], List.append_cancel_left hb⟩
    · obtain ⟨x, rfl, hx⟩ := (mark_append_eq hm hy).mp hb
      exact .inr ⟨x, ha, hx⟩
  constructor
  · intro h
    obtain ⟨y, ha, hb⟩ | ⟨y, ha, hb⟩ := List.append_eq_append_iff.mp h
    · obtain h | h := hlonger ha hb
      · exact .inl h
      · exact .inr (.inl h)
    · obtain ⟨h, h'⟩ | h := hlonger ha hb
      · exact .inl ⟨h.symm, h'.symm⟩
      · exact .inr (.inr h)
  · rintro (⟨rfl, rfl⟩ | ⟨x, rfl, rfl⟩ | ⟨x, rfl, rfl⟩)
    · rfl
    · simp only [List.append_assoc]
    · simp only [List.append_assoc]

/-- The mark after texts without its letter. -/
theorem append_mark_inj (hm : IsMark c m) (ha : c ∉ a) (ha' : c ∉ a') :
    a ++ (m ++ b) = a' ++ (m ++ b') ↔ a = a' ∧ b = b' := by
  rw [append_mark_eq hm, or_iff_left]
  rintro (⟨x, rfl, -⟩ | ⟨x, rfl, -⟩)
  · exact ha' hm.mem_append
  · exact ha hm.mem_append

/-- The mark before texts without its letter. -/
theorem mark_append_inj (hm : IsMark c m) (hb : c ∉ b) (hb' : c ∉ b') :
    a ++ (m ++ b) = a' ++ (m ++ b') ↔ a = a' ∧ b = b' := by
  rw [append_mark_eq hm, or_iff_left]
  rintro (⟨x, -, rfl⟩ | ⟨x, -, rfl⟩)
  · exact hb hm.mem_append
  · exact hb' hm.mem_append

/-- Where the first mark of a text is another one, the mark comes after it. -/
theorem append_other_mark_eq (hm : IsMark c m) (hm' : IsMark c m') (ha : c ∉ a)
    (hne : ¬m <+: m') (hne' : ¬m' <+: m) :
    a ++ (m ++ b) = x ++ (m' ++ z) ↔ ∃ y, x = a ++ (m ++ y) ∧ b = y ++ (m' ++ z) := by
  constructor
  · intro h
    obtain ⟨w', rfl, hw'⟩ := hm'
    obtain ⟨y, rfl, hy⟩ := (append_eq_append_cons ha).mp h
    change m ++ b = y ++ (c :: w' ++ z) at hy
    cases y with
    | nil =>
        obtain hp | hp := List.prefix_or_prefix_of_prefix ⟨b, hy⟩ ⟨z, rfl⟩
        · exact absurd hp hne
        · exact absurd hp hne'
    | cons d y =>
        obtain ⟨w, rfl, hw⟩ := hm
        obtain ⟨rfl, htail⟩ := List.cons.inj hy
        change w ++ b = y ++ c :: (w' ++ z) at htail
        obtain ⟨x, rfl, rfl⟩ := (append_eq_append_cons hw).mp htail
        exact ⟨x, rfl, rfl⟩
  · rintro ⟨y, rfl, rfl⟩
    simp only [List.append_assoc]

end RcProtocol.Library
