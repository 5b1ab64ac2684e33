import Mathlib.Data.List.Infix

/-!
Tables searched from the top for the first entry whose key begins a text. Where the
search of every text with a known beginning ends is read off that beginning alone.
-/

namespace RcProtocol.Library
variable {α β : Type} {key : α → List β} {table : List α} {s t text : List β} {entry : α}

/-- One of the two begins the other, so a text can begin with both. -/
def Comparable (s t : List β) : Prop := s <+: t ∨ t <+: s

theorem comparable_of_begins (hs : s <+: text) (ht : t <+: text) : Comparable s t :=
  List.prefix_or_prefix_of_prefix hs ht

variable [DecidableEq β]

instance : Decidable (Comparable s t) := inferInstanceAs (Decidable (_ ∨ _))

def firstMatch (key : α → List β) (table : List α) (text : List β) : Option α :=
  table.find? fun entry => (key entry).isPrefixOf text

theorem firstMatch_begins (h : firstMatch key table text = some entry) :
    entry ∈ table ∧ key entry <+: text := by
  have hbegins := List.find?_some (p := fun entry => (key entry).isPrefixOf text) h
  exact ⟨List.mem_of_find?_eq_some h, List.isPrefixOf_iff_prefix.mp hbegins⟩

theorem firstMatch_eq_none (hs : s <+: text) (hapart : ∀ entry ∈ table, ¬Comparable (key entry) s) :
    firstMatch key table text = none := by
  apply List.find?_eq_none.mpr
  intro entry hentry hmatch
  exact hapart entry hentry (comparable_of_begins (List.isPrefixOf_iff_prefix.mp hmatch) hs)

/-- The first entry whose key can begin the text does, when the known part has it. -/
theorem firstMatch_of_begins (hs : s <+: text)
    (hfirst : table.find? (fun entry => Comparable (key entry) s) = some entry)
    (hkey : key entry <+: s) : firstMatch key table text = some entry := by
  induction table with
  | nil => simp at hfirst
  | cons first rest ih =>
      unfold firstMatch
      by_cases hcomparable : Comparable (key first) s
      · rw [List.find?_cons_of_pos (by simpa using hcomparable)] at hfirst
        obtain rfl := Option.some.inj hfirst
        have hbegins : (key first).isPrefixOf text = true :=
          List.isPrefixOf_iff_prefix.mpr (hkey.trans hs)
        rw [List.find?_cons_of_pos (by simpa using hbegins)]
      · rw [List.find?_cons_of_neg (by simpa using hcomparable)] at hfirst
        have hskipped : ¬(key first).isPrefixOf text = true := fun hbegins =>
          hcomparable (comparable_of_begins (List.isPrefixOf_iff_prefix.mp hbegins) hs)
        rw [List.find?_cons_of_neg (p := fun entry => (key entry).isPrefixOf text) hskipped]
        exact ih hfirst

end RcProtocol.Library
