import Mathlib.Tactic.Common
import Mathlib.Data.List.Nodup

/-!
Passes over rows with distinct keys. Each step of a pass changes the entry of its own key,
so that the pass as a whole can be read off entry by entry.
-/

namespace RcProtocol.Library
variable {σ ρ κ ν : Type} {view : σ → κ → ν} {step : σ → ρ → σ} {key : ρ → κ} {f : ρ → ν → ν}
  {rows : List ρ} {r : ρ} {k : κ} {s : σ}

/-- A step turns the entry of its row's key by `f`, and no other. -/
structure Local (view : σ → κ → ν) (step : σ → ρ → σ) (key : ρ → κ) (f : ρ → ν → ν) : Prop where
  own : ∀ s r, view (step s r) (key r) = f r (view s (key r))
  other : ∀ s r k, k ≠ key r → view (step s r) k = view s k

theorem Local.foldl_other (h : Local view step key f) (hk : ∀ r ∈ rows, k ≠ key r) :
    view (rows.foldl step s) k = view s k := by
  induction rows generalizing s with
  | nil => rfl
  | cons r rows ih =>
      rw [List.foldl_cons, ih fun r' hr' => hk r' (List.mem_cons_of_mem _ hr'),
        h.other s r k (hk r (List.mem_cons_self ..))]

/-- The entry of a key is turned once, by the row that has the key. -/
theorem Local.foldl_own (h : Local view step key f) (hnodup : (rows.map key).Nodup)
    (hr : r ∈ rows) :
    view (rows.foldl step s) (key r) = f r (view s (key r)) := by
  induction rows generalizing s with
  | nil => cases hr
  | cons r' rows ih =>
      obtain ⟨hfresh, hnodup⟩ := List.nodup_cons.mp hnodup
      rw [List.foldl_cons]
      cases List.mem_cons.mp hr with
      | inl heq =>
          have hrest : ∀ r'' ∈ rows, key r ≠ key r'' := by
            intro r'' hr'' hkey
            exact hfresh (List.mem_map.mpr ⟨r'', hr'', by rw [← hkey, heq]⟩)
          rw [h.foldl_other hrest, heq, h.own]
      | inr hmem =>
          have hne : key r ≠ key r' := fun hkey => hfresh (List.mem_map.mpr ⟨r, hmem, hkey⟩)
          rw [ih hnodup hmem, h.other s r' (key r) hne]

/-- A pass that changes nothing at any row changes nothing. -/
theorem foldl_eq_self (h : ∀ r ∈ rows, step s r = s) : rows.foldl step s = s := by
  have hkept : s = rows.foldl step s := by
    apply List.foldlRecOn rows step rfl
    intro t ht r hr
    rw [← ht, h r hr]
  exact hkept.symm

end RcProtocol.Library
