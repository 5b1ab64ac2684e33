import Mathlib.Data.List.Pairwise
import Mathlib.Tactic.Common

/-!
Writes that are committed one by one. A sequence of them stops at the first that is
refused, and what the ones before it wrote stays; so the state is as it was exactly
where each of these found its own part of the state already written.
-/

namespace RcProtocol.Library
universe u v

/-- A write answers the next state, or is refused. It has a part of the state of its
own, and changes nothing where this is present. -/
structure Write (σ : Type u) where
  attempt : σ → Option σ
  Part : Type v
  part : σ → Part
  Present : σ → Prop
  own : ∀ {s s'}, attempt s = some s' → part s' = part s → Present s
  idle : ∀ {s s'}, attempt s = some s' → Present s → s' = s

/-- Where the writes leave the state when something stops them. -/
inductive Stops {σ : Type u} : List (Write.{u, v} σ) → σ → σ → Prop
  | refused {w : Write σ} {ws : List (Write σ)} {s : σ} (h : w.attempt s = none) :
      Stops (w :: ws) s s
  | written {w : Write σ} {ws : List (Write σ)} {s t s' : σ} (h : w.attempt s = some t)
      (rest : Stops ws t s') : Stops (w :: ws) s s'
  | done {s : σ} : Stops [] s s

section Sequences
variable {σ : Type u} {w : Write.{u, v} σ} {ws : List (Write.{u, v} σ)} {s s' : σ}

/-- The other write keeps away from this one's part. -/
def Write.Apart (w other : Write.{u, v} σ) : Prop :=
  ∀ s s', other.attempt s = some s' → w.part s' = w.part s

/-- Each write up to the first that is refused finds its part present. -/
def Spared : List (Write.{u, v} σ) → σ → Prop
  | [], _ => True
  | w :: ws, s => w.attempt s = none ∨ w.Present s ∧ Spared ws s

theorem Stops.part (h : Stops ws s s') (hw : ∀ other ∈ ws, w.Apart other) :
    w.part s' = w.part s := by
  induction h with
  | refused | done => rfl
  | written h rest ih =>
      have hrest := ih fun other ho => hw other (List.mem_cons_of_mem _ ho)
      exact hrest.trans (hw _ List.mem_cons_self _ _ h)

theorem Stops.eq_of_spared (h : Stops ws s s') (hs : Spared ws s) : s' = s := by
  induction h with
  | refused | done => rfl
  | written h rest ih =>
      obtain hnone | ⟨hpresent, hspared⟩ := hs
      · cases hnone.symm.trans h
      · obtain rfl := Write.idle _ h hpresent
        exact ih hspared

theorem Stops.spared (h : Stops ws s s') (hapart : ws.Pairwise Write.Apart)
    (hparts : ∀ w ∈ ws, w.part s' = w.part s) : Spared ws s := by
  induction h with
  | refused h => exact .inl h
  | done => trivial
  | @written w ws s t s' h rest ih =>
      obtain ⟨hw, hws⟩ := List.pairwise_cons.mp hapart
      have hpart : w.part t = w.part s := by
        rw [← rest.part hw]
        exact hparts w List.mem_cons_self
      have hpresent := w.own h hpart
      obtain rfl := w.idle h hpresent
      exact .inr ⟨hpresent, ih hws fun w' hw' => hparts w' (List.mem_cons_of_mem _ hw')⟩

end Sequences

end RcProtocol.Library
