import Mathlib.Data.List.Basic
import Mathlib.Data.List.Infix
import Mathlib.Tactic.Common

/-!
Steps that may be refused. A refused input leaves the state as it is; the inputs
that were taken form a run without refusals. A detour is a part of a run that
ends in the state it began in, and deleting it leaves a run.
-/

namespace RcProtocol.Library

section Attempts
variable {σ ι : Type} (step : σ → ι → Option σ)

def attempt (s : σ) (i : ι) : σ := (step s i).getD s

def attempts (s : σ) (is : List ι) : σ := is.foldl (attempt step) s

/-- The inputs that are not refused. -/
def taken (s : σ) : List ι → List ι
  | [] => []
  | i :: is =>
      if (step s i).isSome then i :: taken (attempt step s i) is
      else taken (attempt step s i) is

/-- A run in which nothing is refused. -/
inductive Legal : σ → List ι → σ → Prop
  | nil (s : σ) : Legal s [] s
  | cons {s t u : σ} {i : ι} {is : List ι} (h : step s i = some t) (rest : Legal t is u) :
      Legal s (i :: is) u

variable {step} {s t u : σ} {i : ι} {is js : List ι}

theorem attempt_some (h : step s i = some t) : attempt step s i = t := by
  rw [attempt, h, Option.getD_some]

theorem attempt_none (h : step s i = none) : attempt step s i = s := by
  rw [attempt, h, Option.getD_none]

theorem attempts_append : attempts step s (is ++ js) = attempts step (attempts step s is) js :=
  List.foldl_append

theorem attempts_singleton : attempts step s [i] = attempt step s i := rfl

theorem taken_append :
    taken step s (is ++ js) = taken step s is ++ taken step (attempts step s is) js := by
  induction is generalizing s with
  | nil => rfl
  | cons i is ih =>
      simp only [List.cons_append, taken, ih]
      by_cases h : (step s i).isSome
      · simp only [h, if_true, List.cons_append, attempts, List.foldl_cons]
      · simp only [h, Bool.false_eq_true, if_false, attempts, List.foldl_cons]

theorem taken_singleton_some (h : step s i = some t) : taken step s [i] = [i] := by
  simp [taken, h]

theorem taken_singleton_none (h : step s i = none) : taken step s [i] = [] := by
  simp [taken, h]

theorem taken_sublist (s : σ) (is : List ι) : (taken step s is).Sublist is := by
  induction is generalizing s with
  | nil => exact .slnil
  | cons i is ih =>
      simp only [taken]
      by_cases h : (step s i).isSome
      · rw [if_pos h]
        exact (ih _).cons_cons i
      · rw [if_neg h]
        exact (ih _).cons i

/-- In a state in which everything is refused nothing is taken any more. -/
theorem taken_stuck (h : ∀ i, step s i = none) (is : List ι) : taken step s is = [] := by
  induction is with
  | nil => rfl
  | cons i is ih => simp only [taken, h i, Option.isSome_none, Bool.false_eq_true, if_false,
      attempt_none (h i), ih]

theorem Legal.append (h : Legal step s is t) (h' : Legal step t js u) :
    Legal step s (is ++ js) u := by
  induction h with
  | nil s => exact h'
  | cons hi _ ih => exact .cons hi (ih h')

theorem Legal.snoc (h : Legal step s is t) (hi : step t i = some u) :
    Legal step s (is ++ [i]) u :=
  h.append (.cons hi (.nil u))

/-- A property of what was taken and the state it led to holds after every run, if
every input that is taken keeps it. -/
theorem taken_invariant {I : List ι → σ → Prop} (hs : I [] s)
    (hstep : ∀ is t i u, I is t → step t i = some u → I (is ++ [i]) u) (is : List ι) :
    I (taken step s is) (attempts step s is) := by
  induction is using List.reverseRecOn with
  | nil => exact hs
  | append_singleton is i ih =>
      rw [taken_append, attempts_append, attempts_singleton]
      cases h : step (attempts step s is) i with
      | none =>
          rw [taken_singleton_none h, attempt_none h, List.append_nil]
          exact ih
      | some u =>
          rw [taken_singleton_some h, attempt_some h]
          exact hstep _ _ i u ih h

end Attempts

section Detours
variable {ι : Type}

/-- A run that is read input by input: what is kept of it, and the detour that is
still open. -/
structure Reading (ι : Type) where
  kept : List ι
  detour : Option (List ι)

def Reading.add (opens closes : ι → Bool) (r : Reading ι) (i : ι) : Reading ι :=
  match r.detour with
  | none => if opens i then { r with detour := some [i] } else { r with kept := r.kept ++ [i] }
  | some l => if closes i then { r with detour := none } else { r with detour := some (l ++ [i]) }

def Reading.all (r : Reading ι) : List ι := r.kept ++ r.detour.getD []

/-- The run without its detours; one that is never closed stays. -/
def dropDetours (opens closes : ι → Bool) (is : List ι) : List ι :=
  (is.foldl (Reading.add opens closes) ⟨[], none⟩).all

theorem Reading.add_sublist {opens closes : ι → Bool} {r : Reading ι} {is : List ι}
    (h : r.all.Sublist is) (i : ι) : (r.add opens closes i).all.Sublist (is ++ [i]) := by
  obtain ⟨kept, detour⟩ := r
  cases detour with
  | none =>
      have hall := h.append_right [i]
      simp only [all, Option.getD_none, List.append_nil] at hall
      by_cases hi : opens i <;> simpa only [add, hi, all, Option.getD_some, Option.getD_none,
        List.append_nil, if_true, Bool.false_eq_true, if_false] using hall
  | some l =>
      by_cases hi : closes i
      · simp only [add, hi, if_true, all, Option.getD_none, List.append_nil]
        exact ((List.sublist_append_left kept l).trans h).trans (List.sublist_append_left is [i])
      · have hall := h.append_right [i]
        simpa only [add, hi, all, Option.getD_some, List.append_assoc, Bool.false_eq_true,
          if_false] using hall

theorem dropDetours_sublist (opens closes : ι → Bool) (is : List ι) :
    (dropDetours opens closes is).Sublist is := by
  induction is using List.reverseRecOn with
  | nil => exact .slnil
  | append_singleton is i ih =>
      rw [dropDetours, List.foldl_append]
      exact Reading.add_sublist ih i

/-- Inputs that open and close detours of a step function, the states outside of
every detour, and the states inside of one that was entered from a given state. -/
structure Detour {σ : Type} (step : σ → ι → Option σ) where
  opens : ι → Bool
  closes : ι → Bool
  Outside : σ → Prop
  Inside : σ → σ → Prop
  passes : ∀ {s t i}, Outside s → step s i = some t → opens i = false →
    Outside t ∧ closes i = false
  enters : ∀ {s t i}, Outside s → step s i = some t → opens i = true →
    Inside s t ∧ closes i = false
  stays : ∀ {s t u i}, Inside s t → step t i = some u → closes i = false → Inside s u
  leaves : ∀ {s t u i}, Inside s t → step t i = some u → closes i = true → u = s

namespace Detour
variable {σ : Type} {step : σ → ι → Option σ} (d : Detour step) {start s t : σ} {i : ι}

def drop (is : List ι) : List ι := dropDetours d.opens d.closes is

/-- What was kept leads to a state outside, and the open detour on from it. -/
structure Reads (start : σ) (r : Reading ι) (s : σ) : Prop where
  closed : r.detour = none → Legal step start r.kept s ∧ d.Outside s
  opened : ∀ l, r.detour = some l →
    ∃ t, Legal step start r.kept t ∧ d.Outside t ∧ Legal step t l s ∧ d.Inside t s
  none_closes : ∀ i ∈ r.all, d.closes i = false

variable {d} {r : Reading ι}

theorem Reads.add (h : d.Reads start r s) (hi : step s i = some t) :
    d.Reads start (r.add d.opens d.closes i) t := by
  obtain ⟨kept, detour⟩ := r
  cases detour with
  | none =>
      obtain ⟨hkept, houtside⟩ := h.closed rfl
      have hall : ∀ j ∈ kept, d.closes j = false := by
        simpa [Reading.all] using h.none_closes
      cases ho : d.opens i with
      | false =>
          obtain ⟨ht, hclose⟩ := d.passes houtside hi ho
          simp only [Reading.add, ho, Bool.false_eq_true, if_false]
          refine ⟨fun _ => ⟨hkept.snoc hi, ht⟩, nofun, ?_⟩
          simpa [Reading.all, or_imp, forall_and, hclose] using hall
      | true =>
          obtain ⟨ht, hclose⟩ := d.enters houtside hi ho
          simp only [Reading.add, ho, if_true]
          refine ⟨nofun, ?_, ?_⟩
          · rintro l ⟨⟩
            exact ⟨s, hkept, houtside, .cons hi (.nil t), ht⟩
          · simpa [Reading.all, or_imp, forall_and, hclose] using hall
  | some l =>
      obtain ⟨s₀, hkept, houtside, hl, hinside⟩ := h.opened l rfl
      have hall : ∀ j ∈ kept ++ l, d.closes j = false := h.none_closes
      cases hc : d.closes i with
      | true =>
          simp only [Reading.add, hc, if_true]
          obtain rfl := d.leaves hinside hi hc
          refine ⟨fun _ => ⟨hkept, houtside⟩, nofun, fun j hj => hall j ?_⟩
          simp only [Reading.all, Option.getD_none, List.append_nil] at hj
          exact List.mem_append_left _ hj
      | false =>
          simp only [Reading.add, hc, Bool.false_eq_true, if_false]
          refine ⟨nofun, ?_, ?_⟩
          · rintro l' ⟨⟩
            exact ⟨s₀, hkept, houtside, hl.snoc hi, d.stays hinside hi hc⟩
          · simp only [Reading.all, Option.getD_some, List.mem_append, List.mem_singleton] at hall ⊢
            rintro j (hj | hj | rfl)
            · exact hall j (.inl hj)
            · exact hall j (.inr hj)
            · exact hc

theorem Reads.legal (h : d.Reads start r s) : Legal step start r.all s := by
  obtain ⟨kept, detour⟩ := r
  cases detour with
  | none =>
      rw [Reading.all, Option.getD_none, List.append_nil]
      exact (h.closed rfl).1
  | some l =>
      obtain ⟨t, hkept, -, hl, -⟩ := h.opened l rfl
      exact hkept.append hl

/-- From a state outside, what is left of the taken inputs without the detours is
a run to the same state, and closes nothing. -/
theorem legal_drop (hstart : d.Outside start) (is : List ι) :
    Legal step start (d.drop (taken step start is)) (attempts step start is) ∧
      ∀ i ∈ d.drop (taken step start is), d.closes i = false := by
  have hreads : d.Reads start
      ((taken step start is).foldl (Reading.add d.opens d.closes) ⟨[], none⟩)
      (attempts step start is) := by
    refine taken_invariant (I := fun js s => d.Reads start
      (js.foldl (Reading.add d.opens d.closes) ⟨[], none⟩) s) ?_ ?_ is
    · exact ⟨fun _ => ⟨.nil start, hstart⟩, nofun, by simp [Reading.all]⟩
    · intro js t i u h hi
      rw [List.foldl_append]
      exact h.add hi
  exact ⟨hreads.legal, hreads.none_closes⟩

end Detour

end Detours

end RcProtocol.Library
