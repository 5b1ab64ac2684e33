import Mathlib.Data.Set.Insert
import Mathlib.Logic.Function.Basic

/-!
A cached set that tasks rebuild from its source: a task reads the source, clears the cache
and adds what it has read, one member at a time, while other tasks do the same. If the
source changes only while the cache is empty and no task has anything in its hands, a cache
that no task is filling is empty or the source.
-/

namespace RcProtocol.Library.Rebuild

/-- What a task has read and not yet added: before it clears the cache, and after. -/
inductive Stage (α : Type) where
  | idle
  | holding (items : List α)
  | adding (items : List α)
  deriving DecidableEq

/-- The task still has to write the cache. -/
def Stage.Open {α : Type} : Stage α → Prop
  | .idle => False
  | .holding _ => True
  | .adding items => items ≠ []

instance {α : Type} : (t : Stage α) → Decidable t.Open
  | .idle => inferInstanceAs (Decidable False)
  | .holding _ => inferInstanceAs (Decidable True)
  | .adding items =>
      match items with
      | [] => .isFalse fun h => h rfl
      | _ :: _ => .isTrue nofun

@[ext]
structure State (ι α : Type) where
  source : Set α
  cache : Set α
  tasks : ι → Stage α

section
variable {ι α : Type} [DecidableEq ι] {s s' : State ι α}

inductive Step : State ι α → State ι α → Prop
  | change {s : State ι α} (source : Set α) (hcache : s.cache = ∅)
      (htasks : ∀ i, ¬(s.tasks i).Open) : Step s { s with source := source }
  | read {s : State ι α} {i : ι} {items : List α} (hi : ¬(s.tasks i).Open)
      (hitems : ∀ a, a ∈ items ↔ a ∈ s.source) :
      Step s { s with tasks := Function.update s.tasks i (.holding items) }
  | clear {s : State ι α} {i : ι} {items : List α} (hi : s.tasks i = .holding items) :
      Step s { s with cache := ∅, tasks := Function.update s.tasks i (.adding items) }
  | add {s : State ι α} {i : ι} {a : α} {items : List α} (hi : s.tasks i = .adding (a :: items)) :
      Step s
        { s with
          cache := insert a s.cache
          tasks := Function.update s.tasks i (.adding items) }

/-- A task is about to add the member. -/
def State.Owes (s : State ι α) (a : α) : Prop := ∃ i items, s.tasks i = .adding items ∧ a ∈ items

/-- What the tasks hold is the source; the cache holds nothing else, and together with what
is owed to it all of the source, unless nobody has begun to fill it. -/
structure Inv (s : State ι α) : Prop where
  holding : ∀ i items, s.tasks i = .holding items → ∀ a, a ∈ items ↔ a ∈ s.source
  owed : ∀ a, s.Owes a → a ∈ s.source
  cached : s.cache ⊆ s.source
  covers : (s.cache = ∅ ∧ ∀ a, ¬s.Owes a) ∨ ∀ a ∈ s.source, a ∈ s.cache ∨ s.Owes a

omit [DecidableEq ι] in
theorem not_owes_of_closed (h : ∀ i, ¬(s.tasks i).Open) (a : α) : ¬s.Owes a := by
  rintro ⟨i, items, hi, ha⟩
  have hopen := h i
  rw [hi] at hopen
  exact hopen (List.ne_nil_of_mem ha)

omit [DecidableEq ι] in
/-- A cache that no task is filling is empty or the source. -/
theorem Inv.reflects (h : Inv s) (hclosed : ∀ i, ¬(s.tasks i).Open) :
    s.cache = ∅ ∨ s.cache = s.source := by
  obtain ⟨hempty, -⟩ | hcovers := h.covers
  · exact .inl hempty
  · right
    apply Set.Subset.antisymm h.cached
    intro a ha
    obtain hcached | howes := hcovers a ha
    · exact hcached
    · exact absurd howes (not_owes_of_closed hclosed a)

omit [DecidableEq ι] in
theorem inv_of_reflects (h : s.cache = ∅ ∨ s.cache = s.source) (hidle : ∀ i, s.tasks i = .idle) :
    Inv s := by
  have howes : ∀ a, ¬s.Owes a := by
    rintro a ⟨i, items, hi, -⟩
    rw [hidle i] at hi
    cases hi
  refine ⟨fun i items hi => ?_, fun a ha => absurd ha (howes a), ?_, ?_⟩
  · rw [hidle i] at hi
    cases hi
  · obtain hempty | hsource := h
    · rw [hempty]
      exact Set.empty_subset _
    · rw [hsource]
  · obtain hempty | hsource := h
    · exact .inl ⟨hempty, howes⟩
    · exact .inr fun a ha => .inl (hsource ▸ ha)

theorem update_cases {β : Type} {f : ι → β} {i j : ι} {t u : β} (h : Function.update f i t j = u) :
    (j = i ∧ t = u) ∨ (j ≠ i ∧ f j = u) := by
  by_cases hji : j = i
  · subst hji
    exact .inl ⟨rfl, by rwa [Function.update_self] at h⟩
  · exact .inr ⟨hji, by rwa [Function.update_of_ne hji] at h⟩

/-- What a task that takes a new turn does not owe, the others do. -/
theorem owes_update {i : ι} {t : Stage α} {a : α}
    (h : ({ s with tasks := Function.update s.tasks i t } : State ι α).Owes a) :
    (∃ items, t = .adding items ∧ a ∈ items) ∨ s.Owes a := by
  obtain ⟨j, items, hj, ha⟩ := h
  obtain ⟨-, ht⟩ | ⟨-, hj⟩ := update_cases hj
  · exact .inl ⟨items, ht, ha⟩
  · exact .inr ⟨j, items, hj, ha⟩

theorem holding_update (h : Inv s) {i : ι} {t : Stage α}
    (ht : ∀ items, t = .holding items → ∀ a, a ∈ items ↔ a ∈ s.source) (j : ι) (items : List α)
    (hj : Function.update s.tasks i t j = .holding items) (a : α) : a ∈ items ↔ a ∈ s.source := by
  obtain ⟨-, hitems⟩ | ⟨-, hj⟩ := update_cases hj
  · exact ht items hitems a
  · exact h.holding j items hj a

theorem Step.inv (step : Step s s') (h : Inv s) : Inv s' := by
  cases step with
  | change source hcache htasks =>
      have howes := not_owes_of_closed htasks
      refine ⟨fun i items hi => ?_, fun a ha => absurd ha (howes a), ?_, .inl ⟨hcache, howes⟩⟩
      · have hopen := htasks i
        rw [hi] at hopen
        exact absurd trivial hopen
      · rw [hcache]
        exact Set.empty_subset _
  | @read i items hi hitems =>
      have howes : ∀ a, ({ s with tasks := Function.update s.tasks i (.holding items) } :
          State ι α).Owes a ↔ s.Owes a := by
        intro a
        constructor
        · intro hnew
          obtain ⟨_, ht, -⟩ | hold := owes_update hnew
          · cases ht
          · exact hold
        · intro ⟨j, rest, hj, ha⟩
          have hji : j ≠ i := by
            intro hji
            subst hji
            rw [hj] at hi
            exact hi (List.ne_nil_of_mem ha)
          exact ⟨j, rest, (Function.update_of_ne hji ..).trans hj, ha⟩
      refine ⟨holding_update h ?_, fun a ha => h.owed a ((howes a).mp ha), h.cached, ?_⟩
      · intro rest hrest
        cases hrest
        exact hitems
      · simp only [howes]
        exact h.covers
  | @clear i items hi =>
      refine ⟨holding_update h nofun, ?_, Set.empty_subset _, .inr fun a ha => .inr ?_⟩
      · intro a ha
        obtain ⟨rest, ht, hmem⟩ | hold := owes_update ha
        · cases ht
          exact (h.holding i items hi a).mp hmem
        · exact h.owed a hold
      · exact ⟨i, items, Function.update_self .., (h.holding i items hi a).mpr ha⟩
  | @add i b items hi =>
      have howed : ∀ a ∈ b :: items, s.Owes a := fun a ha => ⟨i, b :: items, hi, ha⟩
      have hsource : b ∈ s.source := h.owed b (howed b (List.mem_cons_self ..))
      refine ⟨holding_update h nofun, ?_, Set.insert_subset hsource h.cached, ?_⟩
      · intro a ha
        obtain ⟨rest, ht, hmem⟩ | hold := owes_update ha
        · cases ht
          exact h.owed a (howed a (List.mem_cons_of_mem _ hmem))
        · exact h.owed a hold
      · obtain ⟨-, hnone⟩ | hcovers := h.covers
        · exact absurd (howed b (List.mem_cons_self ..)) (hnone b)
        · right
          intro a ha
          obtain hcached | ⟨j, rest, hj, hmem⟩ := hcovers a ha
          · exact .inl (Set.mem_insert_of_mem _ hcached)
          · by_cases hji : j = i
            · subst hji
              cases hi.symm.trans hj
              obtain rfl | hmem := List.mem_cons.mp hmem
              · exact .inl (Set.mem_insert ..)
              · exact .inr ⟨j, items, Function.update_self .., hmem⟩
            · exact .inr ⟨j, rest, (Function.update_of_ne hji ..).trans hj, hmem⟩

end

end RcProtocol.Library.Rebuild
