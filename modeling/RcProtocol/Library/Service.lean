import RcProtocol.Library.Program
import Mathlib.Data.List.Induction

/-!
A service that answers one request after another: each request is the program
its handler gives it, run alone from the state the last one left.
-/

namespace RcProtocol.Library

/-- One served request: its log, its answer, and the states around it. -/
structure Served (E : Interface) (σ Q α : Type) where
  request : Q
  log : List (Event E)
  answer : α
  before : σ
  after : σ

section
variable {E : Interface} {σ Q α : Type}

def Machine.serve (m : Machine E σ) (handler : Q → Program E α) (q : Q) (env : Nat → m.Env)
    (s : σ) : Served E σ Q α :=
  let o := m.run (handler q) env s
  ⟨q, o.log, o.answer, s, o.state⟩

variable (m : Machine E σ) (handler : Q → Program E α)

inductive Serves (start : σ) : List (Served E σ Q α) → σ → Prop
  | start : Serves start [] start
  | step {h : List (Served E σ Q α)} {s : σ} (run : Serves start h s) (q : Q)
      (env : Nat → m.Env) :
      Serves start (h ++ [m.serve handler q env s]) (m.serve handler q env s).after

/-- Serve the requests in turn, each under its own environments. -/
def Machine.serveAll (s : σ) : List (Q × (Nat → m.Env)) → List (Served E σ Q α)
  | [] => []
  | (q, env) :: rest =>
      let e := m.serve handler q env s
      e :: serveAll e.after rest

variable {m handler} {start s : σ} {h h₁ h₂ : List (Served E σ Q α)} {e : Served E σ Q α}

theorem Serves.serveAll (run : Serves m handler start h s)
    (requests : List (Q × (Nat → m.Env))) :
    ∃ s', Serves m handler start (h ++ m.serveAll handler s requests) s' := by
  induction requests generalizing h s with
  | nil => exact ⟨s, by simpa only [Machine.serveAll, List.append_nil] using run⟩
  | cons r rest ih =>
      obtain ⟨q, env⟩ := r
      obtain ⟨s', hs'⟩ := ih (run.step q env)
      exact ⟨s', by simpa only [Machine.serveAll, List.append_assoc, List.singleton_append]
        using hs'⟩

theorem serveAll_serves (start : σ) (requests : List (Q × (Nat → m.Env))) :
    ∃ s, Serves m handler start (m.serveAll handler start requests) s :=
  Serves.start.serveAll requests

theorem serveAll_requests (s : σ) (requests : List (Q × (Nat → m.Env))) :
    (m.serveAll handler s requests).map (·.request) = requests.map (·.1) := by
  induction requests generalizing s with
  | nil => rfl
  | cons r rest ih =>
      obtain ⟨q, env⟩ := r
      simp only [Machine.serveAll, List.map_cons, ih]
      rfl

theorem Serves.entry (run : Serves m handler start h s) (he : e ∈ h) :
    ∃ env, e = m.serve handler e.request env e.before := by
  induction run with
  | start => simp at he
  | step run q env ih =>
      obtain he | he := List.mem_append.mp he
      · exact ih he
      · obtain rfl := List.mem_singleton.mp he
        exact ⟨env, rfl⟩

/-- An entry is a run of its request from the state before it. -/
theorem Serves.entry_run (run : Serves m handler start h s) (he : e ∈ h) :
    ∃ env, e.log = (m.run (handler e.request) env e.before).log ∧
      e.answer = (m.run (handler e.request) env e.before).answer ∧
        e.after = (m.run (handler e.request) env e.before).state := by
  obtain ⟨env, heq⟩ := run.entry he
  exact ⟨env, congrArg Served.log heq, congrArg Served.answer heq, congrArg Served.after heq⟩

/-- The run up to one of its entries. -/
theorem Serves.split (run : Serves m handler start h s) (hh : h = h₁ ++ e :: h₂) :
    Serves m handler start h₁ e.before := by
  induction run generalizing h₂ with
  | start => simp at hh
  | @step h s run q env ih =>
      cases h₂ using List.reverseRecOn with
      | nil =>
          obtain ⟨rfl, he⟩ := List.append_inj' hh rfl
          obtain rfl := (List.cons.inj he).1
          exact run
      | append_singleton h₂ e' =>
          rw [← List.cons_append, ← List.append_assoc] at hh
          exact ih (List.append_inj' hh rfl).1

/-- The run from the end of one of its entries. -/
theorem Serves.after (run : Serves m handler start h s) (hh : h = h₁ ++ e :: h₂) :
    Serves m handler e.after h₂ s := by
  induction run generalizing h₂ with
  | start => simp at hh
  | @step h s run q env ih =>
      cases h₂ using List.reverseRecOn with
      | nil =>
          obtain ⟨-, he⟩ := List.append_inj' hh rfl
          obtain rfl := (List.cons.inj he).1
          exact .start
      | append_singleton h₂ e' =>
          rw [← List.cons_append, ← List.append_assoc] at hh
          obtain ⟨hh, he⟩ := List.append_inj' hh rfl
          rw [← (List.cons.inj he).1]
          exact (ih hh).step q env

/-- A reflexive and transitive relation that every entry satisfies holds from the
start to the end. -/
theorem Serves.relates {R : σ → σ → Prop} (refl : ∀ s, R s s)
    (trans : ∀ {a b c}, R a b → R b c → R a c) (run : Serves m handler start h s)
    (step : ∀ e ∈ h, R e.before e.after) : R start s := by
  induction run with
  | start => exact refl _
  | step run q env ih =>
      have hlast := step _ (List.mem_append_right _ (List.mem_singleton_self _))
      exact trans (ih fun e he => step e (List.mem_append_left _ he)) hlast

/-- A property of states every entry keeps holds at the end of the run. -/
theorem Serves.invariant {I : σ → Prop} (run : Serves m handler start h s) (hs : I start)
    (step : ∀ e ∈ h, I e.before → I e.after) : I s := by
  induction run with
  | start => exact hs
  | step run q env ih =>
      refine step _ (List.mem_append_right _ (List.mem_singleton_self _)) (ih fun e he => ?_)
      exact step e (List.mem_append_left _ he)

end

section Latest
variable {α : Type} {p : α → Prop} {h : List α} {f g : α}

/-- The last entry of the history with the property. -/
def Latest (p : α → Prop) (h : List α) (f : α) : Prop :=
  ∃ before after, h = before ++ f :: after ∧ p f ∧ ∀ g ∈ after, ¬p g

theorem latest_append_self (hf : p f) : Latest p (h ++ [f]) f :=
  ⟨h, [], rfl, hf, fun _ hg => absurd hg List.not_mem_nil⟩

theorem Latest.append (hl : Latest p h f) (hg : ¬p g) : Latest p (h ++ [g]) f := by
  obtain ⟨before, after, rfl, hf, hafter⟩ := hl
  refine ⟨before, after ++ [g], by rw [List.append_assoc, List.cons_append], hf, ?_⟩
  intro g' hg'
  obtain hg' | hg' := List.mem_append.mp hg'
  · exact hafter g' hg'
  · obtain rfl := List.mem_singleton.mp hg'
    exact hg

theorem Latest.eq_last (hl : Latest p (h ++ [g]) f) (hg : p g) : f = g := by
  obtain ⟨before, after, hh, -, hafter⟩ := hl
  cases after using List.reverseRecOn with
  | nil => exact (List.cons.inj (List.append_inj' hh rfl).2).1.symm
  | append_singleton after g' =>
      rw [← List.cons_append, ← List.append_assoc] at hh
      obtain rfl := (List.cons.inj (List.append_inj' hh rfl).2).1
      exact absurd hg (hafter g (List.mem_append_right _ (List.mem_singleton_self g)))

end Latest

end RcProtocol.Library
