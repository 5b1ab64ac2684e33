import RcProtocol.Library.Interleaving

/-!
Two systems beside each other: a program of the one runs on the pair of states and
leaves the state of the other alone.
-/

namespace RcProtocol.Library

abbrev Interface.beside (E F : Interface) : Interface where
  Op := E.Op ⊕ F.Op
  Answer
    | .inl op => E.Answer op
    | .inr op => F.Answer op

section
variable {E F : Interface} {σ τ ι α : Type}

def Program.left : Program E α → Program (E.beside F) α
  | .done a => .done a
  | .call op next => .call (.inl op) fun answer => (next answer).left

def Program.right : Program F α → Program (E.beside F) α
  | .done a => .done a
  | .call op next => .call (.inr op) fun answer => (next answer).right

/-- The second system reads the state of the first. -/
def Machine.reading (m : Machine E σ) (env : Type)
    (exec : env → (op : F.Op) → σ → τ → F.Answer op × τ) : Machine (E.beside F) (σ × τ) where
  Env := m.Env × env
  exec
    | e, .inl op, s => ((m.exec e.1 op s.1).1, (m.exec e.1 op s.1).2, s.2)
    | e, .inr op, s => ((exec e.2 op s.1 s.2).1, s.1, (exec e.2 op s.1 s.2).2)

def Machine.beside (m : Machine E σ) (n : Machine F τ) : Machine (E.beside F) (σ × τ) where
  Env := m.Env × n.Env
  exec
    | env, .inl op, s => ((m.exec env.1 op s.1).1, (m.exec env.1 op s.1).2, s.2)
    | env, .inr op, s => ((n.exec env.2 op s.2).1, s.1, (n.exec env.2 op s.2).2)

/-- The event, if it is one of the first system. -/
def leftEvent : Event (E.beside F) → Option (Event E)
  | ⟨.inl op, answer⟩ => some ⟨op, answer⟩
  | ⟨.inr _, _⟩ => none

/-- The event, if it is one of the second system. -/
def rightEvent : Event (E.beside F) → Option (Event F)
  | ⟨.inl _, _⟩ => none
  | ⟨.inr op, answer⟩ => some ⟨op, answer⟩

theorem mem_leftEvents {log : List (Event (E.beside F))} {e : Event E} :
    e ∈ log.filterMap leftEvent ↔ (⟨.inl e.op, e.answer⟩ : Event (E.beside F)) ∈ log := by
  rw [List.mem_filterMap]
  constructor
  · rintro ⟨⟨op, answer⟩, hmem, he⟩
    cases op with
    | inl op =>
        cases he
        exact hmem
    | inr op => cases he
  · intro hmem
    exact ⟨_, hmem, rfl⟩

theorem meets_trivial (p : Program E α) (log : List (Event E)) :
    Meets (fun _ _ => True) (fun _ _ => True) log p := by
  induction p generalizing log with
  | done a => trivial
  | call op next ih => exact ⟨trivial, fun answer => ih answer _⟩

/-- A program of the first system calls what it may call there, and nothing else. -/
theorem Meets.left {calls : List (Event E) → E.Op → Prop} {answers : List (Event E) → α → Prop}
    {p : Program E α} {log : List (Event (E.beside F))}
    (h : Meets calls answers (log.filterMap leftEvent) p) :
    Meets (fun log op => ∃ op', op = Sum.inl op' ∧ calls (log.filterMap leftEvent) op')
      (fun log => answers (log.filterMap leftEvent)) log p.left := by
  induction p generalizing log with
  | done a => exact h
  | call op next ih =>
      refine ⟨⟨op, rfl, h.1⟩, fun answer => ih answer ?_⟩
      rw [List.filterMap_append]
      exact h.2 answer

theorem Meets.right {calls : List (Event F) → F.Op → Prop} {answers : List (Event F) → α → Prop}
    {p : Program F α} {log : List (Event (E.beside F))}
    (h : Meets calls answers (log.filterMap rightEvent) p) :
    Meets (fun log op => ∃ op', op = Sum.inr op' ∧ calls (log.filterMap rightEvent) op')
      (fun log => answers (log.filterMap rightEvent)) log p.right := by
  induction p generalizing log with
  | done a => exact h
  | call op next ih =>
      refine ⟨⟨op, rfl, h.1⟩, fun answer => ih answer ?_⟩
      rw [List.filterMap_append]
      exact h.2 answer

variable [DecidableEq ι] {m : Machine E σ} {n : Machine F τ} {start : Pool E σ ι α} {other : τ}
  {h : List (Move (E.beside F) (σ × τ) ι)} {c : Pool (E.beside F) (σ × τ) ι α}

/-- The programs beside a state that is none of theirs. -/
def Pool.beside (start : Pool E σ ι α) (other : τ) : Pool (E.beside F) (σ × τ) ι α :=
  ⟨(start.state, other), fun i => (start.threads i).left⟩

/-- In a run of programs of the first system every move is one of its events. -/
theorem Interleaves.left_move (run : Interleaves (m.beside n) (start.beside other) h c)
    {v : Move (E.beside F) (σ × τ) ι} (hv : v ∈ h) : ∃ op, v.event.op = Sum.inl op := by
  obtain ⟨h₁, h₂, hh⟩ := List.append_of_mem hv
  obtain ⟨op, hop, -⟩ := run.calls (fun i => (meets_trivial (start.threads i) []).left) hh
  exact ⟨op, hop⟩

end

end RcProtocol.Library
