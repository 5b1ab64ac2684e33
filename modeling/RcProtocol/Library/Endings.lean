import RcProtocol.Library.Program

/-!
The ways a program that runs alone may end, whatever environments answer its calls. They
compose as programs do, in both directions: an ending of the whole is one of each part,
and endings of the parts make one of the whole.
-/

namespace RcProtocol.Library.Machine
variable {E : Interface} {σ α β ε : Type} {m : Machine E σ} {s s' s'' : σ} {a : α} {b : β}

/-- The program may return this value and leave this state. -/
def Ends (m : Machine E σ) : Program E α → σ → α → σ → Prop
  | .done a, s, b, s' => b = a ∧ s' = s
  | .call op next, s, b, s' => ∃ e, Ends m (next (m.exec e op s).1) (m.exec e op s).2 b s'

theorem ends_run (p : Program E α) (env : Nat → m.Env) (s : σ) :
    m.Ends p s (m.run p env s).answer (m.run p env s).state := by
  induction p generalizing env s with
  | done a => exact ⟨rfl, rfl⟩
  | call op next ih => exact ⟨env 0, ih _ _ _⟩

theorem ends_done {c : α} : m.Ends (.done a) s c s' ↔ c = a ∧ s' = s := Iff.rfl

theorem ends_call {op : E.Op} {next : E.Answer op → Program E α} :
    m.Ends (.call op next) s a s' ↔
      ∃ e, m.Ends (next (m.exec e op s).1) (m.exec e op s).2 a s' := Iff.rfl

theorem ends_perform {op : E.Op} {r : E.Answer op} :
    m.Ends (perform op) s r s' ↔ ∃ e, m.exec e op s = (r, s') := by
  rw [perform, ends_call]
  apply exists_congr
  intro e
  rw [ends_done, Prod.ext_iff, eq_comm (a := r), eq_comm (a := s')]

theorem ends_bind {p : Program E α} {f : α → Program E β} :
    m.Ends (p.bind f) s b s'' ↔ ∃ a s', m.Ends p s a s' ∧ m.Ends (f a) s' b s'' := by
  induction p generalizing s with
  | done a =>
      constructor
      · intro h
        exact ⟨a, s, ⟨rfl, rfl⟩, h⟩
      · rintro ⟨_, _, ⟨rfl, rfl⟩, h⟩
        exact h
  | call op next ih =>
      simp only [Program.bind, ends_call, ih]
      constructor
      · rintro ⟨e, a, s', hp, hf⟩
        exact ⟨a, s', ⟨e, hp⟩, hf⟩
      · rintro ⟨a, s', ⟨e, hp⟩, hf⟩
        exact ⟨e, a, s', hp, hf⟩

theorem ends_map {p : Program E α} {f : α → β} :
    m.Ends (p.map f) s b s' ↔ ∃ a, m.Ends p s a s' ∧ b = f a := by
  rw [Program.map, ends_bind]
  constructor
  · rintro ⟨a, t, hp, rfl, rfl⟩
    exact ⟨a, hp, rfl⟩
  · rintro ⟨a, hp, rfl⟩
    exact ⟨a, s', hp, rfl, rfl⟩

/-- The fallible part fails and the whole leaves with its error, or it succeeds and the
rest ends. -/
theorem ends_attempt {p : Program E (Except ε α)} {refuse : ε → β} {f : α → Program E β} :
    m.Ends (p.attempt refuse f) s b s'' ↔
      (∃ e, m.Ends p s (.error e) s'' ∧ b = refuse e) ∨
      ∃ a s', m.Ends p s (.ok a) s' ∧ m.Ends (f a) s' b s'' := by
  rw [Program.attempt, ends_bind]
  constructor
  · rintro ⟨r, s', hp, hf⟩
    cases r with
    | error e =>
        obtain ⟨rfl, rfl⟩ := hf
        exact .inl ⟨e, hp, rfl⟩
    | ok a => exact .inr ⟨a, s', hp, hf⟩
  · rintro (⟨e, hp, rfl⟩ | ⟨a, s', hp, hf⟩)
    · exact ⟨.error e, s'', hp, rfl, rfl⟩
    · exact ⟨.ok a, s', hp, hf⟩

/-- Where a refusal is an error, a success has come through the fallible part. -/
theorem ends_attempt_ok {ε' : Type} {p : Program E (Except ε α)} {g : ε → ε'}
    {f : α → Program E (Except ε' β)} {b : β} :
    m.Ends (p.attempt (fun e => .error (g e)) f) s (.ok b) s'' ↔
      ∃ a s', m.Ends p s (.ok a) s' ∧ m.Ends (f a) s' (.ok b) s'' := by
  simp only [ends_attempt, reduceCtorEq, and_false, exists_false, false_or]

section Calls
variable {calls : E.Op → Prop} {answers : List (Event E) → α → Prop} {log : List (Event E)}
  {p : Program E α}

/-- What each call keeps, every ending keeps. -/
theorem Ends.invariant {I : σ → Prop} (h : m.Ends p s a s')
    (hp : Meets (fun _ => calls) answers log p)
    (step : ∀ op, calls op → ∀ e s, I s → I (m.exec e op s).2) (hs : I s) : I s' := by
  induction p generalizing s log with
  | done b =>
      obtain ⟨-, rfl⟩ := h
      exact hs
  | call op next ih =>
      obtain ⟨e, h⟩ := h
      exact ih _ h (hp.2 _) (step op hp.1 e s hs)

/-- Where each call may be answered alike from related states, so may the program. -/
theorem Ends.transfer {R : σ → σ → Prop} {t : σ} (h : m.Ends p s a s')
    (hp : Meets (fun _ => calls) answers log p)
    (step : ∀ op, calls op → ∀ e s t, R s t →
      ∃ e', (m.exec e' op t).1 = (m.exec e op s).1 ∧ R (m.exec e op s).2 (m.exec e' op t).2)
    (hst : R s t) : ∃ t', m.Ends p t a t' ∧ R s' t' := by
  induction p generalizing s t log with
  | done b =>
      obtain ⟨rfl, rfl⟩ := h
      exact ⟨t, ⟨rfl, rfl⟩, hst⟩
  | call op next ih =>
      obtain ⟨e, h⟩ := h
      obtain ⟨e', hanswer, hst⟩ := step op hp.1 e s t hst
      obtain ⟨t', h', hst'⟩ := ih _ h (hp.2 _) hst
      refine ⟨t', ⟨e', ?_⟩, hst'⟩
      rw [hanswer]
      exact h'

end Calls

end RcProtocol.Library.Machine
