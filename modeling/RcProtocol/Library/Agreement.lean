import RcProtocol.Library.Program

/-!
One program run by two machines. They agree on it where it returns the same value on
both and leaves states that are related. Agreement composes as programs do, and it
holds of a program whose every call is answered alike.
-/

namespace RcProtocol.Library.Machine
variable {E : Interface} {σ τ α β ε : Type}

structure Agrees (m : Machine E σ) (m' : Machine E τ) (R : σ → τ → Prop) (p : Program E α)
    (env : Nat → m.Env) (env' : Nat → m'.Env) (s : σ) (t : τ) : Prop where
  answer : (m.run p env s).answer = (m'.run p env' t).answer
  state : R (m.run p env s).state (m'.run p env' t).state

variable {m : Machine E σ} {m' : Machine E τ} {R S : σ → τ → Prop} {env : Nat → m.Env}
  {env' : Nat → m'.Env} {s : σ} {t : τ}

theorem run_map (p : Program E α) (f : α → β) (env : Nat → m.Env) (s : σ) :
    m.run (p.map f) env s = ⟨f (m.run p env s).answer, (m.run p env s).log, (m.run p env s).state⟩ := by
  rw [Program.map, run_bind]
  simp only [run, List.append_nil]

/-- The calls of the first part of a program come first. -/
theorem mem_log_bind {p : Program E α} {f : α → Program E β} {e : Event E}
    (h : e ∈ (m.run p env s).log) : e ∈ (m.run (p.bind f) env s).log := by
  rw [run_bind]
  exact List.mem_append_left _ h

theorem mem_log_then {p : Program E α} {f : α → Program E β} {e : Event E}
    (h : e ∈ (m.run (f (m.run p env s).answer) (fun n => env (n + (m.run p env s).log.length))
      (m.run p env s).state).log) : e ∈ (m.run (p.bind f) env s).log := by
  rw [run_bind]
  exact List.mem_append_right _ h

theorem agrees_done {a : α} (h : R s t) : m.Agrees m' R (.done a) env env' s t := ⟨rfl, h⟩

theorem agrees_call {op : E.Op} {next : E.Answer op → Program E α}
    (hanswer : (m.exec (env 0) op s).1 = (m'.exec (env' 0) op t).1)
    (hnext : m.Agrees m' R (next (m.exec (env 0) op s).1) (fun n => env (n + 1))
      (fun n => env' (n + 1)) (m.exec (env 0) op s).2 (m'.exec (env' 0) op t).2) :
    m.Agrees m' R (.call op next) env env' s t := by
  constructor
  · simpa only [run, hanswer] using hnext.answer
  · simpa only [run, hanswer] using hnext.state

theorem Agrees.bind {p : Program E α} {f : α → Program E β} (hp : m.Agrees m' S p env env' s t)
    (hf : m.Agrees m' R (f (m.run p env s).answer)
      (fun n => env (n + (m.run p env s).log.length))
      (fun n => env' (n + (m'.run p env' t).log.length))
      (m.run p env s).state (m'.run p env' t).state) :
    m.Agrees m' R (p.bind f) env env' s t := by
  constructor
  · rw [run_bind, run_bind]
    simpa only [hp.answer] using hf.answer
  · rw [run_bind, run_bind]
    simpa only [hp.answer] using hf.state

theorem Agrees.map {p : Program E α} (f : α → β) (hp : m.Agrees m' R p env env' s t) :
    m.Agrees m' R (p.map f) env env' s t :=
  hp.bind (agrees_done hp.state)

/-- A program agrees whose calls are all answered alike, from related states. -/
theorem agrees_of_meets {calls : E.Op → Prop} {answers : List (Event E) → α → Prop}
    {log : List (Event E)} {p : Program E α} (hp : Meets (fun _ => calls) answers log p)
    (step : ∀ op, calls op → ∀ e e' s t, R s t →
      (m.exec e op s).1 = (m'.exec e' op t).1 ∧ R (m.exec e op s).2 (m'.exec e' op t).2)
    (h : R s t) : m.Agrees m' R p env env' s t := by
  induction p generalizing log env env' s t with
  | done a => exact agrees_done h
  | call op next ih =>
      obtain ⟨hanswer, hnext⟩ := step op hp.1 (env 0) (env' 0) s t h
      exact agrees_call hanswer (ih _ (hp.2 _) hnext)

end RcProtocol.Library.Machine
