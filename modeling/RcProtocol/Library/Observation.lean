import RcProtocol.Library.Program

/-!
Runs with what an observer picks out of their log. Two runs are compared by their values
and by what is seen of them.
-/

namespace RcProtocol.Library
namespace Machine
variable {E : Interface} {σ α β ε ω : Type} {m : Machine E σ} {see : Event E → Option ω} {e : m.Env}
  {s s' s'' : σ} {a : α} {b : β} {seen seen' : List ω}

/-- An evaluation during which this is seen. -/
structure Observes (m : Machine E σ) (see : Event E → Option ω) (e : m.Env) (p : Program E α)
    (s : σ)
    (a : α) (seen : List ω) (s' : σ) : Prop extends m.Evaluates e p s a s' where
  seen : (m.run p (fun _ => e) s).log.filterMap see = seen

theorem observes_done : m.Observes see e (.done a) s a [] s := ⟨evaluates_done, rfl⟩

theorem observes_perform {op : E.Op} {r : E.Answer op} (h : m.exec e op s = (r, s')) :
    m.Observes see e (perform op) s r (see ⟨op, r⟩).toList s' := by
  refine ⟨evaluates_perform h, ?_⟩
  have hlog : (m.run (perform op) (fun _ => e) s).log = [⟨op, r⟩] := by
    simp only [perform, run, h]
  rw [hlog, List.filterMap_cons]
  cases see ⟨op, r⟩ with
  | none => rfl
  | some w => rfl

theorem Observes.bind {p : Program E α} {f : α → Program E β} (hp : m.Observes see e p s a seen s')
    (hf : m.Observes see e (f a) s' b seen' s'') :
    m.Observes see e (p.bind f) s b (seen ++ seen') s'' := by
  refine ⟨hp.toEvaluates.bind hf.toEvaluates, ?_⟩
  simp only [run_bind, List.filterMap_append, hp.seen, hp.answer, hp.state, hf.seen]

theorem Observes.map {p : Program E α} (f : α → β) (hp : m.Observes see e p s a seen s') :
    m.Observes see e (p.map f) s (f a) seen s' := by
  have hdone : m.Observes see e (.done (f a)) s' (f a) [] s' := observes_done
  rw [← List.append_nil seen]
  exact hp.bind hdone

theorem Observes.attempt {p : Program E (Except ε α)} {refuse : ε → β} {f : α → Program E β}
    (hp : m.Observes see e p s (.ok a) seen s') (hf : m.Observes see e (f a) s' b seen' s'') :
    m.Observes see e (p.attempt refuse f) s b (seen ++ seen') s'' :=
  hp.bind hf

theorem Observes.refuse {p : Program E (Except ε α)} {refuse : ε → β} {f : α → Program E β}
    {err : ε}
    (hp : m.Observes see e p s (.error err) seen s') :
    m.Observes see e (p.attempt refuse f) s (refuse err) seen s' := by
  have hdone : m.Observes see e (.done (refuse err)) s' (refuse err) [] s' := observes_done
  rw [← List.append_nil seen]
  exact hp.bind hdone

/-- Nothing is seen of a program none of whose calls is visible. -/
theorem Evaluates.unseen {p : Program E α} {calls : E.Op → Prop} (h : m.Evaluates e p s a s')
    (hp : Meets (fun _ => calls) (fun _ _ => True) [] p)
    (hsee : ∀ op, calls op → ∀ r, see ⟨op, r⟩ = none) : m.Observes see e p s a [] s' := by
  refine ⟨h, ?_⟩
  apply List.filterMap_eq_nil_iff.mpr
  intro event hevent
  obtain ⟨before, after, hlog⟩ := List.append_of_mem hevent
  exact hsee event.op (m.meets_run_calls hp _ _ hlog) event.answer

end Machine
end RcProtocol.Library
