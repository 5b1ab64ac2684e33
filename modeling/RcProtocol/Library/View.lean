import RcProtocol.Library.Interleaving

/-!
A keyed part of the shared state that only some events write, each at one key.
What a run makes of the part is what these events make of it.
-/

namespace RcProtocol.Library

/-- The value at a key after an event that writes one key, or none. -/
def written {κ ν : Type} [DecidableEq κ] (w : Option (κ × (ν → ν))) (k : κ) (old : Option ν) :
    Option ν :=
  match w with
  | some (key, f) => if key = k then old.map f else old
  | none => old

structure View {E : Interface} {σ : Type} (m : Machine E σ) (κ ν : Type) [DecidableEq κ] where
  get : σ → κ → Option ν
  write : Event E → Option (κ × (ν → ν))
  step : ∀ env op s k,
    get (m.exec env op s).2 k = written (write ⟨op, (m.exec env op s).1⟩) k (get s k)

namespace View
variable {E : Interface} {σ κ ν : Type} [DecidableEq κ] {m : Machine E σ} (view : View m κ ν)
  {log log' : List (Event E)} {k key : κ} {f : ν → ν}

/-- The log has an event that wrote the view. -/
def Wrote (log : List (Event E)) : Prop := (log.any fun e => (view.write e).isSome) = true

instance (log : List (Event E)) : Decidable (view.Wrote log) :=
  inferInstanceAs (Decidable (_ = true))

variable {view}

theorem not_wrote_iff : ¬view.Wrote log ↔ ∀ e ∈ log, view.write e = none := by
  simp [Wrote]

theorem not_wrote_nil : ¬view.Wrote [] := by simp [Wrote]

theorem not_wrote_append :
    ¬view.Wrote (log ++ log') ↔ ¬view.Wrote log ∧ ¬view.Wrote log' := by
  simp only [not_wrote_iff, List.forall_mem_append]

theorem wrote_of_mem {e : Event E} {w : κ × (ν → ν)} (he : e ∈ log) (hw : view.write e = some w) :
    view.Wrote log := by
  rw [Wrote, List.any_eq_true]
  exact ⟨e, he, by rw [hw, Option.isSome_some]⟩

theorem Wrote.split (h : view.Wrote log) :
    ∃ before e after key f, log = before ++ e :: after ∧ view.write e = some (key, f) := by
  obtain ⟨e, he, hw⟩ := List.any_eq_true.mp h
  obtain ⟨⟨key, f⟩, hf⟩ := Option.isSome_iff_exists.mp hw
  obtain ⟨before, after, rfl⟩ := List.append_of_mem he
  exact ⟨before, e, after, key, f, rfl, hf⟩

/-- Events that write the view at other keys leave it as it was at this one. -/
theorem get_trace_other {s s' : σ} (h : m.Trace s log s') {k : κ}
    (hlog : ∀ e ∈ log, ∀ key f, view.write e = some (key, f) → key ≠ k) :
    view.get s' k = view.get s k := by
  refine h.invariant (I := fun t => view.get t k = view.get s k) rfl ?_
  intro env op t he ht
  have hstep := view.step env op t k
  cases hw : view.write ⟨op, (m.exec env op t).1⟩ with
  | none =>
      rw [hw] at hstep
      exact hstep.trans ht
  | some w =>
      obtain ⟨key, f⟩ := w
      rw [hw, written, if_neg (hlog _ he key f hw)] at hstep
      exact hstep.trans ht

/-- Events that do not write the view leave it as it was. -/
theorem get_trace {s s' : σ} (h : m.Trace s log s') (hlog : ∀ e ∈ log, view.write e = none)
    (k : κ) : view.get s' k = view.get s k := by
  refine get_trace_other h fun e he key f hw => ?_
  rw [hlog e he] at hw
  cases hw

/-- A program that writes the view only after logs that have not writes it in at
most one place. -/
theorem run_split {α : Type} {calls : List (Event E) → E.Op → Prop}
    {answers : List (Event E) → α → Prop} {p : Program E α} (h : Meets calls answers [] p)
    (honce : ∀ log e key f, calls log e.op → view.write e = some (key, f) → ¬view.Wrote log)
    (env : Nat → m.Env) (s : σ) :
    ¬view.Wrote (m.run p env s).log ∨
    ∃ before e after key f, (m.run p env s).log = before ++ e :: after ∧ calls before e.op ∧
      view.write e = some (key, f) ∧ ¬view.Wrote before ∧ ¬view.Wrote after := by
  have hcalls : ∀ {before after : List (Event E)} {e : Event E},
      (m.run p env s).log = before ++ e :: after → calls before e.op :=
    fun hlog => m.meets_run_calls h env s hlog
  generalize (m.run p env s).log = log at *
  by_cases hc : view.Wrote log
  · right
    obtain ⟨before, e, after, key, f, rfl, hf⟩ := hc.split
    refine ⟨before, e, after, key, f, rfl, hcalls rfl, hf, honce before e key f (hcalls rfl) hf, ?_⟩
    intro hagain
    obtain ⟨middle, e', after', key', f', rfl, hf'⟩ := hagain.split
    have hc' : calls (before ++ e :: middle) e'.op :=
      hcalls (e := e') (by rw [List.append_assoc, List.cons_append])
    exact honce _ e' key' f' hc' hf'
      (wrote_of_mem (List.mem_append_right _ (List.mem_cons_self ..)) hf)
  · exact .inl hc

/-- What a trace makes of the view is what its only writing event does. -/
theorem get_trace_one {s s' : σ} {before after : List (Event E)} {e : Event E}
    (h : m.Trace s (before ++ e :: after) s') (hbefore : ¬view.Wrote before)
    (hafter : ¬view.Wrote after) (k : κ) :
    view.get s' k = written (view.write e) k (view.get s k) := by
  obtain ⟨t, env, ht, hr, h⟩ := m.trace_split h
  have hstep := view.step env e.op t k
  rw [hr] at hstep
  rw [get_trace h (not_wrote_iff.mp hafter), hstep, get_trace ht (not_wrote_iff.mp hbefore)]

/-- A program that writes the view only after logs that have not writes it at most
once, and then from the view of the state it started in. -/
theorem run_once {α : Type} {calls : List (Event E) → E.Op → Prop}
    {answers : List (Event E) → α → Prop} {p : Program E α} (h : Meets calls answers [] p)
    (honce : ∀ log e key f, calls log e.op → view.write e = some (key, f) → ¬view.Wrote log)
    (env : Nat → m.Env) (s : σ) :
    (¬view.Wrote (m.run p env s).log ∧
      ∀ k, view.get (m.run p env s).state k = view.get s k) ∨
    ∃ before e after key f t, (m.run p env s).log = before ++ e :: after ∧
      calls before e.op ∧ view.write e = some (key, f) ∧ m.Trace s before t ∧
      ∀ k, view.get (m.run p env s).state k =
        if key = k then (view.get s k).map f else view.get s k := by
  have htrace := m.run_trace p env s
  obtain hc | ⟨before, e, after, key, f, hlog, hcall, hf, hbefore, hafter⟩ :=
    run_split h honce env s
  · exact .inl ⟨hc, get_trace htrace (not_wrote_iff.mp hc)⟩
  · right
    rw [hlog] at htrace
    obtain ⟨t, env', ht, -, -⟩ := m.trace_split htrace
    refine ⟨before, e, after, key, f, t, hlog, hcall, hf, ht, fun k => ?_⟩
    rw [get_trace_one htrace hbefore hafter, hf]
    rfl

section Moves
variable {ι α : Type} [DecidableEq ι] {c₀ c : Pool E σ ι α} {h : List (Move E σ ι)}
  {v : Move E σ ι}

theorem move_step (run : Interleaves m c₀ h c) (hv : v ∈ h) (k : κ) :
    view.get v.after k = written (view.write v.event) k (view.get v.before k) := by
  obtain ⟨env, hexec⟩ := run.move hv
  have hstep := view.step env v.event.op v.before k
  rw [hexec] at hstep
  exact hstep

/-- A move leaves the view of a key as it was, or writes it. -/
theorem move_cases (run : Interleaves m c₀ h c) (hv : v ∈ h) (k : κ) :
    view.get v.after k = view.get v.before k ∨
      ∃ f, view.write v.event = some (k, f) ∧
        view.get v.after k = (view.get v.before k).map f := by
  have hstep := view.move_step run hv k
  cases hw : view.write v.event with
  | none =>
      rw [hw] at hstep
      exact .inl hstep
  | some w =>
      obtain ⟨key, f⟩ := w
      rw [hw] at hstep
      simp only [written] at hstep
      by_cases hk : key = k
      · subst hk
        rw [if_pos rfl] at hstep
        exact .inr ⟨f, rfl, hstep⟩
      · rw [if_neg hk] at hstep
        exact .inl hstep

/-- Moves that do not write the view leave it as it was. -/
theorem get_run (run : Interleaves m c₀ h c) (hh : ∀ v ∈ h, view.write v.event = none) (k : κ) :
    view.get c.state k = view.get c₀.state k := by
  refine run.relates (R := fun s s' => view.get s' k = view.get s k) (fun _ => rfl) ?_ ?_
  · intro _ _ _ h h'
    exact Eq.trans h' h
  · intro v hv
    have hstep := view.move_step run hv k
    rw [hh v hv] at hstep
    exact hstep

/-- Where no move between two writes the view of a key, the second finds it as the first
left it. -/
theorem get_between (run : Interleaves m c₀ h c) {h₁ h₂ h₃ : List (Move E σ ι)}
    {u : Move E σ ι} (hh : h = h₁ ++ u :: (h₂ ++ v :: h₃))
    (hnone : ∀ w ∈ h₂, ∀ f, view.write w.event ≠ some (k, f)) :
    view.get v.before k = view.get u.after k := by
  refine run.relates_between (R := fun s s' => view.get s' k = view.get s k) (fun _ => rfl) ?_ hh ?_
  · intro _ _ _ h h'
    exact Eq.trans h' h
  · intro w hw
    have hmem : w ∈ h := by
      rw [hh]
      simp [hw]
    obtain hsame | ⟨f, hf, -⟩ := view.move_cases run hmem k
    · exact hsame
    · exact absurd hf (hnone w hw f)

end Moves

end View

end RcProtocol.Library
