import Mathlib.Tactic.Common

/-!
Programs that call operations of an environment, as trees: each call continues
with whatever the environment answers. A program is specified by what it may
call and what it may return after each sequence of answers, whoever runs it.
-/

namespace RcProtocol.Library

/-- The operations a program may call, each with the type of its answer. -/
structure Interface where
  Op : Type
  Answer : Op → Type

structure Event (E : Interface) where
  op : E.Op
  answer : E.Answer op

inductive Program (E : Interface) (α : Type) where
  | done (value : α)
  | call (op : E.Op) (next : E.Answer op → Program E α)

section Combinators
variable {E : Interface} {α β ε : Type}

def perform (op : E.Op) : Program E (E.Answer op) :=
  .call op .done

def Program.bind : Program E α → (α → Program E β) → Program E β
  | .done a, f => f a
  | .call op next, f => .call op fun r => (next r).bind f

def Program.map (f : α → β) (p : Program E α) : Program E β :=
  p.bind fun a => .done (f a)

/-- Go on with the value of a fallible program; leave with `refuse` of its error. -/
def Program.attempt (p : Program E (Except ε α)) (refuse : ε → β)
    (f : α → Program E β) : Program E β :=
  p.bind fun
    | .ok a => f a
    | .error e => .done (refuse e)

end Combinators

section Specification
variable {E : Interface} {α β ε : Type}

/-- After the events of the log, every call satisfies `calls` of the events
before it and every returned value satisfies `answers` of all of them. -/
def Meets (calls : List (Event E) → E.Op → Prop) (answers : List (Event E) → α → Prop) :
    List (Event E) → Program E α → Prop
  | log, .done a => answers log a
  | log, .call op next =>
      calls log op ∧ ∀ r, Meets calls answers (log ++ [⟨op, r⟩]) (next r)

variable {calls calls' : List (Event E) → E.Op → Prop}
  {answers answers' : List (Event E) → α → Prop} {log : List (Event E)}

@[simp] theorem meets_done (a : α) :
    Meets calls answers log (.done a) ↔ answers log a := Iff.rfl

@[simp] theorem meets_call (op : E.Op) (next : E.Answer op → Program E α) :
    Meets calls answers log (.call op next) ↔
      calls log op ∧ ∀ r, Meets calls answers (log ++ [⟨op, r⟩]) (next r) := Iff.rfl

theorem meets_perform (op : E.Op) (answers : List (Event E) → E.Answer op → Prop) :
    Meets calls answers log (perform op) ↔
      calls log op ∧ ∀ r, answers (log ++ [⟨op, r⟩]) r := Iff.rfl

theorem meets_bind (p : Program E α) (f : α → Program E β)
    (answers : List (Event E) → β → Prop) :
    Meets calls answers log (p.bind f) ↔
      Meets calls (fun log a => Meets calls answers log (f a)) log p := by
  induction p generalizing log with
  | done a => rfl
  | call op next ih => simp only [Program.bind, meets_call, ih]

theorem meets_map (f : α → β) (p : Program E α) (answers : List (Event E) → β → Prop) :
    Meets calls answers log (p.map f) ↔
      Meets calls (fun log a => answers log (f a)) log p := by
  simp only [Program.map, meets_bind, meets_done]

theorem meets_attempt (p : Program E (Except ε α)) (refuse : ε → β)
    (f : α → Program E β) (answers : List (Event E) → β → Prop) :
    Meets calls answers log (p.attempt refuse f) ↔
      Meets calls (fun log r =>
        match r with
        | .ok a => Meets calls answers log (f a)
        | .error e => answers log (refuse e)) log p := by
  rw [Program.attempt, meets_bind]
  have h : (fun log r => Meets calls answers log
      (match r with
      | .ok a => f a
      | .error e => .done (refuse e))) =
      fun log (r : Except ε α) =>
        match r with
        | .ok a => Meets calls answers log (f a)
        | .error e => answers log (refuse e) := by
    funext log r
    cases r <;> rfl
  rw [← h]

/-- A program that starts later in the log meets the specification read from there. -/
theorem meets_append (log log' : List (Event E)) (p : Program E α) :
    Meets calls answers (log ++ log') p ↔
      Meets (fun l => calls (log ++ l)) (fun l => answers (log ++ l)) log' p := by
  induction p generalizing log' with
  | done a => rfl
  | call op next ih => simp only [meets_call, List.append_assoc, ih]

theorem Meets.mono {p : Program E α} (h : Meets calls answers log p)
    (hc : ∀ log op, calls log op → calls' log op)
    (ha : ∀ log a, answers log a → answers' log a) : Meets calls' answers' log p := by
  induction p generalizing log with
  | done a => exact ha log a h
  | call op next ih => exact ⟨hc log op h.1, fun r => ih r (h.2 r)⟩

/-- The log a call or a value is reached with: the given one, then events of
calls that were allowed. -/
def Extends (calls : List (Event E) → E.Op → Prop) (log log' : List (Event E)) : Prop :=
  ∃ rest, log' = log ++ rest ∧ ∀ e ∈ rest, ∃ l, calls l e.op

theorem Meets.extends {p : Program E α} (h : Meets calls answers log p) :
    Meets (fun log' op => calls log' op ∧ Extends calls log log')
      (fun log' a => answers log' a ∧ Extends calls log log') log p := by
  have key : ∀ (p : Program E α) log', Meets calls answers log' p → Extends calls log log' →
      Meets (fun log' op => calls log' op ∧ Extends calls log log')
        (fun log' a => answers log' a ∧ Extends calls log log') log' p := by
    intro p log' h hext
    induction p generalizing log' with
    | done a => exact ⟨h, hext⟩
    | call op next ih =>
        refine ⟨⟨h.1, hext⟩, fun r => ih r _ (h.2 r) ?_⟩
        obtain ⟨rest, rfl, hrest⟩ := hext
        refine ⟨rest ++ [⟨op, r⟩], by rw [List.append_assoc], fun e he => ?_⟩
        obtain he | he := List.mem_append.mp he
        · exact hrest e he
        · obtain rfl := List.mem_singleton.mp he
          exact ⟨_, h.1⟩
  exact key p log h ⟨[], (List.append_nil log).symm, fun e he => absurd he List.not_mem_nil⟩

end Specification

/-- What answers the calls: one operation in one environment takes the shared
state to an answer and the next state. -/
structure Machine (E : Interface) (σ : Type) where
  Env : Type
  exec : Env → (op : E.Op) → σ → E.Answer op × σ

namespace Machine
variable {E : Interface} {σ α : Type} (m : Machine E σ)

/-- The states a sequence of events leads through. -/
inductive Trace : σ → List (Event E) → σ → Prop
  | nil (s : σ) : Trace s [] s
  | cons {s s' : σ} {log : List (Event E)} (env : m.Env) (op : E.Op)
      (h : Trace (m.exec env op s).2 log s') :
      Trace s (⟨op, (m.exec env op s).1⟩ :: log) s'

structure Outcome (E : Interface) (σ α : Type) where
  answer : α
  log : List (Event E)
  state : σ

/-- The program alone on the state, its n-th call in the n-th environment. -/
def run : Program E α → (Nat → m.Env) → σ → Outcome E σ α
  | .done a, _, s => ⟨a, [], s⟩
  | .call op next, env, s =>
      let r := m.exec (env 0) op s
      let o := run (next r.1) (fun n => env (n + 1)) r.2
      ⟨o.answer, ⟨op, r.1⟩ :: o.log, o.state⟩

theorem run_bind {β : Type} (p : Program E α) (f : α → Program E β) (env : Nat → m.Env) (s : σ) :
    m.run (p.bind f) env s =
      let o := m.run p env s
      let o' := m.run (f o.answer) (fun n => env (n + o.log.length)) o.state
      ⟨o'.answer, o.log ++ o'.log, o'.state⟩ := by
  induction p generalizing env s with
  | done a => rfl
  | call op next ih =>
      simp only [Program.bind, run, ih, List.length_cons, List.cons_append, Nat.add_assoc]

/-- Alone on the state, in an environment that stays the same, the program returns
this value and leaves this state. -/
structure Evaluates (e : m.Env) (p : Program E α) (s : σ) (a : α) (s' : σ) : Prop where
  answer : (m.run p (fun _ => e) s).answer = a
  state : (m.run p (fun _ => e) s).state = s'

section Evaluation
variable {m} {β ε : Type} {e : m.Env} {s s' s'' : σ} {a : α} {b : β}

theorem evaluates_done : m.Evaluates e (.done a) s a s := ⟨rfl, rfl⟩

theorem evaluates_perform {op : E.Op} {r : E.Answer op} (h : m.exec e op s = (r, s')) :
    m.Evaluates e (perform op) s r s' :=
  ⟨congrArg Prod.fst h, congrArg Prod.snd h⟩

theorem Evaluates.bind {p : Program E α} {f : α → Program E β} (hp : m.Evaluates e p s a s')
    (hf : m.Evaluates e (f a) s' b s'') : m.Evaluates e (p.bind f) s b s'' := by
  constructor
  · simp only [run_bind, hp.answer, hp.state, hf.answer]
  · simp only [run_bind, hp.answer, hp.state, hf.state]

theorem Evaluates.map {p : Program E α} (f : α → β) (hp : m.Evaluates e p s a s') :
    m.Evaluates e (p.map f) s (f a) s' :=
  hp.bind evaluates_done

theorem Evaluates.attempt {p : Program E (Except ε α)} {refuse : ε → β} {f : α → Program E β}
    (hp : m.Evaluates e p s (.ok a) s') (hf : m.Evaluates e (f a) s' b s'') :
    m.Evaluates e (p.attempt refuse f) s b s'' :=
  hp.bind hf

end Evaluation

theorem run_trace (p : Program E α) (env : Nat → m.Env) (s : σ) :
    m.Trace s (m.run p env s).log (m.run p env s).state := by
  induction p generalizing env s with
  | done a => exact .nil s
  | call op next ih => exact .cons (env 0) op (ih _ _ _)

/-- The machine in some of its environments. -/
@[reducible] def restrict (P : m.Env → Prop) : Machine E σ where
  Env := { e : m.Env // P e }
  exec e := m.exec e.1

theorem run_restrict {P : m.Env → Prop} (p : Program E α) (env : Nat → (m.restrict P).Env) (s : σ) :
    (m.restrict P).run p env s = m.run p (fun n => (env n).1) s := by
  induction p generalizing env s with
  | done a => rfl
  | call op next ih =>
      rw [run, run]
      dsimp only
      rw [ih]

theorem trace_nil {s s' : σ} : m.Trace s [] s' ↔ s' = s := by
  constructor
  · intro h
    cases h
    rfl
  · rintro rfl
    exact .nil _

theorem trace_cons {s s' : σ} {op : E.Op} {r : E.Answer op} {log : List (Event E)} :
    m.Trace s (⟨op, r⟩ :: log) s' ↔
      ∃ env, (m.exec env op s).1 = r ∧ m.Trace (m.exec env op s).2 log s' := by
  constructor
  · intro h
    cases h with
    | cons env op h => exact ⟨env, rfl, h⟩
  · rintro ⟨env, rfl, h⟩
    exact .cons env op h

theorem trace_append {s s' : σ} {log log' : List (Event E)} :
    m.Trace s (log ++ log') s' ↔ ∃ t, m.Trace s log t ∧ m.Trace t log' s' := by
  induction log generalizing s with
  | nil => simp only [List.nil_append, trace_nil, exists_eq_left]
  | cons e log ih =>
      obtain ⟨op, r⟩ := e
      simp only [List.cons_append, trace_cons, ih]
      constructor
      · rintro ⟨env, hr, t, h, h'⟩
        exact ⟨t, ⟨env, hr, h⟩, h'⟩
      · rintro ⟨t, ⟨env, hr, h⟩, h'⟩
        exact ⟨env, hr, t, h, h'⟩

/-- One event of a trace, and the states around it. -/
theorem trace_split {s s' : σ} {before after : List (Event E)} {e : Event E}
    (h : m.Trace s (before ++ e :: after) s') :
    ∃ t env, m.Trace s before t ∧ (m.exec env e.op t).1 = e.answer ∧
      m.Trace (m.exec env e.op t).2 after s' := by
  obtain ⟨t, ht, h⟩ := m.trace_append.mp h
  obtain ⟨op, r⟩ := e
  obtain ⟨env, hr, h⟩ := m.trace_cons.mp h
  exact ⟨t, env, ht, hr, h⟩

/-- The same of a run, whose n-th event is answered in the n-th environment. -/
theorem run_split (p : Program E α) (env : Nat → m.Env) (s : σ) {before after : List (Event E)}
    {e : Event E} (h : (m.run p env s).log = before ++ e :: after) :
    ∃ t, m.Trace s before t ∧ (m.exec (env before.length) e.op t).1 = e.answer ∧
      m.Trace (m.exec (env before.length) e.op t).2 after (m.run p env s).state := by
  induction p generalizing env s before with
  | done a => exact absurd h (by simp [run])
  | call op next ih =>
      cases before with
      | nil =>
          obtain ⟨rfl, rfl⟩ := List.cons.inj h
          exact ⟨s, .nil s, rfl, m.run_trace _ _ _⟩
      | cons b before =>
          obtain ⟨rfl, hlog⟩ := List.cons.inj h
          obtain ⟨t, htrace, hanswer, hafter⟩ := ih _ _ _ hlog
          exact ⟨t, .cons (env 0) op htrace, hanswer, hafter⟩

/-- A property every event keeps holds after the whole trace. -/
theorem Trace.invariant {m : Machine E σ} {I : σ → Prop} {s s' : σ} {log : List (Event E)}
    (h : m.Trace s log s') (hs : I s)
    (step : ∀ env op t, (⟨op, (m.exec env op t).1⟩ : Event E) ∈ log → I t →
      I (m.exec env op t).2) : I s' := by
  induction h with
  | nil s => exact hs
  | cons env op h ih =>
      apply ih (step env op _ (List.mem_cons_self ..) hs)
      intro env op t ht
      exact step env op t (List.mem_cons_of_mem _ ht)

variable {calls : List (Event E) → E.Op → Prop} {answers : List (Event E) → α → Prop}
  {log : List (Event E)}

theorem meets_run_answer {p : Program E α} (h : Meets calls answers log p)
    (env : Nat → m.Env) (s : σ) :
    answers (log ++ (m.run p env s).log) (m.run p env s).answer := by
  induction p generalizing log env s with
  | done a => simpa only [run, List.append_nil, meets_done] using h
  | call op next ih =>
      have h' := ih _ (h.2 (m.exec (env 0) op s).1) (fun n => env (n + 1)) (m.exec (env 0) op s).2
      simpa only [run, List.append_assoc, List.singleton_append] using h'

theorem meets_run_calls {p : Program E α} (h : Meets calls answers log p)
    (env : Nat → m.Env) (s : σ) {before after : List (Event E)} {e : Event E}
    (hlog : (m.run p env s).log = before ++ e :: after) : calls (log ++ before) e.op := by
  induction p generalizing log env s before with
  | done a => simp only [run, List.nil_eq_append_iff, reduceCtorEq, and_false] at hlog
  | call op next ih =>
      simp only [run] at hlog
      cases before with
      | nil =>
          obtain ⟨rfl, _⟩ := List.cons.inj hlog
          simpa only [List.append_nil] using h.1
      | cons e' before =>
          obtain ⟨rfl, hrest⟩ := List.cons.inj hlog
          have h' := ih _ (h.2 _) _ _ hrest
          simpa only [List.append_assoc, List.singleton_append] using h'

end Machine

end RcProtocol.Library
