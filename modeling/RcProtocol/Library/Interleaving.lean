import RcProtocol.Library.Program
import Mathlib.Logic.Function.Basic
import Mathlib.Data.List.Induction

/-!
Any number of programs on one shared state, one call at a time in any order.
The history lists the calls with the states around them; what a program was
answered so far is its part of the history.
-/

namespace RcProtocol.Library

structure Move (E : Interface) (σ ι : Type) where
  thread : ι
  event : Event E
  before : σ
  after : σ

structure Pool (E : Interface) (σ ι α : Type) where
  state : σ
  threads : ι → Program E α

section
variable {E : Interface} {σ ι α : Type} [DecidableEq ι]

/-- Of two members of a list one comes first. -/
theorem split_two {l : List α} {a b : α} (ha : a ∈ l) (hb : b ∈ l) (hne : a ≠ b) :
    (∃ l₁ l₂ l₃, l = l₁ ++ a :: (l₂ ++ b :: l₃)) ∨ ∃ l₁ l₂ l₃, l = l₁ ++ b :: (l₂ ++ a :: l₃) := by
  obtain ⟨l₁, l₂, rfl⟩ := List.append_of_mem ha
  obtain hb | hb := List.mem_append.mp hb
  · right
    obtain ⟨s, t, rfl⟩ := List.append_of_mem hb
    exact ⟨s, t, l₂, by rw [List.append_assoc, List.cons_append]⟩
  · obtain hab | hb := List.mem_cons.mp hb
    · exact absurd hab.symm hne
    · left
      obtain ⟨s, t, rfl⟩ := List.append_of_mem hb
      exact ⟨l₁, s, t, rfl⟩

/-- A list cut at two of its members: one cut comes first. -/
theorem split_splits {l₁ l₂ k₁ k₂ : List α} {a b : α} (h : l₁ ++ a :: l₂ = k₁ ++ b :: k₂)
    (hne : a ≠ b) :
    (∃ m, l₂ = m ++ b :: k₂ ∧ k₁ = l₁ ++ a :: m) ∨
      ∃ m, k₂ = m ++ a :: l₂ ∧ l₁ = k₁ ++ b :: m := by
  obtain ⟨m, rfl, hm⟩ | ⟨m, rfl, hm⟩ := List.append_eq_append_iff.mp h
  · cases m with
    | nil => exact absurd (List.cons.inj hm).1 hne
    | cons c m =>
        obtain ⟨rfl, rfl⟩ := List.cons.inj hm
        exact .inl ⟨m, rfl, rfl⟩
  · cases m with
    | nil => exact absurd (List.cons.inj hm).1.symm hne
    | cons c m =>
        obtain ⟨rfl, rfl⟩ := List.cons.inj hm
        exact .inr ⟨m, rfl, rfl⟩

/-- Every member has the property after those before it, the first ones given. -/
def Follows (p : List α → α → Prop) : List α → List α → Prop
  | _, [] => True
  | past, a :: rest => p past a ∧ Follows p (past ++ [a]) rest

instance decidableFollows (p : List α → α → Prop) [∀ past a, Decidable (p past a)] :
    (past l : List α) → Decidable (Follows p past l)
  | _, [] => inferInstanceAs (Decidable True)
  | past, a :: rest =>
      have := decidableFollows p (past ++ [a]) rest
      inferInstanceAs (Decidable (_ ∧ _))

theorem follows_append {p : List α → α → Prop} {past l : List α} :
    Follows p past l ↔ ∀ l₁ a l₂, l = l₁ ++ a :: l₂ → p (past ++ l₁) a := by
  induction l generalizing past with
  | nil => simp [Follows]
  | cons b rest ih =>
      rw [Follows, ih]
      constructor
      · rintro ⟨hb, hrest⟩ l₁ a l₂ hl
        cases l₁ with
        | nil =>
            obtain ⟨rfl, -⟩ := List.cons.inj hl
            rwa [List.append_nil]
        | cons c l₁ =>
            obtain ⟨rfl, hl'⟩ := List.cons.inj hl
            rw [List.append_cons]
            exact hrest l₁ a l₂ hl'
      · intro hall
        refine ⟨?_, fun l₁ a l₂ hl => ?_⟩
        · simpa only [List.append_nil] using hall [] b rest rfl
        · rw [← List.append_cons]
          exact hall (b :: l₁) a l₂ (by rw [hl, List.cons_append])

theorem follows_iff {p : List α → α → Prop} {l : List α} :
    Follows p [] l ↔ ∀ l₁ a l₂, l = l₁ ++ a :: l₂ → p l₁ a :=
  follows_append

/-- The first member with a property. -/
theorem exists_first {p : α → Prop} {l : List α} {a : α} (ha : a ∈ l) (hp : p a) :
    ∃ l₁ b l₂, l = l₁ ++ b :: l₂ ∧ p b ∧ ∀ c ∈ l₁, ¬p c := by
  classical
  obtain ⟨b, l₁, l₂, hl₁, hb, hl, -⟩ :=
    List.exists_of_eraseP (p := fun a => decide (p a)) ha (decide_eq_true hp)
  exact ⟨l₁, b, l₂, hl, of_decide_eq_true hb, fun c hc => by simpa using hl₁ c hc⟩

/-- The events of one thread, oldest first. -/
def eventsOf (i : ι) (h : List (Move E σ ι)) : List (Event E) :=
  (h.filter (·.thread = i)).map (·.event)

@[simp] theorem eventsOf_nil (i : ι) : eventsOf i ([] : List (Move E σ ι)) = [] := rfl

theorem eventsOf_append (i : ι) (h h' : List (Move E σ ι)) :
    eventsOf i (h ++ h') = eventsOf i h ++ eventsOf i h' := by
  simp only [eventsOf, List.filter_append, List.map_append]

theorem eventsOf_self (i : ι) (e : Event E) (s s' : σ) :
    eventsOf i [⟨i, e, s, s'⟩] = [e] := by
  simp [eventsOf]

theorem eventsOf_other {i : ι} {m : Move E σ ι} (h : m.thread ≠ i) : eventsOf i [m] = [] := by
  simp [eventsOf, h]

theorem mem_eventsOf {i : ι} {h : List (Move E σ ι)} {e : Event E} :
    e ∈ eventsOf i h ↔ ∃ m ∈ h, m.thread = i ∧ m.event = e := by
  simp only [eventsOf, List.mem_map, List.mem_filter, decide_eq_true_eq, and_assoc]

variable (m : Machine E σ)

/-- The histories the pool can have, and where each leaves it. -/
inductive Interleaves (start : Pool E σ ι α) : List (Move E σ ι) → Pool E σ ι α → Prop
  | start : Interleaves start [] start
  | step {h : List (Move E σ ι)} {c : Pool E σ ι α} (run : Interleaves start h c) (i : ι)
      {op : E.Op} {next : E.Answer op → Program E α} (hi : c.threads i = .call op next)
      (env : m.Env) :
      Interleaves start
        (h ++ [⟨i, ⟨op, (m.exec env op c.state).1⟩, c.state, (m.exec env op c.state).2⟩])
        ⟨(m.exec env op c.state).2,
          Function.update c.threads i (next (m.exec env op c.state).1)⟩

/-- Let the named threads move in turn; a thread that has returned is skipped. -/
def Pool.schedule (c : Pool E σ ι α) : List (ι × m.Env) → List (Move E σ ι) × Pool E σ ι α
  | [] => ([], c)
  | (i, env) :: rest =>
      match c.threads i with
      | .done _ => c.schedule rest
      | .call op next =>
          let r := m.exec env op c.state
          let c' : Pool E σ ι α := ⟨r.2, Function.update c.threads i (next r.1)⟩
          (⟨i, ⟨op, r.1⟩, c.state, r.2⟩ :: (c'.schedule rest).1, (c'.schedule rest).2)

variable {m} {start c : Pool E σ ι α} {h : List (Move E σ ι)}

theorem Interleaves.schedule (run : Interleaves m start h c) (turns : List (ι × m.Env)) :
    Interleaves m start (h ++ (c.schedule m turns).1) (c.schedule m turns).2 := by
  induction turns generalizing h c with
  | nil => simpa only [Pool.schedule, List.append_nil] using run
  | cons turn rest ih =>
      obtain ⟨i, env⟩ := turn
      simp only [Pool.schedule]
      split
      · exact ih run
      · next op next hi =>
        have h' := ih (run.step i hi env)
        simpa only [List.append_assoc, List.singleton_append] using h'

theorem schedule_interleaves (c : Pool E σ ι α) (turns : List (ι × m.Env)) :
    Interleaves m c (c.schedule m turns).1 (c.schedule m turns).2 :=
  Interleaves.start.schedule turns

theorem Interleaves.move (run : Interleaves m start h c) {v : Move E σ ι} (hv : v ∈ h) :
    ∃ env, m.exec env v.event.op v.before = (v.event.answer, v.after) := by
  induction run with
  | start => simp at hv
  | step run i hi env ih =>
      obtain hv | rfl := by simpa using hv
      · exact ih hv
      · exact ⟨env, rfl⟩

/-- A history cut in two is two runs, the second from where the first ends. -/
theorem Interleaves.cut (run : Interleaves m start h c) {h₁ h₂ : List (Move E σ ι)}
    (hh : h = h₁ ++ h₂) :
    ∃ c₁, Interleaves m start h₁ c₁ ∧ Interleaves m c₁ h₂ c := by
  induction run generalizing h₂ with
  | start =>
      obtain ⟨rfl, rfl⟩ := List.nil_eq_append_iff.mp hh
      exact ⟨start, .start, .start⟩
  | @step h c run i op next hi env ih =>
      cases h₂ using List.reverseRecOn with
      | nil =>
          obtain rfl := hh.trans (List.append_nil h₁)
          exact ⟨_, run.step i hi env, .start⟩
      | append_singleton h₂ w =>
          rw [← List.append_assoc] at hh
          obtain ⟨hh, hw⟩ := List.append_inj' hh rfl
          obtain ⟨c₁, run₁, run₂⟩ := ih hh
          rw [← hw]
          exact ⟨c₁, run₁, run₂.step i hi env⟩

theorem Interleaves.head {v : Move E σ ι} (run : Interleaves m start (v :: h) c) :
    start.state = v.before ∧
      (∃ next, start.threads v.thread = .call v.event.op next) ∧
      ∃ c₁, c₁.state = v.after ∧ Interleaves m c₁ h c := by
  obtain ⟨c₁, run₁, run₂⟩ := run.cut (show v :: h = [v] ++ h from rfl)
  generalize hg : [v] = g at run₁
  cases run₁ with
  | start => cases hg
  | @step g c' run i op next hi env =>
      obtain ⟨hnil, hv⟩ := List.append_inj' (show [] ++ [v] = _ from hg) rfl
      obtain rfl := (List.cons.inj hv).1
      subst hnil
      generalize hn : ([] : List (Move E σ ι)) = g at run
      cases run with
      | start => exact ⟨rfl, ⟨next, hi⟩, _, rfl, run₂⟩
      | step => simp at hn

/-- The run up to one of its moves, and the state that move starts from. -/
theorem Interleaves.split (run : Interleaves m start h c) {h₁ h₂ : List (Move E σ ι)}
    {v : Move E σ ι} (hh : h = h₁ ++ v :: h₂) :
    ∃ c₁ next, Interleaves m start h₁ c₁ ∧ c₁.state = v.before ∧
      c₁.threads v.thread = .call v.event.op next := by
  obtain ⟨c₁, run₁, run₂⟩ := run.cut hh
  obtain ⟨hs, ⟨next, hv⟩, _⟩ := run₂.head
  exact ⟨c₁, next, run₁, hs, hv⟩

theorem Interleaves.meets {calls : ι → List (Event E) → E.Op → Prop}
    {answers : ι → List (Event E) → α → Prop} (run : Interleaves m start h c)
    (hs : ∀ i, Meets (calls i) (answers i) [] (start.threads i)) (i : ι) :
    Meets (calls i) (answers i) (eventsOf i h) (c.threads i) := by
  induction run generalizing i with
  | start => exact hs i
  | @step h c run j op next hj env ih =>
      rw [eventsOf_append]
      by_cases hij : j = i
      · subst hij
        have hm := ih j
        rw [hj] at hm
        simpa only [eventsOf_self, Function.update_self] using hm.2 _
      · rw [eventsOf_other hij, List.append_nil]
        simpa only [Function.update_of_ne (Ne.symm hij)] using ih i

/-- Each move is a call its program may make after the answers it has had. -/
theorem Interleaves.calls {calls : ι → List (Event E) → E.Op → Prop}
    {answers : ι → List (Event E) → α → Prop} (run : Interleaves m start h c)
    (hs : ∀ i, Meets (calls i) (answers i) [] (start.threads i))
    {h₁ h₂ : List (Move E σ ι)} {v : Move E σ ι} (hh : h = h₁ ++ v :: h₂) :
    calls v.thread (eventsOf v.thread h₁) v.event.op := by
  obtain ⟨c₁, next, run₁, _, hv⟩ := run.split hh
  have hm := run₁.meets hs v.thread
  rw [hv] at hm
  exact hm.1

theorem Interleaves.answers {calls : ι → List (Event E) → E.Op → Prop}
    {answers : ι → List (Event E) → α → Prop} (run : Interleaves m start h c)
    (hs : ∀ i, Meets (calls i) (answers i) [] (start.threads i))
    {i : ι} {a : α} (hi : c.threads i = .done a) : answers i (eventsOf i h) a := by
  have hm := run.meets hs i
  rw [hi] at hm
  exact hm

/-- A reflexive and transitive relation that every move satisfies holds from the
start to the end. -/
theorem Interleaves.relates {R : σ → σ → Prop} (refl : ∀ s, R s s)
    (trans : ∀ {a b c}, R a b → R b c → R a c) (run : Interleaves m start h c)
    (step : ∀ v ∈ h, R v.before v.after) : R start.state c.state := by
  induction run with
  | start => exact refl _
  | step run i hi env ih =>
      have hv := step _ (List.mem_append_right _ (List.mem_singleton_self _))
      exact trans (ih fun v hv => step v (List.mem_append_left _ hv)) hv

/-- The same from the end of one move to the start of a later one. -/
theorem Interleaves.relates_between {R : σ → σ → Prop} (refl : ∀ s, R s s)
    (trans : ∀ {a b c}, R a b → R b c → R a c) (run : Interleaves m start h c)
    {h₁ h₂ h₃ : List (Move E σ ι)} {v w : Move E σ ι} (hh : h = h₁ ++ v :: (h₂ ++ w :: h₃))
    (step : ∀ u ∈ h₂, R u.before u.after) : R v.after w.before := by
  obtain ⟨_, _, run₁⟩ := run.cut hh
  obtain ⟨_, _, c₁, hv, run₂⟩ := run₁.head
  obtain ⟨c₂, run₃, run₄⟩ := run₂.cut rfl
  rw [← hv, ← run₄.head.1]
  exact run₃.relates refl trans step

/-- A property that holds at the end held at the start, or some move brings it about. -/
theorem Interleaves.begins {P : σ → Prop} (run : Interleaves m start h c) (hc : P c.state) :
    P start.state ∨ ∃ v ∈ h, ¬P v.before ∧ P v.after := by
  induction run with
  | start => exact .inl hc
  | @step h c run i op next hi env ih =>
      by_cases hbefore : P c.state
      · obtain hstart | ⟨v, hv, hbegins⟩ := ih hbefore
        · exact .inl hstart
        · exact .inr ⟨v, List.mem_append_left _ hv, hbegins⟩
      · exact .inr ⟨_, List.mem_append_right _ (List.mem_singleton_self _), hbefore, hc⟩

theorem Interleaves.stays {P : σ → Prop} (run : Interleaves m start h c)
    (step : ∀ u ∈ h, P u.before → P u.after) (hP : P start.state) : P c.state := by
  refine run.relates (R := fun s s' => P s → P s') (fun _ => id) ?_ step hP
  intro _ _ _ h h' hs
  exact h' (h hs)

/-- A property the moves keep lasts to the end, once a move has brought it about. -/
theorem Interleaves.lasts {P : σ → Prop} (run : Interleaves m start h c)
    (step : ∀ u ∈ h, P u.before → P u.after) {v : Move E σ ι} (hv : v ∈ h) (hP : P v.after) :
    P c.state := by
  obtain ⟨h₁, h₂, rfl⟩ := List.append_of_mem hv
  obtain ⟨_, _, run₁⟩ := run.cut rfl
  obtain ⟨_, _, c₁, hc₁, run₂⟩ := run₁.head
  refine run₂.stays (fun u hu => step u ?_) (hc₁ ▸ hP)
  exact List.mem_append_right _ (List.mem_cons_of_mem _ hu)

/-- A property the moves between keep holds at the start of the later one. -/
theorem Interleaves.keeps_between {I : σ → Prop} (run : Interleaves m start h c)
    {h₁ h₂ h₃ : List (Move E σ ι)} {v w : Move E σ ι} (hh : h = h₁ ++ v :: (h₂ ++ w :: h₃))
    (hv : I v.after) (step : ∀ u ∈ h₂, I u.before → I u.after) : I w.before := by
  refine run.relates_between (R := fun s s' => I s → I s') (fun _ => id) ?_ hh step hv
  intro _ _ _ h h' hs
  exact h' (h hs)

end

end RcProtocol.Library
