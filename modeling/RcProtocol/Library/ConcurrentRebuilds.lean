import RcProtocol.Library.Beside
import RcProtocol.Library.Rebuild

/-!
Programs that rebuild a cache at once, whatever else they do. What each event is to the cache is
given; a program that takes the acts of a rebuild in their order ends with nothing in its hands,
and when all have ended the cache is as it was or the source, even if it was stale.
-/

namespace RcProtocol.Library.Rebuild

/-- What an event is to the cache. -/
inductive Act (α : Type) where
  | read (items : List α)
  | clear
  | add (a : α)
  | aside

section Stages
variable {α : Type}

def Stage.next (t : Stage α) : Act α → Stage α
  | .read items => .holding items
  | .clear =>
      match t with
      | .holding items => .adding items
      | t => t
  | .add _ =>
      match t with
      | .adding items => .adding items.tail
      | t => t
  | .aside => t

/-- The act is one a rebuild may take next. -/
def Stage.Allows (t : Stage α) : Act α → Prop
  | .read _ => ¬t.Open
  | .clear => ∃ items, t = .holding items
  | .add a => ∃ items, t = .adding (a :: items)
  | .aside => True

end Stages

section Programs
variable {E F : Interface} {α β : Type} (act : Event E → Act α) (answered : Event E → Prop)
  (ops : E.Op → Prop)

def stageOf (log : List (Event E)) : Stage α := log.foldl (fun t e => t.next (act e)) .idle

def AllAnswered (log : List (Event E)) : Prop := ∀ e ∈ log, answered e

/-- The call is one of these and, as long as all are answered, an act of the rebuild. -/
def Allowed (log : List (Event E)) (op : E.Op) : Prop :=
  ops op ∧ ∀ r, AllAnswered answered (log ++ [⟨op, r⟩]) →
    (stageOf act log).Allows (act ⟨op, r⟩)

/-- Where every call was answered, nothing is left to add. -/
def Closes (log : List (Event E)) : Prop :=
  AllAnswered answered log → ¬(stageOf act log).Open

theorem stageOf_append (log : List (Event E)) (e : Event E) :
    stageOf act (log ++ [e]) = (stageOf act log).next (act e) := by
  rw [stageOf, List.foldl_append]
  rfl

/-- The acts of a system beside another one, whose events are nothing to the cache. -/
def onLeft (e : Event (E.beside F)) : Act α := (leftEvent e).elim .aside act

def OnLeft (e : Event (E.beside F)) : Prop := ∀ e', leftEvent e = some e' → answered e'

theorem stageOf_onLeft (log : List (Event (E.beside F))) :
    stageOf (onLeft act) log = stageOf act (log.filterMap leftEvent) := by
  induction log using List.reverseRecOn with
  | nil => rfl
  | append_singleton log e ih =>
      rw [stageOf_append, ih, List.filterMap_append, onLeft]
      cases hleft : leftEvent e with
      | none =>
          rw [List.filterMap_cons, hleft]
          simp [Stage.next]
      | some e' =>
          rw [List.filterMap_cons, hleft]
          exact (stageOf_append act _ e').symm

variable {act answered ops}

theorem allAnswered_append {log : List (Event E)} {e : Event E} :
    AllAnswered answered (log ++ [e]) ↔ AllAnswered answered log ∧ answered e := by
  rw [AllAnswered, List.forall_mem_append, List.forall_mem_singleton]
  rfl

theorem allAnswered_left {log : List (Event (E.beside F))}
    (h : AllAnswered (OnLeft answered) log) : AllAnswered answered (log.filterMap leftEvent) := by
  intro e he
  obtain ⟨e', he', hleft⟩ := List.mem_filterMap.mp he
  exact h e' he' e hleft

theorem meets_aside_since {p : Program E β} {since log : List (Event E)}
    {answers : List (Event E) → β → Prop} (hstage : stageOf act log = stageOf act since)
    (hsince : AllAnswered answered log → AllAnswered answered since)
    (h : Meets (fun _ op => ops op ∧ ∀ r, act ⟨op, r⟩ = .aside) answers log p) :
    Meets (Allowed act answered ops)
      (fun log' a => stageOf act log' = stageOf act since ∧
        (AllAnswered answered log' → AllAnswered answered since) ∧ answers log' a) log p := by
  induction p generalizing log with
  | done a => exact ⟨hstage, hsince, h⟩
  | call op next ih =>
      obtain ⟨⟨hop, haside⟩, hnext⟩ := h
      refine ⟨⟨hop, fun r _ => ?_⟩, fun r => ih r ?_ ?_ (hnext r)⟩
      · rw [haside r]
        trivial
      · rw [stageOf_append, haside r]
        exact hstage
      · intro hlog
        exact hsince (allAnswered_append.mp hlog).1

/-- A program with nothing to do with the cache leaves the rebuild where it is. -/
theorem meets_aside {p : Program E β} {log : List (Event E)} {answers : List (Event E) → β → Prop}
    (h : Meets (fun _ op => ops op ∧ ∀ r, act ⟨op, r⟩ = .aside) answers log p) :
    Meets (Allowed act answered ops)
      (fun log' a => stageOf act log' = stageOf act log ∧
        (AllAnswered answered log' → AllAnswered answered log) ∧ answers log' a) log p :=
  meets_aside_since rfl id h

theorem Closes.left {log : List (Event (E.beside F))}
    (h : Closes act answered (log.filterMap leftEvent)) :
    Closes (onLeft act) (OnLeft answered) log := by
  intro hlog
  rw [stageOf_onLeft]
  exact h (allAnswered_left hlog)

/-- A program keeps the order of a rebuild beside another system. -/
theorem Allowed.left {answers : List (Event E) → β → Prop} {p : Program E β}
    {log : List (Event (E.beside F))}
    (h : Meets (Allowed act answered ops) answers (log.filterMap leftEvent) p) :
    Meets (Allowed (onLeft act) (OnLeft answered) fun op => ∀ op', op = .inl op' → ops op')
      (fun log => answers (log.filterMap leftEvent)) log p.left := by
  refine h.left.mono (fun log op hcall => ?_) fun _ _ hanswer => hanswer
  obtain ⟨op', rfl, hop, hallows⟩ := hcall
  refine ⟨fun op'' hsame => ?_, fun r hr => ?_⟩
  · cases hsame
    exact hop
  · rw [stageOf_onLeft]
    have hanswered := allAnswered_left hr
    rw [List.filterMap_append] at hanswered
    exact hallows r hanswered

end Programs

/-- Somebody has begun to fill the cache, if there is anything to fill it with. -/
def State.Begun {ι α : Type} (s : State ι α) : Prop :=
  s.source = ∅ ∨ s.cache.Nonempty ∨ ∃ a, s.Owes a

/-- No task has cleared the cache; what they hold is the source. -/
structure State.Untouched {ι α : Type} (s : State ι α) : Prop where
  holding : ∀ i items, s.tasks i = .holding items → ∀ a, a ∈ items ↔ a ∈ s.source
  adding : ∀ i items, s.tasks i ≠ .adding items

section States
variable {ι α : Type} {s : State ι α}

theorem Inv.eq_source (h : Inv s) (hbegun : s.Begun) (hclosed : ∀ i, ¬(s.tasks i).Open) :
    s.cache = s.source := by
  cases h.reflects hclosed with
  | inr hsource => exact hsource
  | inl hempty =>
      cases hbegun with
      | inl hnone => rw [hempty, hnone]
      | inr hbegun =>
          cases hbegun with
          | inl hcache => exact absurd hempty hcache.ne_empty
          | inr howes =>
              obtain ⟨a, ha⟩ := howes
              exact absurd ha (not_owes_of_closed hclosed a)

/-- The first clear makes a cache of any content one of the source. -/
theorem State.Untouched.inv_empty (h : s.Untouched) : Inv { s with cache := ∅ } := by
  have howes : ∀ a, ¬({ s with cache := ∅ } : State ι α).Owes a := by
    intro a hmem
    obtain ⟨i, items, hi, -⟩ := hmem
    exact h.adding i items hi
  exact ⟨h.holding, fun a ha => absurd ha (howes a), Set.empty_subset _, .inl ⟨rfl, howes⟩⟩

variable [DecidableEq ι] {i : ι} {items : List α} {a : α}

theorem State.Untouched.read (h : s.Untouched) (hitems : ∀ a, a ∈ items ↔ a ∈ s.source) :
    ({ s with tasks := Function.update s.tasks i (.holding items) } : State ι α).Untouched := by
  constructor
  · intro j rest hj
    cases update_cases hj with
    | inl hsame =>
        cases hsame.2
        exact hitems
    | inr hother => exact h.holding j rest hother.2
  · intro j rest hj
    cases update_cases hj with
    | inl hsame => cases hsame.2
    | inr hother => exact h.adding j rest hother.2

theorem State.Begun.read (h : s.Begun) (hi : ¬(s.tasks i).Open) :
    ({ s with tasks := Function.update s.tasks i (.holding items) } : State ι α).Begun := by
  cases h with
  | inl hnone => exact .inl hnone
  | inr hbegun =>
      cases hbegun with
      | inl hcache => exact .inr (.inl hcache)
      | inr howes =>
          obtain ⟨a, j, rest, hj, ha⟩ := howes
          have hji : j ≠ i := by
            intro hji
            rw [← hji, hj] at hi
            exact hi (List.ne_nil_of_mem ha)
          exact .inr (.inr ⟨a, j, rest, (Function.update_of_ne hji ..).trans hj, ha⟩)

theorem begun_clear (hitems : ∀ a, a ∈ items ↔ a ∈ s.source) :
    ({ s with cache := ∅, tasks := Function.update s.tasks i (.adding items) } :
      State ι α).Begun := by
  by_cases hnone : s.source = ∅
  · exact .inl hnone
  · obtain ⟨a, ha⟩ := Set.nonempty_iff_ne_empty.mpr hnone
    exact .inr (.inr ⟨a, i, items, Function.update_self .., (hitems a).mpr ha⟩)

/-- The cache after an act. -/
def Act.Leaves (act : Act α) (s : State ι α) (cache : Set α) : Prop :=
  match act with
  | .read items => (∀ a, a ∈ items ↔ a ∈ s.source) ∧ cache = s.cache
  | .clear => cache = ∅
  | .add a => a ∈ s.source → s.cache ⊆ s.source → cache = insert a s.cache
  | .aside => cache = s.cache

/-- Nobody has cleared the cache, or the invariant of a rebuild holds. -/
def State.Sound (s : State ι α) (stale : Set α) : Prop :=
  s.Untouched ∧ s.cache = stale ∨ Inv s ∧ s.Begun

theorem State.Sound.next {act : Act α} {stale cache : Set α} (h : s.Sound stale)
    (hallows : (s.tasks i).Allows act) (hleaves : act.Leaves s cache) :
    State.Sound ⟨s.source, cache, Function.update s.tasks i ((s.tasks i).next act)⟩ stale := by
  cases act with
  | read items =>
      obtain ⟨hitems, rfl⟩ := hleaves
      cases h with
      | inl h => exact .inl ⟨h.1.read hitems, h.2⟩
      | inr h => exact .inr ⟨(Step.read hallows hitems).inv h.1, h.2.read hallows⟩
  | clear =>
      obtain ⟨items, hi⟩ := hallows
      obtain rfl : cache = ∅ := hleaves
      rw [hi]
      cases h with
      | inl h =>
          have hclear : Step { s with cache := ∅ } _ := Step.clear hi
          exact .inr ⟨hclear.inv h.1.inv_empty, begun_clear (h.1.holding i items hi)⟩
      | inr h =>
          exact .inr ⟨(Step.clear hi).inv h.1, begun_clear (h.1.holding i items hi)⟩
  | add a =>
      obtain ⟨items, hi⟩ := hallows
      cases h with
      | inl h => exact absurd hi (h.1.adding i _)
      | inr h =>
          have howed : a ∈ s.source := h.1.owed a ⟨i, _, hi, List.mem_cons_self ..⟩
          obtain rfl : cache = insert a s.cache := hleaves howed h.1.cached
          rw [hi]
          exact .inr ⟨(Step.add hi).inv h.1, .inr (.inl ⟨a, Set.mem_insert ..⟩)⟩
  | aside =>
      obtain rfl : cache = s.cache := hleaves
      rw [Stage.next, Function.update_eq_self]
      exact h

end States

/-- The acts are what the machine does to the cache, where it is asked for one of these. -/
def Views {E : Interface} {σ α : Type} (ι : Type) (m : Machine E σ) (act : Event E → Act α)
    (ops : E.Op → Prop) (source : Set α) (cache : σ → Set α) : Prop :=
  ∀ (t : State ι α) env op s, ops op → t.source = source → t.cache = cache s →
    (act ⟨op, (m.exec env op s).1⟩).Leaves t (cache (m.exec env op s).2)

/-- A system beside another one keeps its cache on its own side. -/
theorem Views.left {E F : Interface} {σ τ ι α : Type} {m : Machine E σ} {n : Machine F τ}
    {act : Event E → Act α} {ops : E.Op → Prop} {source : Set α} {cache : σ → Set α}
    (views : Views ι m act ops source cache) :
    Views ι (m.beside n) (onLeft act) (fun op => ∀ op', op = .inl op' → ops op') source
      (fun s => cache s.1) := by
  intro t env op s hop hsource hcache
  cases op with
  | inl op => exact views t env.1 op s.1 (hop op rfl) hsource hcache
  | inr op => exact hcache.symm

section Runs
variable {E : Interface} {σ ι α β : Type} [DecidableEq ι]

/-- The tasks at the end of a history. -/
def stateOf (act : Event E → Act α) (source : Set α) (cache : σ → Set α)
    (h : List (Move E σ ι)) (c : Pool E σ ι β) : State ι α where
  source := source
  cache := cache c.state
  tasks i := stageOf act (eventsOf i h)

variable {m : Machine E σ} {act : Event E → Act α} {answered : Event E → Prop}
  {ops : E.Op → Prop} {source : Set α} {cache : σ → Set α} {start c : Pool E σ ι β}
  {h : List (Move E σ ι)}
  {answers : ι → List (Event E) → β → Prop}

theorem tasks_append (v : Move E σ ι) :
    (fun i => stageOf act (eventsOf i (h ++ [v]))) =
      Function.update (fun i => stageOf act (eventsOf i h)) v.thread
        ((stageOf act (eventsOf v.thread h)).next (act v.event)) := by
  funext j
  by_cases hj : j = v.thread
  · rw [hj, Function.update_self, eventsOf_append, eventsOf_self, stageOf_append]
  · rw [Function.update_of_ne hj, eventsOf_append, eventsOf_other (Ne.symm hj), List.append_nil]

theorem answered_events (h' : ∀ v ∈ h, answered v.event) (i : ι) :
    AllAnswered answered (eventsOf i h) := by
  intro e he
  obtain ⟨v, hv, -, rfl⟩ := mem_eventsOf.mp he
  exact h' v hv

theorem untouched_start : (stateOf act source cache [] start).Untouched where
  holding i items hi := by
    have hidle : Stage.idle = Stage.holding items := hi
    cases hidle
  adding i items hi := by
    have hidle : Stage.idle = Stage.adding items := hi
    cases hidle

/-- As long as no program has cleared the cache it is what it was; from then on the invariant of
a rebuild holds. -/
theorem rebuilds_run (views : Views ι m act ops source cache) (run : Interleaves m start h c)
    (hmeets : ∀ i, Meets (Allowed act answered ops) (answers i) [] (start.threads i))
    (hanswered : ∀ v ∈ h, answered v.event) :
    (stateOf act source cache h c).Sound (cache start.state) := by
  induction run with
  | start => exact .inl ⟨untouched_start, rfl⟩
  | @step h c run i op next hi env ih =>
      have hsound := ih fun v hv => hanswered v (List.mem_append_left _ hv)
      have hcalls := run.meets hmeets i
      rw [hi] at hcalls
      have hallows := hcalls.1.2 _ (allAnswered_append.mpr
        ⟨answered_events (fun v hv => hanswered v (List.mem_append_left _ hv)) i,
          hanswered _ (List.mem_append_right _ (List.mem_singleton_self _))⟩)
      have hnext := hsound.next hallows
        (views (stateOf act source cache h c) env op c.state hcalls.1.1 rfl rfl)
      rw [stateOf, tasks_append]
      exact hnext

/-- When all programs have ended and every call was answered, the cache is as it was, if nobody
has cleared it, or the source. -/
theorem rebuilds_settle (views : Views ι m act ops source cache) (run : Interleaves m start h c)
    (hmeets : ∀ i, Meets (Allowed act answered ops) (fun log _ => Closes act answered log) []
      (start.threads i))
    (hanswered : ∀ v ∈ h, answered v.event) (hdone : ∀ i, ∃ a, c.threads i = .done a) :
    cache c.state = source ∨ cache c.state = cache start.state ∧
      ∀ i items, stageOf act (eventsOf i h) ≠ .adding items := by
  have hclosed : ∀ i, ¬((stateOf act source cache h c).tasks i).Open := by
    intro i
    obtain ⟨a, ha⟩ := hdone i
    have hcloses := run.meets hmeets i
    rw [ha, meets_done] at hcloses
    exact hcloses (answered_events hanswered i)
  cases rebuilds_run views run hmeets hanswered with
  | inl h => exact .inr ⟨h.2, h.1.adding⟩
  | inr h => exact .inl (h.1.eq_source h.2 hclosed)

end Runs

end RcProtocol.Library.Rebuild
