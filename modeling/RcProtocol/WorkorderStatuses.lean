import RcProtocol.Workorders.Spec

/-!
Any number of requests about workorders at once. The `WHERE` clause of each update
names the statuses it starts from, so that what a handler read before it does not
matter: the statuses of a workorder follow the edges below in every run.
-/

namespace RcProtocol.Workorders
open Library

/-- A request and what it asks for. -/
structure Asked where
  request : Request
  command : Command

namespace Asked
variable (client : RcApiClient) (a : Asked)

def handle : Program interface Reply := Workorders.handle client a.request a.command

def Calls : Log → Op → Prop := Workorders.Calls client a.request a.command

def Answers : Log → Reply → Prop := Workorders.Answers a.request a.command

def Issues : Log → Update → Prop := Workorders.Issues client a.request a.command

/-- The workorder the request is about. -/
def target : Option Uuid := uuidIn a.request.workorderID

def pool {ι : Type} (asked : ι → Asked) (start : Repo) : Pool interface Repo ι Reply :=
  ⟨start, fun i => (asked i).handle client⟩

end Asked

inductive Edge : Status → Status → Prop
  | assign : Edge .opened .assigned
  | reassign : Edge .assigned .assigned
  | advance {s t : Status} (hs : s ∈ advancableStatuses) (ht : t ∈ [.inProgress, .resolved]) :
      Edge s t
  | close : Edge .resolved .closed
  | cancel {s : Status} (hs : s ∈ [.opened, .assigned]) : Edge s .cancelled

def terminalStatuses : List Status := [.closed, .cancelled]

def cancellableStatuses : List Status := [.opened, .assigned]

theorem Edge.not_terminal {s t : Status} (h : Edge s t) : s ∉ terminalStatuses := by
  cases h with
  | assign | reassign | close => decide
  | advance hs _ =>
      intro hterminal
      cases s <;> simp [advancableStatuses, terminalStatuses] at hs hterminal
  | cancel hs =>
      intro hterminal
      cases s <;> simp [terminalStatuses] at hs hterminal

theorem Edge.target_ne_opened {s t : Status} (h : Edge s t) : t ≠ .opened := by
  cases h with
  | assign | reassign | close | cancel _ => decide
  | advance _ ht =>
      rintro rfl
      simp at ht

/-- Every update that is issued goes along an edge from each status it starts from. -/
theorem Issues.edge {client : RcApiClient} {r : Request} {cmd : Command} {log : Log} {u : Update}
    (h : Issues client r cmd log u) {s : Status} (hs : s ∈ u.sources) : Edge s u.target := by
  cases h with
  | assign body =>
      obtain rfl | hs := List.mem_cons.mp hs
      · exact .assign
      · obtain rfl := List.mem_singleton.mp hs
        exact .reassign
  | @advance _ _ _ _ result _ =>
      refine .advance hs ?_
      show concludedStatus result ∈ _
      unfold concludedStatus
      split <;> simp
  | close =>
      obtain rfl := List.mem_singleton.mp hs
      exact .close
  | cancelOpened =>
      obtain rfl := List.mem_singleton.mp hs
      exact .cancel (by decide)
  | cancelAssigned =>
      obtain rfl := List.mem_singleton.mp hs
      exact .cancel (by decide)

section Histories
variable {ι : Type} [DecidableEq ι] (client : RcApiClient) (asked : ι → Asked)

/-- The workorder went from one row to another along an edge. -/
def Passes (id : Uuid) (s s' : Repo) : Prop :=
  ∃ w w', s.workorder id = some w ∧ s'.workorder id = some w' ∧ Edge w.status w'.status

/-- An update of the request found the workorder in one of its statuses and set it. -/
def TookEffect (h : List (Move interface Repo ι)) (i : ι) (id : Uuid) : Prop :=
  ∃ h₁ v h₂ u w, h = h₁ ++ v :: h₂ ∧ v.thread = i ∧ (asked i).Issues client (eventsOf i h₁) u ∧
    v.before.workorder id = some w ∧ w.status ∈ u.sources ∧
      v.after.workorder id = some (u.set w)

variable (h : List (Move interface Repo ι)) (c : Pool interface Repo ι Reply)

structure Disciplined : Prop where
  edges : ∀ v ∈ h, ∀ id, v.after.workorder id = v.before.workorder id ∨ Passes id v.before v.after
  terminal : ∀ v ∈ h, ∀ id w, v.before.workorder id = some w → w.status ∈ terminalStatuses →
    c.state.workorder id = some w
  success : ∀ i reply, c.threads i = .done reply → reply.statusCode = 200 →
    ∃ id, (asked i).target = some id ∧ TookEffect client asked h i id
  conflict : ∀ i reply, c.threads i = .done reply → reply.statusCode = 409 →
    ∀ v ∈ h, v.thread = i → v.after = v.before
  cancelConflict : ∀ i reply, (asked i).command = .cancel → c.threads i = .done reply →
    reply.statusCode = 409 → ∃ id, (asked i).target = some id ∧ ∃ v ∈ h, v.thread = i ∧
      ∀ w, v.before.workorder id = some w → w.status ∉ cancellableStatuses

end Histories

section Runs
variable {ι : Type} [DecidableEq ι] {client : RcApiClient} {asked : ι → Asked} {start : Repo}
  {h h₁ h₂ : List (Move interface Repo ι)} {c : Pool interface Repo ι Reply}
  {v : Move interface Repo ι} {id : Uuid} {i : ι} {reply : Reply}

omit [DecidableEq ι] in
theorem pool_meets (client : RcApiClient) (asked : ι → Asked) (start : Repo) (i : ι) :
    Meets ((asked i).Calls client) (asked i).Answers [] ((Asked.pool client asked start).threads i) :=
  meets_handle client (asked i).request (asked i).command

theorem pool_calls (run : Interleaves machine (Asked.pool client asked start) h c)
    (hh : h = h₁ ++ v :: h₂) :
    (asked v.thread).Calls client (eventsOf v.thread h₁) v.event.op :=
  run.calls (pool_meets client asked start) hh

theorem pool_answers (run : Interleaves machine (Asked.pool client asked start) h c)
    (hi : c.threads i = .done reply) : (asked i).Answers (eventsOf i h) reply :=
  run.answers (pool_meets client asked start) hi

/-- A move leaves the table alone, or sets a workorder by an update of its request. -/
theorem move_cases (run : Interleaves machine (Asked.pool client asked start) h c)
    (hh : h = h₁ ++ v :: h₂) :
    v.after = v.before ∨ ∃ u key w,
      (asked v.thread).Issues client (eventsOf v.thread h₁) u ∧
        (asked v.thread).target = some key ∧ v.before.workorder key = some w ∧
          w.status ∈ u.sources ∧ v.after = v.before.updateWhere key u := by
  by_cases hsame : v.after = v.before
  · exact .inl hsame
  right
  obtain ⟨env, hexec⟩ := run.move (v := v) (by rw [hh]; simp)
  have hafter : (exec env v.event.op v.before).2 = v.after := congrArg Prod.snd hexec
  obtain ⟨text, u, key, hop, hkey, haffects, hset⟩ := exec_changes (hafter ▸ hsame)
  have hcall := pool_calls run hh
  rw [hop] at hcall
  obtain ⟨rfl, hissues⟩ := hcall.issues
  obtain ⟨w, hw, hs⟩ := Repo.affects_iff.mp haffects
  exact ⟨u, key, w, hissues, hkey, hw, hs, hafter ▸ hset⟩

theorem move_edges (run : Interleaves machine (Asked.pool client asked start) h c) (hv : v ∈ h)
    (id : Uuid) :
    v.after.workorder id = v.before.workorder id ∨ Passes id v.before v.after := by
  obtain ⟨h₁, h₂, hh⟩ := List.append_of_mem hv
  obtain hsame | ⟨u, key, w, hissues, -, hw, hs, hafter⟩ := move_cases run hh
  · exact .inl (by rw [hsame])
  · by_cases hkey : key = id
    · subst hkey
      right
      refine ⟨w, u.set w, hw, ?_, by rw [u.set_status]; exact hissues.edge hs⟩
      rw [hafter, Repo.workorder_updateWhere_self, hw, Option.map_some, Update.apply, if_pos hs]
    · left
      rw [hafter, Repo.workorder_updateWhere_other hkey]

theorem terminal_stays (run : Interleaves machine (Asked.pool client asked start) h c) (hv : v ∈ h)
    {w : Workorder} (hw : v.before.workorder id = some w) (hterminal : w.status ∈ terminalStatuses) :
    c.state.workorder id = some w := by
  have step : ∀ u ∈ h, u.before.workorder id = some w → u.after.workorder id = some w := by
    intro u hu hbefore
    obtain hsame | ⟨w₁, w₂, hw₁, -, hedge⟩ := move_edges run hu id
    · rw [hsame, hbefore]
    · rw [hbefore] at hw₁
      obtain rfl := Option.some.inj hw₁
      exact absurd hterminal hedge.not_terminal
  exact run.lasts (P := fun s => s.workorder id = some w) step hv (step v hv hw)

/-- The event of an update that was answered is one move of its request. -/
theorem update_move (run : Interleaves machine (Asked.pool client asked start) h c) {text : String}
    {u : Update} {hit : Bool} (hmem : ⟨.update text u, .ok hit⟩ ∈ eventsOf i h) :
    ∃ h₁ v h₂ key, h = h₁ ++ v :: h₂ ∧ v.thread = i ∧
      (asked i).Issues client (eventsOf i h₁) u ∧ (asked i).target = some key ∧
        hit = v.before.affects key u ∧ v.after = v.before.updateWhere key u := by
  obtain ⟨v, hv, rfl, hevent⟩ := mem_eventsOf.mp hmem
  obtain ⟨h₁, h₂, hh⟩ := List.append_of_mem hv
  obtain ⟨env, hexec⟩ := run.move hv
  have hcall := pool_calls run hh
  rw [hevent] at hcall hexec
  have hanswer : (v.before.execUpdate env text u).1 = .ok hit := congrArg Prod.fst hexec
  have hafter : (v.before.execUpdate env text u).2 = v.after := congrArg Prod.snd hexec
  obtain ⟨key, hkey, hhit, hset⟩ := execUpdate_ok hanswer
  obtain ⟨rfl, hissues⟩ := hcall.issues
  exact ⟨h₁, v, h₂, key, hh, rfl, hissues, hkey, hhit, hafter ▸ hset⟩

theorem success_tookEffect (run : Interleaves machine (Asked.pool client asked start) h c)
    (hi : c.threads i = .done reply) (hreply : reply.statusCode = 200) :
    ∃ id, (asked i).target = some id ∧ TookEffect client asked h i id := by
  obtain ⟨u, hu⟩ := (pool_answers run hi).success hreply
  obtain ⟨h₁, v, h₂, key, hh, hthread, hissues, hkey, hhit, hafter⟩ := update_move run hu
  obtain ⟨w, hw, hs⟩ := Repo.affects_iff.mp hhit.symm
  refine ⟨key, hkey, h₁, v, h₂, u, w, hh, hthread, hissues, hw, hs, ?_⟩
  rw [hafter, Repo.workorder_updateWhere_self, hw, Option.map_some, Update.apply, if_pos hs]

/-- A move that changes the table is an update, and the answer to it is not that no row
was affected. -/
theorem update_of_changed (run : Interleaves machine (Asked.pool client asked start) h c)
    (hv : v ∈ h) (hchanged : v.after ≠ v.before) :
    ∃ text u answer, v.event = ⟨.update text u, answer⟩ ∧ answer ≠ .ok false := by
  obtain ⟨env, hexec⟩ := run.move hv
  obtain ⟨thread, ⟨op, answer⟩, before, after⟩ := v
  have hafter : (exec env op before).2 = after := congrArg Prod.snd hexec
  obtain ⟨text, u, key, rfl, -, -, -⟩ := exec_changes (hafter ▸ hchanged)
  refine ⟨text, u, answer, rfl, ?_⟩
  rintro rfl
  obtain ⟨key, -, hhit, hset⟩ := execUpdate_ok (congrArg Prod.fst hexec)
  apply hchanged
  rw [← Repo.updateWhere_of_not_affects hhit.symm, ← hset]
  exact (congrArg Prod.snd hexec).symm

theorem conflict_unchanged (run : Interleaves machine (Asked.pool client asked start) h c)
    (hi : c.threads i = .done reply) (hreply : reply.statusCode = 409) (hv : v ∈ h)
    (hthread : v.thread = i) : v.after = v.before := by
  by_contra hchanged
  obtain ⟨text, u, answer, hevent, hanswer⟩ := update_of_changed run hv hchanged
  exact hanswer ((pool_answers run hi).conflict hreply text u answer
    (mem_eventsOf.mpr ⟨v, hv, hthread, hevent⟩))

/-- The first update of a cancel finds the workorder not open, and it never becomes so;
the second finds it not assigned. -/
theorem cancel_refused (run : Interleaves machine (Asked.pool client asked start) h c)
    (hcmd : (asked i).command = .cancel) (hi : c.threads i = .done reply)
    (hreply : reply.statusCode = 409) :
    ∃ id, (asked i).target = some id ∧ ∃ v ∈ h, v.thread = i ∧
      ∀ w, v.before.workorder id = some w → w.status ∉ cancellableStatuses := by
  have hlog := (pool_answers run hi).cancel hreply hcmd
  have hsecond : ⟨.update (asked i).request.workorderID (.status .assigned .cancelled), .ok false⟩ ∈
      eventsOf i h := by
    rw [hlog]
    exact .tail _ (.head _)
  obtain ⟨h₁, v₂, h₃, id, hh, hthread, hissues, hid, hhit, -⟩ := update_move run hsecond
  have hfirst : ⟨.update (asked i).request.workorderID (.status .opened .cancelled), .ok false⟩ ∈
      eventsOf i h₁ := by
    unfold Asked.Issues at hissues
    rw [hcmd] at hissues
    generalize eventsOf i h₁ = log at hissues ⊢
    cases hissues with
    | cancelAssigned => exact .head _
  obtain ⟨c₁, -, run₁, -⟩ := run.split hh
  obtain ⟨h₀, v₁, h₂, id', hh₁, -, -, hid', hhit', hafter'⟩ := update_move run₁ hfirst
  obtain rfl := Option.some.inj (hid.symm.trans hid')
  have hopened : ∀ w, v₂.before.workorder id = some w → w.status ≠ .opened := by
    rw [hh₁, List.append_assoc, List.cons_append] at hh
    apply run.keeps_between (I := fun s => ∀ w, s.workorder id = some w → w.status ≠ .opened) hh
    · intro w hw hstatus
      rw [hafter', Repo.updateWhere_of_not_affects hhit'.symm] at hw
      have haffects : v₁.before.affects id (.status .opened .cancelled) = true :=
        Repo.affects_iff.mpr ⟨w, hw, by rw [hstatus]; exact .head _⟩
      rw [← hhit'] at haffects
      cases haffects
    · intro u hu hbefore w hw
      obtain hsame | ⟨w₁, w₂, -, hw₂, hedge⟩ := move_edges run (v := u) (by rw [hh]; simp [hu]) id
      · exact hbefore w (hsame ▸ hw)
      · obtain rfl := Option.some.inj (hw₂.symm.trans hw)
        exact hedge.target_ne_opened
  refine ⟨id, hid, v₂, by rw [hh]; simp, hthread, fun w hw hstatus => ?_⟩
  obtain hstatus | hstatus := List.mem_cons.mp hstatus
  · exact hopened w hw hstatus
  · have haffects : v₂.before.affects id (.status .assigned .cancelled) = true :=
      Repo.affects_iff.mpr ⟨w, hw, hstatus⟩
    rw [← hhit] at haffects
    cases haffects

/-- Every run of requests about workorders keeps to the edges, and each reply tells
what became of its request. -/
theorem workorders_disciplined (run : Interleaves machine (Asked.pool client asked start) h c) :
    Disciplined client asked h c where
  edges _ hv id := move_edges run hv id
  terminal _ hv _ _ hw hterminal := terminal_stays run hv hw hterminal
  success _ _ hi hreply := success_tookEffect run hi hreply
  conflict _ _ hi hreply _ hv hthread := conflict_unchanged run hi hreply hv hthread
  cancelConflict _ _ hcmd hi hreply := cancel_refused run hcmd hi hreply

end Runs

section Sample

def deskClient : RcApiClient := ⟨"http://rc-api"⟩

def deskRepo : Repo :=
  .single
    { id := .repeated 1
      type := "dispute"
      status := .opened
      title := "two owners"
      creatorID := .repeated 2
      creatorRole := "Platform"
      creatorOrgID := .repeated 3
      assetID := some "a" }

def deskRequest : Request where
  header := .received
    [("X-Claims-Sub", "22222222-2222-2222-2222-222222222222"), ("X-Claims-Role", "Platform"),
      ("X-Claims-Org-Id", "33333333-3333-3333-3333-333333333333")]
  workorderID := "11111111-1111-1111-1111-111111111111"

inductive Clerk where
  | assigning | advancing | cancelling
  deriving DecidableEq

/-- The workorder is assigned, then advanced by one request while another cancels it. -/
def deskCommand : Clerk → Command
  | .assigning => .assign (some ⟨"44444444-4444-4444-4444-444444444444", "Moderator"⟩)
  | .advancing => .advance (some ⟨"stolen", "freeze"⟩)
  | .cancelling => .cancel

def desk (i : Clerk) : Asked := ⟨deskRequest, deskCommand i⟩

def deskRun : List (Move interface Repo Clerk) × Pool interface Repo Clerk Reply :=
  (Asked.pool deskClient desk deskRepo).schedule machine
    [(.assigning, {}), (.assigning, {}), (.advancing, {}),
      (.advancing, { outcome := .answered 200 ⟨"null", some .null⟩ }), (.cancelling, {}),
      (.cancelling, {}), (.cancelling, {}), (.advancing, {})]

theorem deskRun_interleaves :
    Interleaves machine (Asked.pool deskClient desk deskRepo) deskRun.1 deskRun.2 :=
  schedule_interleaves _ _

theorem workorders_disciplined_desk : Disciplined deskClient desk deskRun.1 deskRun.2 :=
  workorders_disciplined deskRun_interleaves

end Sample

end RcProtocol.Workorders
