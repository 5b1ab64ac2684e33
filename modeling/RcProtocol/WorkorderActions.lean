import RcProtocol.WorkorderStatuses

/-!
The protocol actions a workorder causes, and the conclusion it records. An Advance
calls rc-api before its update, so the two agree only where the update that follows
a successful call still finds the workorder assigned or in progress.
-/

namespace RcProtocol.Workorders
open Library

/-- The action rc-api performed: it performs the calls it answers with success. -/
def performedBy : Event interface → Option String
  | ⟨.send request, outcome⟩ => if outcome.succeeded then some request.url else none
  | _ => none

def isUpdate : Event interface → Bool
  | ⟨.update _ _, _⟩ => true
  | _ => false

/-- The database answers an update with an error. -/
def failsUpdate : Event interface → Bool
  | ⟨.update _ _, .error _⟩ => true
  | _ => false

/-- One of the calls of the log succeeded. -/
def calledIn (log : Log) : Bool := log.any fun e => (performedBy e).isSome

/-- The action the recorded conclusion names. The conclusion of a workorder in progress
is not final: its call has not succeeded, and the next conclusion replaces it. -/
def Workorder.named (client : RcApiClient) (w : Workorder) : Option String :=
  if w.status = .inProgress then none
  else
    match w.conclusionType.bind ConclusionType.action, w.assetID with
    | some action, some assetID => some (client.assetURL assetID action)
    | _, _ => none

section Histories
variable {ι : Type} [DecidableEq ι] (client : RcApiClient) (asked : ι → Asked) (id : Uuid)
  (h : List (Move interface Repo ι))

/-- The actions performed for requests about the workorder. -/
def performed : List String :=
  (h.filter fun v => (asked v.thread).target = some id).filterMap fun v => performedBy v.event

structure Agrees (w : Workorder) : Prop where
  cancelled : w.status = .cancelled → performed asked id h = []
  exact : ∀ url, url ∈ performed asked id h ↔ w.named client = some url

/-- No request about the workorder is between its call and its update. -/
def Settled : Prop :=
  ∀ i, (asked i).target = some id → Recorded (eventsOf i h)

/-- The update that follows a successful call finds the workorder assigned or in
progress, and the database does not fail it before it takes effect. -/
def Uninterrupted : Prop :=
  ∀ h₁ v h₂, h = h₁ ++ v :: h₂ → (asked v.thread).target = some id → isUpdate v.event = true →
    calledIn (eventsOf v.thread h₁) = true →
      (∃ w, v.before.workorder id = some w ∧ w.status ∈ advancableStatuses) ∧
        (failsUpdate v.event = true → v.after ≠ v.before)

variable {asked id h}

omit [DecidableEq ι] in
theorem mem_performed {url : String} :
    url ∈ performed asked id h ↔
      ∃ v ∈ h, (asked v.thread).target = some id ∧ performedBy v.event = some url := by
  simp only [performed, List.mem_filterMap, List.mem_filter, decide_eq_true_eq, and_assoc]

end Histories

section Steps
variable {client : RcApiClient} {r : Request} {cmd : Command} {log : Log} {u : Update}
  {w wo : Workorder} {url : String}

/-- An update that records no conclusion changes nothing about it. -/
theorem named_set (hu : (u.set w).conclusionType = w.conclusionType)
    (hs : w.status ≠ .inProgress) (ht : u.target ≠ .inProgress) :
    (u.set w).named client = w.named client := by
  have hs' : (u.set w).status ≠ .inProgress := by rwa [u.set_status]
  simp only [Workorder.named, if_neg hs, if_neg hs', hu, u.set_assetID]

theorem performedBy_eq_some {e : Event interface} (h : performedBy e = some url) :
    ∃ request outcome, e = ⟨.send request, outcome⟩ ∧ outcome.succeeded = true ∧
      request.url = url := by
  obtain ⟨op, answer⟩ := e
  cases op with
  | getByID _ | update _ _ => cases h
  | send request =>
      simp only [performedBy] at h
      split at h
      · next hs => exact ⟨request, answer, rfl, hs, Option.some.inj h⟩
      · cases h

theorem result_success (outcome : HttpOutcome) :
    (ExecuteResult.of outcome).success = outcome.succeeded := by
  cases outcome with
  | notCreated | unavailable => rfl
  | answered statusCode body =>
      simp only [ExecuteResult.of, HttpOutcome.succeeded]
      split
      · next h => exact h.symm
      · next h => exact (Bool.not_eq_true _ ▸ h).symm

/-- An update that no successful call comes before names no action, if none was named. -/
theorem Issues.named_none (h : Issues client r cmd log u) (hlog : ∀ e ∈ log, performedBy e = none)
    (hs : w.status ∈ u.sources) (hw : w.named client = none) : (u.set w).named client = none := by
  cases h with
  | assign | close | cancelOpened | cancelAssigned =>
      have hne : w.status ≠ .inProgress := by
        intro heq
        rw [heq] at hs
        simp [Update.sources] at hs
      rw [named_set rfl hne (by simp [Update.target]), hw]
  | @advance _ _ _ _ _ hconcluded =>
      cases hconcluded with
      | dismissed ht => simp [Workorder.named, Update.set, ht]
      | unsent ht => simp [Workorder.named, Update.set, concludedStatus]
      | sent ht hasset outcome =>
          have hnone := hlog _ (List.mem_append_right _ (.head _))
          have hfailed : outcome.succeeded = false := by
            simpa [performedBy] using hnone
          simp [Workorder.named, Update.set, concludedStatus, result_success, hfailed]

/-- The update after a successful call resolves the workorder, by the conclusion that
was called for. -/
theorem Issues.named_some (h : Issues client r cmd log u) {e : Event interface} (he : e ∈ log)
    (hperformed : performedBy e = some url) :
    ∃ wo, log.head? = some ⟨.getByID r.workorderID, .ok (some wo)⟩ ∧
      u.sources = advancableStatuses ∧ ∀ w : Workorder, w.assetID = wo.assetID →
        (u.set w).status = .resolved ∧ (u.set w).named client = some url := by
  cases h with
  | assign | close | cancelOpened => exact absurd he List.not_mem_nil
  | cancelAssigned =>
      obtain rfl := List.mem_singleton.mp he
      cases hperformed
  | @advance wo _ _ _ _ hconcluded =>
      refine ⟨wo, ?_⟩
      cases hconcluded with
      | dismissed _ | unsent _ =>
          obtain rfl := List.mem_singleton.mp he
          cases hperformed
      | sent ht hasset outcome =>
          obtain he | he := List.mem_append.mp he
          · obtain rfl := List.mem_singleton.mp he
            cases hperformed
          · obtain rfl := List.mem_singleton.mp he
            obtain ⟨_, _, heq, hsucceeded, hurl⟩ := performedBy_eq_some hperformed
            cases heq
            refine ⟨rfl, rfl, fun w hw => ?_⟩
            rw [← hurl]
            simp [Workorder.named, Update.set, concludedStatus, result_success, hsucceeded, ht,
              hw.trans hasset, actionRequest, RcApiClient.callRequest]

end Steps

section Runs
variable {ι : Type} [DecidableEq ι] {client : RcApiClient} {asked : ι → Asked} {start : Repo}
  {h h₁ h₂ : List (Move interface Repo ι)} {c : Pool interface Repo ι Reply}
  {v : Move interface Repo ι} {id : Uuid} {url : String}

/-- A workorder keeps its asset. -/
theorem asset_stays (run : Interleaves machine (Asked.pool client asked start) h c) (hv : v ∈ h)
    {w : Workorder} (hw : v.before.workorder id = some w) :
    ∃ w', c.state.workorder id = some w' ∧ w'.assetID = w.assetID := by
  have step : ∀ u ∈ h, (∃ w', u.before.workorder id = some w' ∧ w'.assetID = w.assetID) →
      ∃ w', u.after.workorder id = some w' ∧ w'.assetID = w.assetID := by
    intro u hu ⟨w', hw', hasset⟩
    obtain ⟨k₁, k₂, hk⟩ := List.append_of_mem hu
    obtain hsame | ⟨up, key, -, -, -, -, -, hafter⟩ := move_cases run hk
    · exact ⟨w', hsame ▸ hw', hasset⟩
    · rw [hafter]
      by_cases hkey : key = id
      · subst hkey
        refine ⟨up.apply w', by rw [Repo.workorder_updateWhere_self, hw', Option.map_some], ?_⟩
        unfold Update.apply
        split
        · rw [up.set_assetID, hasset]
        · exact hasset
      · exact ⟨w', by rw [Repo.workorder_updateWhere_other hkey, hw'], hasset⟩
  exact run.lasts (P := fun s => ∃ w', s.workorder id = some w' ∧ w'.assetID = w.assetID) step hv
    (step v hv ⟨w, hw, rfl⟩)

/-- A workorder that is resolved or closed stays so, with the same conclusion. -/
theorem resolved_stays (run : Interleaves machine (Asked.pool client asked start) h c) (hv : v ∈ h)
    {w : Workorder} (hw : v.after.workorder id = some w) (hs : w.status = .resolved)
    (hnamed : w.named client = some url) :
    ∃ w', c.state.workorder id = some w' ∧ w'.status ∈ [.resolved, .closed] ∧
      w'.named client = some url := by
  apply run.lasts (P := fun s => ∃ w', s.workorder id = some w' ∧
    w'.status ∈ [.resolved, .closed] ∧ w'.named client = some url) ?_ hv
  · exact ⟨w, hw, by simp [hs], hnamed⟩
  intro u hu ⟨w', hw', hs', hnamed'⟩
  obtain ⟨k₁, k₂, hk⟩ := List.append_of_mem hu
  obtain hsame | ⟨up, key, x, hissues, -, hx, hsource, hafter⟩ := move_cases run hk
  · exact ⟨w', hsame ▸ hw', hs', hnamed'⟩
  · rw [hafter]
    by_cases hkey : key = id
    · subst hkey
      obtain rfl := Option.some.inj (hw'.symm.trans hx)
      refine ⟨up.set w', ?_, ?_⟩
      · rw [Repo.workorder_updateWhere_self, hw', Option.map_some, Update.apply, if_pos hsource]
      · generalize asked u.thread = a, eventsOf u.thread k₁ = log at hissues
        obtain ⟨r, cmd⟩ := a
        cases hissues with
        | close =>
            have hne : w'.status ≠ .inProgress := by
              intro heq
              simp [heq] at hs'
            exact ⟨by simp [Update.target], by rw [named_set rfl hne (by decide), hnamed']⟩
        | assign | advance _ | cancelOpened | cancelAssigned =>
            exfalso
            revert hs' hsource
            cases w'.status <;> simp [Update.sources]
    · exact ⟨w', by rw [Repo.workorder_updateWhere_other hkey, hw'], hs', hnamed'⟩

theorem read_stored (run : Interleaves machine (Asked.pool client asked start) h c) (hv : v ∈ h)
    {text : String} {wo : Workorder} (hevent : v.event = ⟨.getByID text, .ok (some wo)⟩)
    (htext : uuidIn text = some id) : v.before.workorder id = some wo := by
  obtain ⟨env, hexec⟩ := run.move hv
  rw [hevent] at hexec
  have hanswer : v.before.getByID env text = .ok (some wo) := congrArg Prod.fst hexec
  unfold Repo.getByID at hanswer
  rw [htext] at hanswer
  split at hanswer
  · cases hanswer
  · cases hanswer
  · next hid =>
    obtain rfl := Option.some.inj hid
    exact Except.ok.inj hanswer

/-- An update that the database does not fail before it takes effect is carried out. -/
theorem update_carried (run : Interleaves machine (Asked.pool client asked start) h c) (hv : v ∈ h)
    {text : String} {u : Update} {answer : (Op.update text u).Answer}
    (hevent : v.event = ⟨.update text u, answer⟩) (htext : uuidIn text = some id)
    (hcarried : ∀ e, answer = .error e → v.after ≠ v.before) :
    v.after = v.before.updateWhere id u := by
  obtain ⟨env, hexec⟩ := run.move hv
  rw [hevent] at hexec
  have hafter : (v.before.execUpdate env text u).2 = v.after := congrArg Prod.snd hexec
  cases hanswer : answer with
  | ok hit =>
      rw [hanswer] at hexec
      obtain ⟨key, hkey, -, hset⟩ := execUpdate_ok (congrArg Prod.fst hexec)
      obtain rfl := Option.some.inj (hkey.symm.trans htext)
      rw [← hafter, hset]
  | error e =>
      have hchanged : (exec env (.update text u) v.before).2 ≠ v.before :=
        fun heq => hcarried e hanswer (hafter.symm.trans heq)
      obtain ⟨_, _, key, hop, hkey, -, hset⟩ := exec_changes hchanged
      cases hop
      obtain rfl := Option.some.inj (hkey.symm.trans htext)
      rw [← hafter]
      exact hset

/-- What was performed for the workorder is what it ends with, if no update was interrupted. -/
theorem performed_named (run : Interleaves machine (Asked.pool client asked start) h c)
    (huninterrupted : Uninterrupted asked id h) (hsettled : Settled asked id h) (hv : v ∈ h)
    (htarget : (asked v.thread).target = some id) (hperformed : performedBy v.event = some url) :
    ∃ w, c.state.workorder id = some w ∧ w.status ∈ [.resolved, .closed] ∧
      w.named client = some url := by
  obtain ⟨request, outcome, hevent, -, -⟩ := performedBy_eq_some hperformed
  obtain ⟨text, u, answer, hupdate⟩ := hsettled v.thread htarget request outcome
    (mem_eventsOf.mpr ⟨v, hv, rfl, hevent⟩)
  obtain ⟨x, hx, hthread, hxevent⟩ := mem_eventsOf.mp hupdate
  obtain ⟨h₁, h₂, hh⟩ := List.append_of_mem hx
  have hcall := pool_calls run hh
  rw [hxevent] at hcall
  obtain ⟨rfl, hissues⟩ := hcall.issues
  have hbefore : v ∈ h₁ := by
    rw [hh] at hv
    obtain hv | hv := List.mem_append.mp hv
    · exact hv
    obtain rfl | hv := List.mem_cons.mp hv
    · rw [hevent] at hxevent
      cases hxevent
    · obtain ⟨k₁, k₂, hk⟩ := List.append_of_mem hv
      have hsplit : h = (h₁ ++ x :: k₁) ++ v :: k₂ := by
        rw [hh, hk, List.append_assoc, List.cons_append]
      have hcall := pool_calls run hsplit
      rw [hevent] at hcall
      have hmem : ⟨.update _ u, answer⟩ ∈ eventsOf v.thread (h₁ ++ x :: k₁) :=
        mem_eventsOf.mpr ⟨x, by simp, hthread, hxevent⟩
      exact absurd hmem hcall.not_updated
  have hcalled : v.event ∈ eventsOf x.thread h₁ := mem_eventsOf.mpr ⟨v, hbefore, hthread.symm, rfl⟩
  rw [← hthread] at htarget
  have hcalledIn : calledIn (eventsOf x.thread h₁) = true :=
    List.any_eq_true.mpr ⟨v.event, hcalled, by rw [hperformed]; rfl⟩
  obtain ⟨⟨w, hw, hs⟩, hcarried⟩ :=
    huninterrupted h₁ x h₂ hh htarget (by rw [hxevent]; rfl) hcalledIn
  obtain ⟨wo, hread, hsources, hset⟩ := hissues.named_some hcalled hperformed
  obtain ⟨c₁, -, run₁, hc₁, -⟩ := run.split hh
  have hasset : w.assetID = wo.assetID := by
    obtain ⟨g, hg, -, hgevent⟩ := mem_eventsOf.mp (List.mem_of_head? hread)
    obtain ⟨w', hw', hsame⟩ := asset_stays run₁ hg (read_stored run₁ hg hgevent htarget)
    rw [hc₁] at hw'
    obtain rfl := Option.some.inj (hw.symm.trans hw')
    exact hsame
  obtain ⟨hresolved, hnamed⟩ := hset w hasset
  have hafter : x.after.workorder id = some (u.set w) := by
    rw [update_carried run hx hxevent htarget fun e he => hcarried (by rw [hxevent, he]; rfl),
      Repo.workorder_updateWhere_self, hw, Option.map_some, Update.apply, if_pos (hsources ▸ hs)]
  exact resolved_stays run hx hafter hresolved hnamed

/-- Nothing is named as long as nothing was performed. -/
theorem named_none_stays (run : Interleaves machine (Asked.pool client asked start) h c)
    (hstart : ∀ w, start.workorder id = some w → w.named client = none)
    (hnone : ∀ v ∈ h, (asked v.thread).target = some id → performedBy v.event = none) :
    ∀ w, c.state.workorder id = some w → w.named client = none := by
  apply run.stays (P := fun s => ∀ w, s.workorder id = some w → w.named client = none) ?_ hstart
  intro x hx hbefore w hw
  obtain ⟨h₁, h₂, hh⟩ := List.append_of_mem hx
  obtain hsame | ⟨u, key, w', hissues, hkey, hw', hs, hafter⟩ := move_cases run hh
  · exact hbefore w (hsame ▸ hw)
  · rw [hafter] at hw
    by_cases heq : key = id
    · subst heq
      rw [Repo.workorder_updateWhere_self, hw', Option.map_some, Update.apply, if_pos hs] at hw
      obtain rfl := Option.some.inj hw
      apply hissues.named_none ?_ hs (hbefore w' hw')
      intro e he
      obtain ⟨v, hv, hthread, rfl⟩ := mem_eventsOf.mp he
      exact hnone v (by rw [hh]; simp [hv]) (by rw [hthread, hkey])
    · rw [Repo.workorder_updateWhere_other heq] at hw
      exact hbefore w hw

/-- Database and protocol agree on every workorder with no request under way, in every
run that interrupts none of its updates. -/
theorem actions_agree (run : Interleaves machine (Asked.pool client asked start) h c)
    (hstart : ∀ w, start.workorder id = some w → w.named client = none)
    (huninterrupted : Uninterrupted asked id h) (hsettled : Settled asked id h) {w : Workorder}
    (hw : c.state.workorder id = some w) : Agrees client asked id h w := by
  have hperformed : ∀ url, url ∈ performed asked id h →
      w.status ∈ [.resolved, .closed] ∧ w.named client = some url := by
    intro url hurl
    obtain ⟨v, hv, htarget, hurl⟩ := mem_performed.mp hurl
    obtain ⟨w', hw', hs, hnamed⟩ :=
      performed_named run huninterrupted hsettled hv htarget hurl
    obtain rfl := Option.some.inj (hw.symm.trans hw')
    exact ⟨hs, hnamed⟩
  constructor
  · intro hcancelled
    apply List.eq_nil_iff_forall_not_mem.mpr
    intro url hurl
    have hs := (hperformed url hurl).1
    rw [hcancelled] at hs
    exact absurd hs (by decide)
  · intro url
    refine ⟨fun hurl => (hperformed url hurl).2, fun hnamed => ?_⟩
    cases hlist : performed asked id h with
    | nil =>
        have hnone : ∀ v ∈ h, (asked v.thread).target = some id → performedBy v.event = none := by
          intro v hv htarget
          by_contra hsome
          obtain ⟨url', hurl'⟩ := Option.ne_none_iff_exists'.mp hsome
          have hmem : url' ∈ performed asked id h := mem_performed.mpr ⟨v, hv, htarget, hurl'⟩
          rw [hlist] at hmem
          exact absurd hmem List.not_mem_nil
        rw [named_none_stays run hstart hnone w hw] at hnamed
        cases hnamed
    | cons url' rest =>
        have hmem : url' ∈ performed asked id h := by
          rw [hlist]
          exact .head _
        obtain rfl := Option.some.inj ((hperformed url' hmem).2.symm.trans hnamed)
        exact .head _

/-- A request that was answered is not between its call and its update. -/
theorem settled_of_done (run : Interleaves machine (Asked.pool client asked start) h c)
    (hdone : ∀ i, (asked i).target = some id → ∃ reply, c.threads i = .done reply) :
    Settled asked id h := by
  intro i hi
  obtain ⟨reply, hreply⟩ := hdone i hi
  exact (pool_answers run hreply).recorded

end Runs

section Sample

/-- The workorder is assigned and then advanced, with nobody else about. -/
def quietDesk : Bool → Asked
  | false => ⟨deskRequest, deskCommand .assigning⟩
  | true => ⟨deskRequest, deskCommand .advancing⟩

def quietRun : List (Move interface Repo Bool) × Pool interface Repo Bool Reply :=
  (Asked.pool deskClient quietDesk deskRepo).schedule machine
    [(false, {}), (false, {}), (true, {}),
      (true, { outcome := .answered 200 ⟨"null", some .null⟩ }), (true, {}), (true, {})]

theorem quietRun_interleaves :
    Interleaves machine (Asked.pool deskClient quietDesk deskRepo) quietRun.1 quietRun.2 :=
  schedule_interleaves _ _

/-- What it takes of one move not to interrupt a workorder, as it can be computed. -/
def Carried {ι : Type} [DecidableEq ι] (id : Uuid) (past : List (Move interface Repo ι))
    (v : Move interface Repo ι) : Prop :=
  isUpdate v.event = true → calledIn (eventsOf v.thread past) = true →
    (v.before.workorder id).any (fun w => w.status ∈ advancableStatuses) = true ∧
      failsUpdate v.event = false

instance {ι : Type} [DecidableEq ι] (id : Uuid) (past : List (Move interface Repo ι))
    (v : Move interface Repo ι) : Decidable (Carried id past v) :=
  inferInstanceAs (Decidable (_ → _ → _))

theorem uninterrupted_of_carried {ι : Type} [DecidableEq ι] {asked : ι → Asked} {id : Uuid}
    {h : List (Move interface Repo ι)} (hcarried : Follows (Carried id) [] h) :
    Uninterrupted asked id h := by
  intro h₁ v h₂ hh _ hupdate hcalled
  obtain ⟨hw, hfails⟩ := follows_iff.mp hcarried h₁ v h₂ hh hupdate hcalled
  obtain ⟨w, hw, hs⟩ := Option.any_eq_true _ _ |>.mp hw
  refine ⟨⟨w, hw, of_decide_eq_true hs⟩, fun h => ?_⟩
  rw [hfails] at h
  cases h

theorem desk_named (w : Workorder) (hw : deskRepo.workorder (.repeated 1) = some w) :
    w.named deskClient = none := by
  have hall : (deskRepo.workorder (.repeated 1)).all (fun w => w.named deskClient = none) = true := by
    decide +kernel
  rw [hw] at hall
  simpa using hall

def isDone : Program interface Reply → Bool
  | .done _ => true
  | .call _ _ => false

theorem exists_reply {p : Program interface Reply} (h : isDone p = true) :
    ∃ reply, p = .done reply := by
  cases p with
  | done reply => exact ⟨reply, rfl⟩
  | call _ _ => cases h

theorem actions_agree_quiet :
    ∃ w, quietRun.2.state.workorder (.repeated 1) = some w ∧ w.status = .resolved ∧
      Agrees deskClient quietDesk (.repeated 1) quietRun.1 w := by
  have hdone : ∀ i, isDone (quietRun.2.threads i) = true := by decide +kernel
  have hresolved : (quietRun.2.state.workorder (.repeated 1)).map (·.status) = some .resolved := by
    decide +kernel
  obtain ⟨w, hw, hs⟩ := Option.map_eq_some_iff.mp hresolved
  refine ⟨w, hw, hs, actions_agree quietRun_interleaves desk_named ?_ ?_ hw⟩
  · exact uninterrupted_of_carried (by decide +kernel)
  · exact settled_of_done quietRun_interleaves fun i _ => exists_reply (hdone i)

/-- A Cancel between the call of an Advance and its update: the asset is frozen for a
workorder that ends cancelled. -/
theorem cancelled_workorder_froze :
    ¬∀ (ι : Type) (_ : DecidableEq ι) (client : RcApiClient) (asked : ι → Asked) (start : Repo)
      (h : List (Move interface Repo ι)) (c : Pool interface Repo ι Reply) (id : Uuid)
      (w : Workorder), Interleaves machine (Asked.pool client asked start) h c →
        (∀ w, start.workorder id = some w → w.named client = none) → Settled asked id h →
          c.state.workorder id = some w → Agrees client asked id h w := by
  intro hall
  have hdone : ∀ i, isDone (deskRun.2.threads i) = true := by
    intro i
    cases i <;> decide +kernel
  have hcancelled : (deskRun.2.state.workorder (.repeated 1)).map (·.status) = some .cancelled := by
    decide +kernel
  obtain ⟨w, hw, hs⟩ := Option.map_eq_some_iff.mp hcancelled
  have hagrees := hall Clerk _ deskClient desk deskRepo deskRun.1 deskRun.2 (.repeated 1) w
    deskRun_interleaves desk_named (settled_of_done deskRun_interleaves fun i _ => exists_reply (hdone i)) hw
  have hfroze : performed desk (.repeated 1) deskRun.1 = ["http://rc-api/assets/a/freeze"] := by
    decide +kernel
  rw [hagrees.cancelled hs] at hfroze
  cases hfroze

end Sample

end RcProtocol.Workorders
