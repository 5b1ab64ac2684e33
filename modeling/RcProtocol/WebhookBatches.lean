import Mathlib.Algebra.GroupWithZero.Nat
import RcProtocol.Library.Batches
import RcProtocol.WebhookEvents
import RcProtocol.Webhooks.Attempts

/-!
One worker and its queue, batch after batch. A delivery whose webhook is not active or
whose configuration is not read stays as it is, at the head of the queue; so does one whose
endpoint answers with what is no text; and one that has failed is due again after its
delay, before the deliveries that are younger.
-/

namespace RcProtocol.Webhooks
open Library

/-- The database answers and writes every time. -/
def workingMachine : Machine interface Store := machine.restrict fun e => e.fails = none

/-- And the endpoints answer with texts. -/
def answeredMachine : Machine interface Store :=
  machine.restrict fun e => e.fails = none ∧ Stored e.outcome

/-- An attempt of the delivery is made, and its row can count it. -/
def Deliverable (w : Worker) (s : Store) (d : WebhookDelivery) : Prop :=
  Usable w (.ok (s.config d.webhookID)) ∧ d.attempts < maxInt

/-- The store a batch finds, and the environments of its steps. -/
structure Turn where
  before : Store
  env : Nat → Env

namespace Turn
variable (t : Turn)

/-- The oldest deliveries that are due, as many as a batch has places. -/
def oldest : List Uuid :=
  (t.before.pending (t.env 0).now (t.env 0).rank 10).map (·.deliveryID)

def Answered : Prop := ∀ n, Stored (t.env n).outcome

end Turn

/-- The batches of one worker, none fetched before this time. -/
inductive Batches (w : Worker) (since : Time) (start : Store) : List Turn → Store → Prop
  | start : Batches w since start [] start
  | batch {h : List Turn} {s : Store} (run : Batches w since start h s)
      (env : Nat → workingMachine.Env) (hnow : since ≤ (env 0).1.now) :
      Batches w since start (h ++ [⟨s, fun n => (env n).1⟩])
        (workingMachine.run w.processBatch env s).state

/-- Those due at the start that no batch has handled. -/
def Store.waiting (start : Store) (since : Time) (s : Store) : List Uuid :=
  (start.deliveries.rows.filter fun d =>
    d.due since && s.attempts d.deliveryID = some d.attempts).map (·.deliveryID)

/-- The places lost to deliveries that do not wait, turn by turn. -/
def lostPlaces (start : Store) (since : Time) (h : List Turn) : Nat :=
  (h.map fun t => lost (start.waiting since t.before) t.oldest).sum

section Delivery
variable {w : Worker} {s s' : Store} {d : WebhookDelivery} {log : Log}

/-- What becomes of the row of a delivery that is taken up. -/
inductive Handled (w : Worker) (s s' : Store) (d : WebhookDelivery) : Prop
  | updated (hd : Deliverable w s d) {d' : WebhookDelivery}
      (hrow : s'.delivery d.deliveryID = some d') (hattempts : d'.attempts = d.attempts + 1)
  | untouched (hd : ¬Deliverable w s d) (hrow : s'.delivery d.deliveryID = some d)

/-- One row may change, and no configuration. -/
structure Touches (s s' : Store) (ids : List Uuid) : Prop where
  configs : s'.configs = s.configs
  others : ∀ id, id ∉ ids → s'.delivery id = s.delivery id

theorem handled_of_update {outcome : Except SendError (Nat × List UInt8)}
    {f : String → WebhookDelivery → WebhookDelivery}
    {hf : ∀ text d, (f text d).deliveryID = d.deliveryID} {e : Env} (he : e.fails = none)
    (hstored : Stored outcome) (hd : s.delivery d.deliveryID = some d)
    (husable : Usable w (.ok (s.config d.webhookID)))
    (hattempts : ∀ text, (f text d).attempts = d.attempts + 1) :
    Handled w s (s.execUpdate e d.deliveryID (recordedBody outcome) f hf).2 d ∧
      Touches s (s.execUpdate e d.deliveryID (recordedBody outcome) f hf).2 [d.deliveryID] := by
  obtain ⟨text, htext⟩ := Option.isSome_iff_exists.mp hstored
  by_cases hlt : d.attempts < maxInt
  · have hwrites : e.writes = true := by rw [Env.writes, he, Option.isNone_none, Bool.true_or]
    rw [Store.execUpdate_taken hd htext hlt hwrites]
    refine ⟨.updated ⟨husable, hlt⟩ ?_ (hattempts text), rfl, fun id hid => ?_⟩
    · exact Store.delivery_updateDelivery_self hd
    · exact Store.delivery_updateDelivery_other (by simpa using hid)
  · rw [Store.execUpdate_refused hd fun htaken => hlt htaken.2.1]
    exact ⟨.untouched (fun hd => hlt hd.2) hd, rfl, fun _ _ => rfl⟩

theorem answer_selectConfig {e : answeredMachine.Env} {id : Uuid}
    {r : Except String (Option WebhookConfigRow)}
    (h : (answeredMachine.exec e (.selectConfig id) s).1 = r) : r = .ok (s.config id) := by
  obtain ⟨e, he, _⟩ := e
  rw [← h]
  simp [answeredMachine, Machine.restrict, machine, exec, orFails, he]

theorem stored_of_send {x : answeredMachine.Env} {id : Uuid} {request : OutgoingRequest}
    {outcome : Except SendError (Nat × List UInt8)}
    (h : (answeredMachine.exec x (.send id request) s).1 = outcome) : Stored outcome := by
  rw [← h]
  exact x.2.2

theorem handled_processDelivery (w : Worker) (hd : s.delivery d.deliveryID = some d)
    (env : Nat → answeredMachine.Env) :
    Handled w s (answeredMachine.run (w.processDelivery d) env s).state d ∧
      Touches s (answeredMachine.run (w.processDelivery d) env s).state [d.deliveryID] := by
  have hprocessed := answeredMachine.meets_run_answer (processed_processDelivery w d) env s
  have htrace := answeredMachine.run_trace (w.processDelivery d) env s
  rw [List.nil_append] at hprocessed
  generalize (answeredMachine.run (w.processDelivery d) env s).log = log at hprocessed htrace
  generalize (answeredMachine.run (w.processDelivery d) env s).state = s' at htrace ⊢
  cases hprocessed with
  | skipped hr =>
      obtain ⟨e, hread, htrace⟩ := answeredMachine.trace_cons.mp htrace
      obtain rfl := answeredMachine.trace_nil.mp htrace
      rw [answer_selectConfig hread] at hr
      exact ⟨.untouched (fun h => hr h.1) hd, rfl, fun _ _ => rfl⟩
  | success hr request outcome statusCode written =>
      obtain ⟨e, hread, htrace⟩ := answeredMachine.trace_cons.mp htrace
      obtain ⟨x, hsent, htrace⟩ := answeredMachine.trace_cons.mp htrace
      obtain ⟨e, -, htrace⟩ := answeredMachine.trace_cons.mp htrace
      obtain rfl := answeredMachine.trace_nil.mp htrace
      rw [answer_selectConfig hread] at hr
      exact handled_of_update e.2.1 (stored_of_send hsent) hd hr fun _ => rfl
  | retry hr request outcome now hretries hdelay statusCode written =>
      obtain ⟨e, hread, htrace⟩ := answeredMachine.trace_cons.mp htrace
      obtain ⟨x, hsent, htrace⟩ := answeredMachine.trace_cons.mp htrace
      obtain ⟨_, -, htrace⟩ := answeredMachine.trace_cons.mp htrace
      obtain ⟨e, -, htrace⟩ := answeredMachine.trace_cons.mp htrace
      obtain rfl := answeredMachine.trace_nil.mp htrace
      rw [answer_selectConfig hread] at hr
      exact handled_of_update e.2.1 (stored_of_send hsent) hd hr fun _ => rfl
  | unscheduled hr request outcome hnone statusCode written =>
      obtain ⟨e, hread, htrace⟩ := answeredMachine.trace_cons.mp htrace
      obtain ⟨x, hsent, htrace⟩ := answeredMachine.trace_cons.mp htrace
      obtain ⟨e, -, htrace⟩ := answeredMachine.trace_cons.mp htrace
      obtain rfl := answeredMachine.trace_nil.mp htrace
      rw [answer_selectConfig hread] at hr
      exact handled_of_update e.2.1 (stored_of_send hsent) hd hr fun _ => rfl

end Delivery

section Batch
variable {w : Worker} {s s' s₁ : Store} {d : WebhookDelivery} {ds : List WebhookDelivery}

theorem deliverable_congr (hconfigs : s₁.configs = s.configs) :
    Deliverable w s₁ d ↔ Deliverable w s d := by
  rw [Deliverable, Deliverable, Store.config, Store.config, hconfigs]

theorem Handled.after (h : Handled w s s₁ d)
    (hsame : s'.delivery d.deliveryID = s₁.delivery d.deliveryID) : Handled w s s' d := by
  cases h with
  | updated hd hrow hattempts => exact .updated hd (hsame.trans hrow) hattempts
  | untouched hd hrow => exact .untouched hd (hsame.trans hrow)

theorem Handled.before (h : Handled w s₁ s' d) (hconfigs : s₁.configs = s.configs) :
    Handled w s s' d := by
  cases h with
  | updated hd hrow hattempts => exact .updated ((deliverable_congr hconfigs).mp hd) hrow hattempts
  | untouched hd hrow => exact .untouched (fun h => hd ((deliverable_congr hconfigs).mpr h)) hrow

/-- Each delivery is found as it was fetched: those before it have other rows. -/
theorem handled_processDeliveries (w : Worker) (hnodup : (ds.map (·.deliveryID)).Nodup)
    (hrows : ∀ d ∈ ds, s.delivery d.deliveryID = some d) (env : Nat → answeredMachine.Env) :
    (∀ d ∈ ds, Handled w s (answeredMachine.run (w.processDeliveries ds) env s).state d) ∧
      Touches s (answeredMachine.run (w.processDeliveries ds) env s).state
        (ds.map (·.deliveryID)) := by
  induction ds generalizing s env with
  | nil => exact ⟨fun d hd => absurd hd List.not_mem_nil, rfl, fun _ _ => rfl⟩
  | cons d rest ih =>
      rw [Worker.processDeliveries, answeredMachine.run_bind]
      dsimp only
      obtain ⟨hhead, htouches⟩ := handled_processDelivery w (hrows d (.head _)) env
      generalize (answeredMachine.run (w.processDelivery d) env s).log.length = n
      generalize (answeredMachine.run (w.processDelivery d) env s).state = s₁ at hhead htouches ⊢
      rw [List.map_cons, List.nodup_cons] at hnodup
      obtain ⟨hnew, hnodup⟩ := hnodup
      have hrows₁ : ∀ e ∈ rest, s₁.delivery e.deliveryID = some e := by
        intro e he
        rw [htouches.others, hrows e (.tail _ he)]
        intro hsame
        rw [List.mem_singleton] at hsame
        exact hnew (hsame ▸ List.mem_map_of_mem he)
      obtain ⟨hrest, hothers⟩ := ih hnodup hrows₁ fun k => env (k + n)
      refine ⟨fun e he => ?_, hothers.configs.trans htouches.configs, fun id hid => ?_⟩
      · obtain rfl | he := List.mem_cons.mp he
        · exact hhead.after (hothers.others _ hnew)
        · exact (hrest e he).before htouches.configs
      · rw [List.map_cons, List.mem_cons, not_or] at hid
        exact (hothers.others id hid.2).trans (htouches.others id (by simpa using hid.1))

theorem Store.nodup_ids (s : Store) : (s.deliveries.rows.map (·.deliveryID)).Nodup :=
  List.pairwise_map.mpr s.deliveries.unique

theorem perm_pending (s : Store) (now : Time) (rank : Uuid → Nat) :
    ∃ line : List WebhookDelivery, line.Perm (s.deliveries.rows.filter (·.due now)) ∧
      ∀ limit, s.pending now rank limit = line.take limit :=
  ⟨_, List.perm_insertionSort _ _, fun _ => rfl⟩

theorem run_processBatch (w : Worker) (env : Nat → answeredMachine.Env) (s : Store) :
    (answeredMachine.run w.processBatch env s).state =
      (answeredMachine.run (w.processDeliveries (s.pending (env 0).1.now (env 0).1.rank 10))
        (fun n => env (n + 1)) s).state := by
  have hread : answeredMachine.exec (env 0) (.selectPending 10) s =
      (.ok (s.pending (env 0).1.now (env 0).1.rank 10), s) := by
    simp [answeredMachine, Machine.restrict, machine, exec, orFails, (env 0).2.1]
  simp only [Worker.processBatch, ask, Program.bind, Machine.run, hread]

def answeredEnv (env : Nat → workingMachine.Env) (h : ∀ n, Stored (env n).1.outcome) :
    Nat → answeredMachine.Env :=
  fun n => ⟨(env n).1, (env n).2, h n⟩

theorem run_answered (p : Program interface Unit) (env : Nat → workingMachine.Env)
    (h : ∀ n, Stored (env n).1.outcome) (s : Store) :
    answeredMachine.run p (answeredEnv env h) s = workingMachine.run p env s :=
  (machine.run_restrict p _ s).trans (machine.run_restrict p env s).symm

/-- What a batch takes up, and what it leaves. -/
structure Takes (w : Worker) (since : Time) (t : Turn) (s' : Store) (ds : List WebhookDelivery) :
    Prop where
  batch : t.oldest = ds.map (·.deliveryID)
  nodup : (ds.map (·.deliveryID)).Nodup
  length_le : ds.length ≤ 10
  full : ∀ d ∈ t.before.deliveries.rows, d.due since = true → d ∉ ds → ds.length = 10
  rows : ∀ d ∈ ds, t.before.delivery d.deliveryID = some d
  handled : ∀ d ∈ ds, Handled w t.before s' d
  touches : Touches t.before s' (ds.map (·.deliveryID))

theorem due_mono {now since : Time} (hnow : since ≤ now) (hd : d.due since = true) :
    d.due now = true := by
  simp only [WebhookDelivery.due, Bool.and_eq_true, decide_eq_true_eq] at hd ⊢
  refine ⟨hd.1, ?_⟩
  cases hnext : d.nextRetryAt with
  | none => rfl
  | some next =>
      have hle : next ≤ since := by simpa [hnext] using hd.2
      simpa using Int.le_trans hle hnow

theorem takes_processBatch (w : Worker) {since : Time} (env : Nat → workingMachine.Env)
    (hanswered : Turn.Answered ⟨s, fun n => (env n).1⟩) (hnow : since ≤ (env 0).1.now) :
    ∃ ds, Takes w since ⟨s, fun n => (env n).1⟩
      (workingMachine.run w.processBatch env s).state ds := by
  have hsame := congrArg (·.state) (run_answered w.processBatch env hanswered s)
  have hafter : (workingMachine.run w.processBatch env s).state =
      (answeredMachine.run (w.processDeliveries (s.pending (env 0).1.now (env 0).1.rank 10))
        (fun n => answeredEnv env hanswered (n + 1)) s).state :=
    hsame.symm.trans (run_processBatch w (answeredEnv env hanswered) s)
  obtain ⟨line, hperm, htake⟩ := perm_pending s (env 0).1.now (env 0).1.rank
  rw [htake 10] at hafter
  have hbatch : Turn.oldest ⟨s, fun n => (env n).1⟩ = (line.take 10).map (·.deliveryID) := by
    rw [Turn.oldest, htake 10]
  have hline : (line.map (·.deliveryID)).Nodup := by
    rw [(hperm.map _).nodup_iff]
    exact s.nodup_ids.sublist (List.filter_sublist.map _)
  have hnodup : ((line.take 10).map (·.deliveryID)).Nodup :=
    hline.sublist ((List.take_sublist 10 line).map _)
  have hrows : ∀ d ∈ line.take 10, s.delivery d.deliveryID = some d := by
    intro d hd
    have hmem := hperm.mem_iff.mp (List.mem_of_mem_take hd)
    exact Store.delivery_of_mem (List.mem_filter.mp hmem).1
  obtain ⟨hhandled, htouches⟩ := handled_processDeliveries w hnodup hrows fun n =>
    answeredEnv env hanswered (n + 1)
  rw [← hafter] at hhandled htouches
  refine ⟨line.take 10, hbatch, hnodup, List.length_take_le .., ?_, hrows, hhandled, htouches⟩
  intro d hd hdue hout
  have hmem : d ∈ line := hperm.mem_iff.mpr (List.mem_filter.mpr ⟨hd, due_mono hnow hdue⟩)
  rw [List.length_take]
  by_contra hshort
  rw [List.take_of_length_le (by omega)] at hout
  exact hout hmem

end Batch

def Store.queued (s : Store) (since : Time) : List WebhookDelivery :=
  s.deliveries.rows.filter (·.due since)

/-- The row of every delivery that was due has been updated. -/
def AllHandled (since : Time) (start s : Store) : Prop :=
  ∀ d ∈ start.queued since, ∃ d', s.delivery d.deliveryID = some d' ∧ d.attempts < d'.attempts

/-- Each row is as it was at the start, or has been updated since. -/
structure Advances (start s : Store) : Prop where
  configs : s.configs = start.configs
  rows : ∀ d ∈ start.deliveries.rows, s.delivery d.deliveryID = some d ∨
    ∃ d', s.delivery d.deliveryID = some d' ∧ d.attempts < d'.attempts

section Runs
variable {w : Worker} {since : Time} {start s s' : Store} {d : WebhookDelivery}
  {ds : List WebhookDelivery} {h : List Turn}

theorem attempts_eq_some_iff (hadvances : Advances start s) (hd : d ∈ start.deliveries.rows) :
    s.attempts d.deliveryID = some d.attempts ↔ s.delivery d.deliveryID = some d := by
  rw [Store.attempts]
  obtain hrow | ⟨d', hrow, hlt⟩ := hadvances.rows d hd
  · simp [hrow]
  · rw [hrow, Option.map_some, Option.some.injEq, Option.some.injEq]
    constructor
    · intro heq
      omega
    · intro heq
      rw [heq]

/-- What a batch does to one row, which it may have fetched. -/
theorem row_after (hrows : ∀ d ∈ ds, s.delivery d.deliveryID = some d)
    (hhandled : ∀ d ∈ ds, Handled w s s' d) (htouches : Touches s s' (ds.map (·.deliveryID)))
    (hd : s.delivery d.deliveryID = some d) :
    if d.deliveryID ∈ ds.map (·.deliveryID) then Handled w s s' d
    else s'.delivery d.deliveryID = some d := by
  split
  · next hin =>
    obtain ⟨d', hd', hid⟩ := List.mem_map.mp hin
    have hsame := hrows d' hd'
    rw [hid, hd] at hsame
    rw [Option.some.inj hsame]
    exact hhandled d' hd'
  · next hout =>
    rw [htouches.others _ hout, hd]

theorem row_advances {id : Uuid} (hrows : ∀ d ∈ ds, s.delivery d.deliveryID = some d)
    (hhandled : ∀ d ∈ ds, Handled w s s' d) (htouches : Touches s s' (ds.map (·.deliveryID)))
    (hd : s.delivery id = some d) :
    ∃ d', s'.delivery id = some d' ∧ (d' = d ∨ d.attempts < d'.attempts) := by
  obtain rfl := Store.id_of_delivery hd
  have hafter := row_after hrows hhandled htouches hd
  split at hafter
  · cases hafter with
    | @updated _ d' hrow hattempts => exact ⟨d', hrow, .inr (by omega)⟩
    | untouched _ hrow => exact ⟨d, hrow, .inl rfl⟩
  · exact ⟨d, hafter, .inl rfl⟩

theorem Advances.batch (hadvances : Advances start s)
    (hrows : ∀ d ∈ ds, s.delivery d.deliveryID = some d)
    (hhandled : ∀ d ∈ ds, Handled w s s' d) (htouches : Touches s s' (ds.map (·.deliveryID))) :
    Advances start s' := by
  refine ⟨htouches.configs.trans hadvances.configs, fun d hd => ?_⟩
  obtain hsame | ⟨r, hr, hlt⟩ := hadvances.rows d hd
  · obtain ⟨r', hr', rfl | hlt⟩ := row_advances hrows hhandled htouches hsame
    · exact .inl hr'
    · exact .inr ⟨r', hr', hlt⟩
  · obtain ⟨r', hr', rfl | hlt'⟩ := row_advances hrows hhandled htouches hr
    · exact .inr ⟨r', hr', hlt⟩
    · exact .inr ⟨r', hr', hlt.trans hlt'⟩

/-- A delivery of which no attempt is made keeps its row. -/
theorem stuck_batch (hadvances : Advances start s) (hd : ¬Deliverable w start d)
    (hrow : s.delivery d.deliveryID = some d) (hrows : ∀ d ∈ ds, s.delivery d.deliveryID = some d)
    (hhandled : ∀ d ∈ ds, Handled w s s' d) (htouches : Touches s s' (ds.map (·.deliveryID))) :
    s'.delivery d.deliveryID = some d := by
  have hafter := row_after hrows hhandled htouches hrow
  split at hafter
  · cases hafter with
    | updated hdeliverable _ _ =>
        exact absurd ((deliverable_congr hadvances.configs).mp hdeliverable) hd
    | untouched _ hrow => exact hrow
  · exact hafter

/-- Where an attempt is made of all of them, those who wait are those left out. -/
theorem waiting_batch (hadvances : Advances start s)
    (hall : ∀ d ∈ start.queued since, Deliverable w start d)
    (hrows : ∀ d ∈ ds, s.delivery d.deliveryID = some d)
    (hhandled : ∀ d ∈ ds, Handled w s s' d) (htouches : Touches s s' (ds.map (·.deliveryID))) :
    start.waiting since s' = left (start.waiting since s) (ds.map (·.deliveryID)) := by
  rw [Store.waiting, Store.waiting, left, List.filter_map, List.filter_filter]
  congr 1
  apply List.filter_congr
  intro d hd
  by_cases hdue : d.due since = true
  · have hdeliverable := hall d (List.mem_filter.mpr ⟨hd, hdue⟩)
    have hadvances' := hadvances.batch hrows hhandled htouches
    have hiff : s'.attempts d.deliveryID = some d.attempts ↔
        d.deliveryID ∉ ds.map (·.deliveryID) ∧ s.attempts d.deliveryID = some d.attempts := by
      rw [attempts_eq_some_iff hadvances' hd, attempts_eq_some_iff hadvances hd]
      constructor
      · intro hrow'
        obtain hrow | ⟨r, hr, hlt⟩ := hadvances.rows d hd
        · refine ⟨fun hin => ?_, hrow⟩
          have hafter := row_after hrows hhandled htouches hrow
          rw [if_pos hin] at hafter
          cases hafter with
          | updated _ hrow hattempts =>
              obtain rfl := Option.some.inj (hrow'.symm.trans hrow)
              omega
          | untouched hstuck _ => exact hstuck ((deliverable_congr hadvances.configs).mpr hdeliverable)
        · obtain ⟨r', hr', hle⟩ := row_advances hrows hhandled htouches hr
          obtain rfl := Option.some.inj (hrow'.symm.trans hr')
          obtain rfl | hlt' := hle <;> omega
      · intro hwaits
        have hafter := row_after hrows hhandled htouches hwaits.2
        rwa [if_neg hwaits.1] at hafter
    simp [hdue, hiff]
  · simp [hdue]

theorem fills_batch {t : Turn} (hadvances : Advances start t.before)
    (htakes : Takes w since t s' ds) : Fills 10 (start.waiting since t.before) t.oldest := by
  rw [htakes.batch]
  refine ⟨htakes.nodup, ?_, fun hout => ?_⟩
  · rw [List.length_map]
    exact htakes.length_le
  · rw [List.length_map]
    obtain ⟨id, hid, hnot⟩ : ∃ id ∈ start.waiting since t.before, id ∉ ds.map (·.deliveryID) := by
      by_contra hnone
      push Not at hnone
      exact hout hnone
    obtain ⟨d, hd, rfl⟩ := List.mem_map.mp hid
    simp only [List.mem_filter, Bool.and_eq_true, decide_eq_true_eq] at hd
    obtain ⟨hd, hdue, hwaits⟩ := hd
    have hrow := (attempts_eq_some_iff hadvances hd).mp hwaits
    refine htakes.full d (Table.mem_of_find hrow) hdue fun hin => hnot (List.mem_map_of_mem hin)

namespace Batches

theorem advances (run : Batches w since start h s) (hanswered : ∀ t ∈ h, t.Answered) :
    Advances start s := by
  induction run with
  | start => exact ⟨rfl, fun d hd => .inl (Store.delivery_of_mem hd)⟩
  | batch run env hnow ih =>
      obtain ⟨hbefore, hturn⟩ := List.forall_mem_append.mp hanswered
      obtain ⟨ds, htakes⟩ := takes_processBatch w env (hturn _ (.head _)) hnow
      exact (ih hbefore).batch htakes.rows htakes.handled htakes.touches

theorem stuck (run : Batches w since start h s) (hanswered : ∀ t ∈ h, t.Answered)
    (hd : d ∈ start.deliveries.rows) (hnot : ¬Deliverable w start d) :
    s.delivery d.deliveryID = some d := by
  induction run with
  | start => exact Store.delivery_of_mem hd
  | batch run env hnow ih =>
      obtain ⟨hbefore, hturn⟩ := List.forall_mem_append.mp hanswered
      obtain ⟨ds, htakes⟩ := takes_processBatch w env (hturn _ (.head _)) hnow
      exact stuck_batch (run.advances hbefore) hnot (ih hbefore) htakes.rows htakes.handled
        htakes.touches

/-- Where an attempt is made of every delivery, the batches serve a line. -/
theorem batched (run : Batches w since start h s) (hanswered : ∀ t ∈ h, t.Answered)
    (hall : ∀ d ∈ start.queued since, Deliverable w start d) :
    Batched 10 (start.waiting since start) h.length (lostPlaces start since h)
      (start.waiting since s) := by
  induction run with
  | start => exact .start
  | @batch h s run env hnow ih =>
      obtain ⟨hbefore, hturn⟩ := List.forall_mem_append.mp hanswered
      obtain ⟨ds, htakes⟩ := takes_processBatch w env (hturn _ (.head _)) hnow
      have hadvances := run.advances hbefore
      have hnext := (ih hbefore).batch (fills_batch hadvances htakes)
      have hwaiting := waiting_batch hadvances hall htakes.rows htakes.handled htakes.touches
      rw [← htakes.batch] at hwaiting
      rw [hwaiting, List.length_append, List.length_singleton, lostPlaces, List.map_append,
        List.sum_append, List.map_singleton, List.sum_singleton]
      exact hnext

theorem waiting_start (start : Store) (since : Time) :
    start.waiting since start = (start.queued since).map (·.deliveryID) := by
  rw [Store.waiting, Store.queued]
  congr 1
  apply List.filter_congr
  intro d hd
  simp [Store.attempts, Store.delivery_of_mem hd]

theorem allHandled_iff (run : Batches w since start h s) (hanswered : ∀ t ∈ h, t.Answered) :
    AllHandled since start s ↔ start.waiting since s = [] := by
  rw [Store.waiting, List.map_eq_nil_iff, List.filter_eq_nil_iff]
  constructor
  · intro hall d hd hwaits
    simp only [Bool.and_eq_true, decide_eq_true_eq] at hwaits
    obtain ⟨d', hd', hlt⟩ := hall d (List.mem_filter.mpr ⟨hd, hwaits.1⟩)
    rw [Store.attempts, hd', Option.map_some, Option.some.injEq] at hwaits
    omega
  · intro hnone d hd
    obtain ⟨hd, hdue⟩ := List.mem_filter.mp hd
    have hadvances := run.advances hanswered
    obtain hrow | hrow := hadvances.rows d hd
    · refine absurd ?_ (hnone d hd)
      rw [hdue, Bool.true_and, decide_eq_true_eq]
      exact (attempts_eq_some_iff hadvances hd).mpr hrow
    · exact hrow

end Batches

/-- Where all answers are texts, so many batches handle every delivery that was due exactly
if an attempt can be made of each, and the places lost to others are no more than those to
spare. -/
theorem all_handled_iff (run : Batches w since start h s) (hanswered : ∀ t ∈ h, t.Answered) :
    AllHandled since start s ↔
      (∀ d ∈ start.queued since, Deliverable w start d) ∧
        (start.queued since).length + lostPlaces start since h ≤ 10 * h.length := by
  have hnodup : (start.waiting since start).Nodup := by
    rw [Batches.waiting_start]
    exact start.nodup_ids.sublist (List.filter_sublist.map _)
  constructor
  · intro hhandled
    have hall : ∀ d ∈ start.queued since, Deliverable w start d := by
      intro d hd
      by_contra hnot
      obtain ⟨d', hd', hlt⟩ := hhandled d hd
      have hrow := run.stuck hanswered (List.mem_filter.mp hd).1 hnot
      obtain rfl := Option.some.inj (hrow.symm.trans hd')
      omega
    refine ⟨hall, ?_⟩
    have hcount := ((run.batched hanswered hall).all_iff hnodup).mp
      ((run.allHandled_iff hanswered).mp hhandled)
    rwa [Batches.waiting_start, List.length_map] at hcount
  · intro hcond
    obtain ⟨hall, hcount⟩ := hcond
    apply (run.allHandled_iff hanswered).mpr
    apply ((run.batched hanswered hall).all_iff hnodup).mpr
    rwa [Batches.waiting_start, List.length_map]

/-- No event list is decoded as JSON, so the worker as it is handles no delivery at all. -/
theorem deployed_handled_iff {p : Primitives} {retryConfig : RetryConfig}
    (run : Batches (.deployed p retryConfig) since start h s) (hanswered : ∀ t ∈ h, t.Answered) :
    AllHandled since start s ↔ start.queued since = [] := by
  constructor
  · intro hhandled
    apply List.eq_nil_iff_forall_not_mem.mpr
    intro d hd
    have hnot : ¬Deliverable (.deployed p retryConfig) start d := by
      intro hdeliverable
      obtain ⟨row, retryConfig, events, -, -, hevents, -⟩ := hdeliverable.1
      have hnone : JsonStrings.unmarshalStrings row.events.out = some events := hevents
      rw [unmarshalStrings_out] at hnone
      cases hnone
    obtain ⟨d', hd', hlt⟩ := hhandled d hd
    have hrow := run.stuck hanswered (List.mem_filter.mp hd).1 hnot
    obtain rfl := Option.some.inj (hrow.symm.trans hd')
    omega
  · intro hnil d hd
    rw [hnil] at hd
    exact absurd hd List.not_mem_nil

end Runs

section Sample

/-- Every endpoint accepts what it is sent. -/
def acceptingEnv (_ : Nat) : workingMachine.Env := ⟨{ outcome := accepted }, rfl⟩

theorem acceptingEnv_answered (s : Store) : Turn.Answered ⟨s, fun n => (acceptingEnv n).1⟩ := by
  intro n
  show (textIn []).isSome = true
  decide +kernel

def queuedDelivery (n : Nat) : WebhookDelivery where
  deliveryID := .repeated n
  webhookID := if n < 10 then .repeated 1 else .repeated 2
  eventType := "asset.sold"
  payload := .null
  createdAt := n

/-- Ten deliveries of a webhook that is disabled, and one of an active webhook after them. -/
def blockedQueue : Store where
  configs := ⟨[
    { webhookID := .repeated 1
      brandID := "luxe"
      url := "https://hooks.luxe/rc"
      events := .ofList ["asset.sold"]
      status := "Disabled" },
    { webhookID := .repeated 2
      brandID := "maison"
      url := "https://hooks.maison/rc"
      events := .ofList ["asset.sold"] }], by decide⟩
  deliveries := ⟨(List.range 11).map queuedDelivery, by decide⟩

/-- Eleven deliveries of two active webhooks. -/
def mixedQueue : Store where
  configs := ⟨[
    { webhookID := .repeated 1
      brandID := "luxe"
      url := "https://hooks.luxe/rc"
      events := .ofList ["asset.sold"] },
    { webhookID := .repeated 2
      brandID := "maison"
      url := "https://hooks.maison/rc"
      events := .ofList ["asset.sold"] }], by decide⟩
  deliveries := ⟨(List.range 11).map queuedDelivery, by decide⟩

/-- Every endpoint fails. -/
def failingEnv (_ : Nat) : workingMachine.Env := ⟨{ outcome := serverError }, rfl⟩

theorem failingEnv_answered (s : Store) : Turn.Answered ⟨s, fun n => (failingEnv n).1⟩ := by
  intro n
  show (textIn []).isSome = true
  decide +kernel

def failedStore : Store := (workingMachine.run courier.processBatch failingEnv mixedQueue).state

/-- Ten are tried and fail; the eleventh is sent before they are due again. -/
theorem all_handled_iff_eleven :
    AllHandled 0 mixedQueue
      (workingMachine.run courier.processBatch acceptingEnv failedStore).state := by
  have first : Batches courier 0 mixedQueue _ failedStore :=
    Batches.start.batch failingEnv (by decide)
  have run := first.batch acceptingEnv (by decide)
  refine (all_handled_iff run ?_).mpr ⟨?_, by decide +kernel⟩
  · intro t ht
    simp only [List.nil_append, List.mem_append, List.mem_singleton] at ht
    obtain rfl | rfl := ht
    · exact failingEnv_answered _
    · exact acceptingEnv_answered _
  · intro d hd
    obtain ⟨n, -, rfl⟩ := List.mem_map.mp (List.mem_filter.mp hd).1
    refine ⟨?_, (by decide : 0 < maxInt)⟩
    by_cases hn : n < 10
    · have hid : (queuedDelivery n).webhookID = .repeated 1 := if_pos hn
      rw [hid]
      exact ⟨_, _, _, rfl, rfl, decodeJsonColumn_out ["asset.sold"], rfl⟩
    · have hid : (queuedDelivery n).webhookID = .repeated 2 := if_neg hn
      rw [hid]
      exact ⟨_, _, _, rfl, rfl, decodeJsonColumn_out ["asset.sold"], rfl⟩

/-- The second batch fetches the ten of the first again, and not the eleventh. -/
theorem eleventh_never_handled :
    ¬∀ (w : Worker) (since : Time) (start s : Store) (h : List Turn), Batches w since start h s →
      h.length = ((start.queued since).length + 9) / 10 → AllHandled since start s := by
  intro hall
  have first : Batches courier 0 blockedQueue _ _ := Batches.start.batch acceptingEnv (by decide)
  have second := first.batch acceptingEnv (by decide)
  have hhandled := hall _ _ _ _ _ second (by decide)
  have hqueued : queuedDelivery 10 ∈ blockedQueue.queued 0 :=
    List.mem_filter.mpr ⟨List.mem_map_of_mem (List.mem_range.mpr (by decide)), by decide⟩
  obtain ⟨d', hd', hlt⟩ := hhandled (queuedDelivery 10) hqueued
  have hnone : ((workingMachine.run courier.processBatch acceptingEnv
      (workingMachine.run courier.processBatch acceptingEnv blockedQueue).state).state.delivery
        (queuedDelivery 10).deliveryID).all (fun d => d.attempts = 0) = true := by
    decide +kernel
  rw [hd', Option.all_some, decide_eq_true_eq] at hnone
  omega

end Sample

end RcProtocol.Webhooks
