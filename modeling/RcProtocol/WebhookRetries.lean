import RcProtocol.WebhookDeliveries
import RcProtocol.Webhooks.Attempts
import RcProtocol.Webhooks.Config

/-!
The failing attempts of one delivery by one worker. The table of delays has three
entries, whatever number of retries is configured: past its end no time is set for the
next attempt, and the delivery is due at once. A failure whose update the database does
not take leaves the row as it was.
-/

namespace RcProtocol.Webhooks
open Library

/-- A delivery as it was taken up once: the environments its steps had, the answers, and
the states around them. -/
structure Attempt where
  before : Store
  env : Nat → Env
  log : Log
  after : Store

def Worker.attempt (w : Worker) (env : Nat → Env) (s : Store) (d : WebhookDelivery) : Attempt :=
  let outcome := machine.run (w.processDelivery d) env s
  ⟨s, env, outcome.log, outcome.state⟩

def Op.isFailure (id : Uuid) : Op → Bool
  | .updateFailure key _ _ _ _ => key = id
  | _ => false

/-- What is recorded of an exchange is a text. -/
def storesAnswer : Event interface → Bool
  | ⟨.send _ _, outcome⟩ => (textIn (recordedBody outcome)).isSome
  | _ => true

namespace Attempt
variable (a : Attempt) (id : Uuid)

/-- The attempt failed, whether or not the row has come to count it. -/
def Fails : Prop := ∃ e ∈ a.log, e.op.isFailure id = true

/-- What the update records is a text, and the database carries the update out, which is
the last statement of an attempt. -/
def Recorded : Prop :=
  (∀ e ∈ a.log, storesAnswer e = true) ∧ (a.env (a.log.length - 1)).writes = true

/-- The row counts the attempt, and the next is set so long after the time the worker
has read. -/
def Delays (delay : Int) : Prop :=
  a.after.attempts id ≠ a.before.attempts id ∧
    ∃ now d, ⟨.now, now⟩ ∈ a.log ∧ a.after.delivery id = some d ∧ d.status = .pending ∧
      d.nextRetryAt = some (now + delay)

def Abandons : Prop := ∃ d, a.after.delivery id = some d ∧ d.status = .abandoned

end Attempt

instance (a : Attempt) (id : Uuid) : Decidable (a.Fails id) :=
  inferInstanceAs (Decidable (∃ e ∈ a.log, _))

instance (a : Attempt) : Decidable a.Recorded := inferInstanceAs (Decidable (_ ∧ _))

/-- One worker and its failures with one delivery. What happens to other rows in between
is open. -/
inductive FailedAttempts (w : Worker) (id : Uuid) : List Attempt → Store → Prop
  | start {s : Store} {d : WebhookDelivery} (hd : s.delivery id = some d) (henqueued : d.Enqueued) :
      FailedAttempts w id [] s
  | aside {h : List Attempt} {s s' : Store} (run : FailedAttempts w id h s)
      (hsame : s'.delivery id = s.delivery id) : FailedAttempts w id h s'
  | failed {h : List Attempt} {s : Store} {d : WebhookDelivery} {now : Time}
      (run : FailedAttempts w id h s) (hd : s.delivery id = some d) (hdue : d.due now = true)
      (env : Nat → Env) (hfails : (w.attempt env s d).Fails id) :
      FailedAttempts w id (h ++ [w.attempt env s d]) (w.attempt env s d).after

structure Retries (w : Worker) (id : Uuid) (h : List Attempt) : Prop where
  scheduled : ∀ h₁ a h₂, h = h₁ ++ a :: h₂ → (h₁.length + 1 : Int) < w.retryConfig.maxRetries →
    ∃ delay, 0 < delay ∧ a.Delays id delay
  growing : ∀ h₁ a h₂ b h₃, h = h₁ ++ a :: (h₂ ++ b :: h₃) → ∀ x y, a.Delays id x →
    b.Delays id y → x ≤ y
  /-- The clock is read to add a delay to it, and the table has one for these attempts. -/
  indexed : ∀ a ∈ h, ∀ now, ⟨.now, now⟩ ∈ a.log →
    ∀ attempts ∈ a.before.attempts id, attempts < w.retryConfig.backoffSeconds.length
  abandoned : ∀ h₁ a h₂, h = h₁ ++ a :: h₂ →
    (a.Abandons id ↔ (h₁.length + 1 : Int) = w.retryConfig.maxRetries)

section Failure
variable {w : Worker} {id : Uuid} {s s' : Store} {d : WebhookDelivery} {env : Nat → Env}

/-- What an update that is taken leaves of the row. -/
theorem delivery_of_updateFailure {statusCode : Option Nat} {responseBody : List UInt8}
    {nextRetryAt : Option Time} {reached : Bool} {e : Env} (hd : s.delivery d.deliveryID = some d)
    (htext : (textIn responseBody).isSome = true) (hlt : d.attempts < maxInt)
    (hwrites : e.writes = true) :
    ∃ text, (exec e (.updateFailure d.deliveryID statusCode responseBody nextRetryAt reached)
      s).2.delivery d.deliveryID =
        some (d.fail e.now statusCode text nextRetryAt reached) := by
  obtain ⟨text, htext⟩ := Option.isSome_iff_exists.mp htext
  have hset : (exec e (.updateFailure d.deliveryID statusCode responseBody nextRetryAt reached)
      s).2 = s.updateDelivery d.deliveryID (.fail e.now statusCode text nextRetryAt reached)
        fun _ => rfl :=
    Store.execUpdate_taken hd htext hlt hwrites
  exact ⟨text, (congrArg (Store.delivery · d.deliveryID) hset).trans
    (Store.delivery_updateDelivery_self hd)⟩

/-- A counted failure of an attempt of the row as it stands. -/
inductive Failed (w : Worker) (id : Uuid) (a : Attempt) (d : WebhookDelivery) : Prop
  | retry (now : Time) (hclock : ∀ t, ⟨.now, t⟩ ∈ a.log ↔ t = now)
      (hretries : (d.attempts + 1 : Int) < w.retryConfig.maxRetries)
      (hdelay : d.attempts < w.retryConfig.backoffSeconds.length) {d' : WebhookDelivery}
      (hd' : a.after.delivery id = some d') (hattempts : d'.attempts = d.attempts + 1)
      (hstatus : d'.status = .pending)
      (hnext : d'.nextRetryAt =
        some (now + w.retryConfig.backoffSeconds.get ⟨d.attempts, hdelay⟩ * 1000000))
  | unscheduled (hclock : ∀ t, ⟨.now, t⟩ ∉ a.log)
      (hnone : w.retryConfig.maxRetries ≤ (d.attempts + 1 : Int) ∨
        w.retryConfig.backoffSeconds.length ≤ d.attempts) {d' : WebhookDelivery}
      (hd' : a.after.delivery id = some d') (hattempts : d'.attempts = d.attempts + 1)
      (hstatus : d'.status =
        if w.retryConfig.maxRetries ≤ (d.attempts + 1 : Int) then .abandoned else .pending)
      (hnext : d'.nextRetryAt = none)

section Failing
variable {reads : Log} {outcome : Except SendError (Nat × List UInt8)} {statusCode : Option Nat}
  {nextRetryAt : Option Time} {reached : Bool} {written : Except String Unit}

/-- The update of a failing attempt finds the row as the attempt did. -/
theorem after_failing (hreads : ∀ e ∈ reads, ∀ env t, (exec env e.op t).2 = t)
    (hlog : (w.attempt env s d).log = reads ++
      [⟨.updateFailure d.deliveryID statusCode (recordedBody outcome) nextRetryAt reached, written⟩]) :
    (w.attempt env s d).after = (exec (env reads.length)
      (.updateFailure d.deliveryID statusCode (recordedBody outcome) nextRetryAt reached) s).2 := by
  obtain ⟨t, ht, -, hafter⟩ := machine.run_split (w.processDelivery d) env s hlog
  have hsame : t = s := by
    apply ht.invariant (I := fun t => t = s) rfl
    intro env op t he ht
    rw [← ht]
    exact hreads _ he env t
  rw [hsame] at hafter
  exact machine.trace_nil.mp hafter

theorem recorded_failing (hanswer : (∀ e ∈ reads, storesAnswer e = true) ↔
      (textIn (recordedBody outcome)).isSome = true)
    (hlog : (w.attempt env s d).log = reads ++
      [⟨.updateFailure d.deliveryID statusCode (recordedBody outcome) nextRetryAt reached, written⟩]) :
    (w.attempt env s d).Recorded ↔
      (textIn (recordedBody outcome)).isSome = true ∧ (env reads.length).writes = true := by
  rw [Attempt.Recorded, hlog, List.forall_mem_append, hanswer, List.length_append,
    List.length_singleton, Nat.add_sub_cancel]
  simp [storesAnswer, Worker.attempt]

/-- It is counted, or it is not taken and the row is kept. -/
theorem row_failing (hd : s.delivery d.deliveryID = some d)
    (hreads : ∀ e ∈ reads, ∀ env t, (exec env e.op t).2 = t)
    (hanswer : (∀ e ∈ reads, storesAnswer e = true) ↔
      (textIn (recordedBody outcome)).isSome = true)
    (hlog : (w.attempt env s d).log = reads ++
      [⟨.updateFailure d.deliveryID statusCode (recordedBody outcome) nextRetryAt reached, written⟩]) :
    if (w.attempt env s d).Recorded ∧ d.attempts < maxInt then
      ∃ now text, (w.attempt env s d).after.delivery d.deliveryID =
        some (d.fail now statusCode text nextRetryAt reached)
    else (w.attempt env s d).after.delivery d.deliveryID = some d := by
  have hrecorded := recorded_failing hanswer hlog
  rw [after_failing hreads hlog]
  split
  · next htaken =>
    obtain ⟨htext, hwrites⟩ := hrecorded.mp htaken.1
    exact ⟨_, delivery_of_updateFailure hd htext htaken.2 hwrites⟩
  · next hrefused =>
    refine (congrArg (Store.delivery · d.deliveryID) (Store.execUpdate_refused hd ?_)).trans hd
    intro htaken
    exact hrefused ⟨hrecorded.mpr ⟨htaken.1, htaken.2.2⟩, htaken.2.1⟩

end Failing

/-- A failing attempt is counted, or its update is not taken and the row is kept. -/
theorem failed_or_kept (hd : s.delivery id = some d) (hfails : (w.attempt env s d).Fails id) :
    if (w.attempt env s d).Recorded ∧ d.attempts < maxInt then
      Failed w id (w.attempt env s d) d
    else (w.attempt env s d).after.delivery id = some d := by
  obtain rfl := Store.id_of_delivery hd
  obtain ⟨e, he, hfailure⟩ := hfails
  have hprocessed := machine.meets_run_answer (processed_processDelivery w d) env s
  rw [List.nil_append] at hprocessed
  generalize hlog : (machine.run (w.processDelivery d) env s).log = log at hprocessed
  change (w.attempt env s d).log = log at hlog
  rw [hlog] at he
  cases hprocessed with
  | skipped _ =>
      obtain rfl := List.mem_singleton.mp he
      cases hfailure
  | success _ request outcome statusCode written =>
      simp only [List.mem_cons, List.not_mem_nil, or_false] at he
      obtain rfl | rfl | rfl := he <;> cases hfailure
  | @retry r _ request outcome now hretries hdelay statusCode written =>
      have hreads : ∀ e ∈ ([⟨.selectConfig d.webhookID, r⟩,
          ⟨.send d.deliveryID request, outcome⟩, ⟨.now, now⟩] : Log),
            ∀ env t, (exec env e.op t).2 = t := by simp [exec]
      have hrow := row_failing hd hreads (by simp [storesAnswer]) hlog
      split at hrow
      · next htaken =>
        rw [if_pos htaken]
        obtain ⟨written_at, text, hrow⟩ := hrow
        refine .retry now ?_ hretries hdelay hrow rfl ?_ rfl
        · intro t
          simp [hlog]
        · simp only [WebhookDelivery.fail]
          rw [if_neg]
          simpa using hretries
      · next hrefused =>
        rwa [if_neg hrefused]
  | @unscheduled r _ request outcome hnone statusCode written =>
      have hreads : ∀ e ∈ ([⟨.selectConfig d.webhookID, r⟩,
          ⟨.send d.deliveryID request, outcome⟩] : Log),
            ∀ env t, (exec env e.op t).2 = t := by simp [exec]
      have hrow := row_failing hd hreads (by simp [storesAnswer]) hlog
      split at hrow
      · next htaken =>
        rw [if_pos htaken]
        obtain ⟨written_at, text, hrow⟩ := hrow
        refine .unscheduled ?_ hnone hrow rfl ?_ rfl
        · intro t
          simp [hlog]
        · simp only [WebhookDelivery.fail, decide_eq_true_eq]
      · next hrefused =>
        rwa [if_neg hrefused]

namespace Failed
variable {a : Attempt} {delay : Int}

theorem attempts (h : Failed w id a d) : a.after.attempts id = some (d.attempts + 1) := by
  cases h with
  | retry _ _ _ _ hd' hattempts _ _ | unscheduled _ _ hd' hattempts _ _ =>
      rw [Store.attempts, hd', Option.map_some, hattempts]

theorem status (h : Failed w id a d) : ∃ d', a.after.delivery id = some d' ∧
    d'.status = if w.retryConfig.maxRetries ≤ (d.attempts + 1 : Int) then .abandoned else .pending := by
  cases h with
  | retry _ _ hretries _ hd' _ hstatus _ => exact ⟨_, hd', by rw [hstatus, if_neg (by omega)]⟩
  | unscheduled _ _ hd' _ hstatus _ => exact ⟨_, hd', hstatus⟩

theorem abandons_iff (h : Failed w id a d) :
    a.Abandons id ↔ w.retryConfig.maxRetries ≤ (d.attempts + 1 : Int) := by
  obtain ⟨d', hd', hstatus⟩ := h.status
  constructor
  · intro habandons
    obtain ⟨d'', hd'', habandoned⟩ := habandons
    obtain rfl := Option.some.inj (hd'.symm.trans hd'')
    by_contra hlt
    rw [hstatus, if_neg hlt] at habandoned
    cases habandoned
  · intro hle
    exact ⟨d', hd', by rw [hstatus, if_pos hle]⟩

/-- The delay is the one the table has for the attempts before. -/
theorem delays_iff (h : Failed w id a d) (hbefore : a.before.delivery id = some d) :
    a.Delays id delay ↔ (d.attempts + 1 : Int) < w.retryConfig.maxRetries ∧
      ∃ hdelay, delay = w.retryConfig.backoffSeconds.get ⟨d.attempts, hdelay⟩ * 1000000 := by
  constructor
  · intro hdelays
    obtain ⟨-, t, d'', hread, hd'', -, hnext⟩ := hdelays
    cases h with
    | retry now hclock hretries hdelay hd' _ _ hset =>
        obtain rfl := (hclock t).mp hread
        obtain rfl := Option.some.inj (hd'.symm.trans hd'')
        rw [hset, Option.some.injEq] at hnext
        exact ⟨hretries, hdelay, (Int.add_left_cancel hnext).symm⟩
    | unscheduled hclock _ _ _ _ _ => exact absurd hread (hclock t)
  · intro hdelays
    obtain ⟨hretries, hdelay, rfl⟩ := hdelays
    have hcounted : a.after.attempts id ≠ a.before.attempts id := by
      rw [h.attempts, Store.attempts, hbefore, Option.map_some]
      simp
    cases h with
    | retry now hclock _ _ hd' _ hstatus hset =>
        exact ⟨hcounted, now, _, (hclock now).mpr rfl, hd', hstatus, hset⟩
    | unscheduled _ hnone _ _ _ _ => omega

theorem clock (h : Failed w id a d) {now : Time} (hread : ⟨.now, now⟩ ∈ a.log) :
    d.attempts < w.retryConfig.backoffSeconds.length := by
  cases h with
  | retry _ _ _ hdelay _ _ _ _ => exact hdelay
  | unscheduled hclock _ _ _ _ _ => exact absurd hread (hclock now)

end Failed

end Failure

theorem WebhookDelivery.pending_of_due {d : WebhookDelivery} {now : Time} (h : d.due now = true) :
    d.status = .pending := by
  rw [WebhookDelivery.due, Bool.and_eq_true, decide_eq_true_eq] at h
  exact h.1

namespace FailedAttempts
variable {w : Worker} {id : Uuid} {h h₁ h₂ : List Attempt} {a : Attempt} {s : Store}

/-- Where every failure so far is recorded, the row counts them, and is pending until they
are as many as are configured. -/
theorem stands (run : FailedAttempts w id h s) (hmax : 1 ≤ w.retryConfig.maxRetries)
    (hrecorded : ∀ a ∈ h, a.Recorded)
    (hsmall : w.retryConfig.maxRetries ≤ (maxInt : Int) ∨ h.length ≤ maxInt) :
    ∃ d, s.delivery id = some d ∧ d.attempts = h.length ∧
      d.status = if w.retryConfig.maxRetries ≤ (h.length : Int) then .abandoned else .pending := by
  induction run with
  | start hd henqueued =>
      refine ⟨_, hd, henqueued.2, ?_⟩
      rw [henqueued.1, List.length_nil, if_neg (by omega)]
  | aside _ hsame ih =>
      rw [hsame]
      exact ih hrecorded hsmall
  | @failed h s d now run hd hdue env hfails ih =>
      rw [List.forall_mem_append] at hrecorded
      rw [List.length_append, List.length_singleton] at hsmall ⊢
      obtain ⟨d₀, hd₀, hattempts, hstatus⟩ := ih hrecorded.1 (by omega)
      obtain rfl := Option.some.inj (hd.symm.trans hd₀)
      have hlt : (h.length : Int) < w.retryConfig.maxRetries := by
        by_contra hle
        rw [if_pos (by omega), d.pending_of_due hdue] at hstatus
        cases hstatus
      have hfailed := failed_or_kept hd hfails
      rw [if_pos ⟨hrecorded.2 _ (.head _), by omega⟩] at hfailed
      obtain ⟨d', hd', hstatus⟩ := hfailed.status
      have hcount := hfailed.attempts
      rw [Store.attempts, hd', Option.map_some, Option.some.injEq] at hcount
      refine ⟨d', hd', by omega, ?_⟩
      rw [hstatus, hattempts]
      rfl

/-- Each attempt of a run, on the row those before it have left. -/
theorem split (run : FailedAttempts w id h s) (hh : h = h₁ ++ a :: h₂) :
    ∃ s₁ d now env, FailedAttempts w id h₁ s₁ ∧ s₁.delivery id = some d ∧ d.due now = true ∧
      a = w.attempt env s₁ d ∧ a.Fails id := by
  induction run generalizing h₂ with
  | start _ _ => simp at hh
  | aside _ _ ih => exact ih hh
  | @failed h s d now run hd hdue env hfails ih =>
      cases h₂ using List.reverseRecOn with
      | nil =>
          obtain ⟨rfl, ha⟩ := List.append_inj' hh rfl
          obtain rfl := (List.cons.inj ha).1
          exact ⟨s, d, now, env, run, hd, hdue, rfl, hfails⟩
      | append_singleton h₂ b =>
          rw [← List.cons_append, ← List.append_assoc] at hh
          exact ih (List.append_inj' hh rfl).1

/-- Where those before it are recorded, the row counts them when the attempt is made, and
what is due is pending. -/
theorem attempt (run : FailedAttempts w id h s) (hmax : 1 ≤ w.retryConfig.maxRetries)
    (hh : h = h₁ ++ a :: h₂) (hrecorded : ∀ b ∈ h₁, b.Recorded)
    (hsmall : w.retryConfig.maxRetries ≤ (maxInt : Int) ∨ h₁.length < maxInt) :
    ∃ d, a.before.delivery id = some d ∧ d.status = .pending ∧ d.attempts = h₁.length ∧
      (h₁.length : Int) < w.retryConfig.maxRetries ∧
        if a.Recorded then Failed w id a d else a.after.delivery id = some d := by
  obtain ⟨s₁, d, now, env, run₁, hd, hdue, rfl, hfails⟩ := run.split hh
  obtain ⟨d₀, hd₀, hattempts, hstatus⟩ := run₁.stands hmax hrecorded (by omega)
  obtain rfl := Option.some.inj (hd.symm.trans hd₀)
  have hlt : (h₁.length : Int) < w.retryConfig.maxRetries := by
    by_contra hle
    rw [if_pos (by omega), d.pending_of_due hdue] at hstatus
    cases hstatus
  refine ⟨d, hd, d.pending_of_due hdue, hattempts, hlt, ?_⟩
  have hrow := failed_or_kept hd hfails
  have hcounts : d.attempts < maxInt := by omega
  simpa only [hcounts, and_true] using hrow

/-- A failure that is not recorded is not followed up: no time is set, and nothing is
abandoned. -/
theorem recorded_of_retries (run : FailedAttempts w id h s) (hmax : 1 ≤ w.retryConfig.maxRetries)
    (hretries : Retries w id h) (hh : h = h₁ ++ a :: h₂) (hrecorded : ∀ b ∈ h₁, b.Recorded)
    (hsmall : w.retryConfig.maxRetries ≤ (maxInt : Int) ∨ h₁.length < maxInt) : a.Recorded := by
  obtain ⟨d, hd, hpending, -, hlt, hrow⟩ := run.attempt hmax hh hrecorded hsmall
  by_contra hnot
  rw [if_neg hnot] at hrow
  by_cases hlast : (h₁.length + 1 : Int) < w.retryConfig.maxRetries
  · obtain ⟨delay, -, hcounted, -⟩ := hretries.scheduled h₁ a h₂ hh hlast
    rw [Store.attempts, Store.attempts, hrow, hd] at hcounted
    exact hcounted rfl
  · obtain ⟨d', hd', habandoned⟩ := (hretries.abandoned h₁ a h₂ hh).mpr (by omega)
    obtain rfl := Option.some.inj (hrow.symm.trans hd')
    rw [hpending] at habandoned
    cases habandoned

/-- The failure past the end of the table sets no time for an attempt still to come. -/
theorem near_of_retries (run : FailedAttempts w id h s) (hmax : 1 ≤ w.retryConfig.maxRetries)
    (hsize : w.retryConfig.backoffSeconds.length < maxInt) (hretries : Retries w id h)
    (hh : h = h₁ ++ a :: h₂) (hlength : h₁.length = w.retryConfig.backoffSeconds.length)
    (hrecorded : ∀ b ∈ h₁, b.Recorded) (ha : a.Recorded) :
    w.retryConfig.maxRetries ≤ (w.retryConfig.backoffSeconds.length + 1 : Int) := by
  by_contra hmany
  obtain ⟨d, hd, -, hattempts, -, hfailed⟩ := run.attempt hmax hh hrecorded (by omega)
  rw [if_pos ha] at hfailed
  obtain ⟨delay, -, hdelays⟩ := hretries.scheduled h₁ a h₂ hh (by omega)
  obtain ⟨-, hdelay, -⟩ := (hfailed.delays_iff hd).mp hdelays
  omega

theorem split_at {n : Nat} (hn : n < h.length) : h = h.take n ++ h[n] :: h.drop (n + 1) := by
  rw [← List.drop_eq_getElem_cons hn, List.take_append_drop]

/-- The first failure that is not recorded comes before the table is used up. -/
theorem all_recorded (run : FailedAttempts w id h s) (hmax : 1 ≤ w.retryConfig.maxRetries)
    (hsize : w.retryConfig.backoffSeconds.length < maxInt) (hretries : Retries w id h) :
    ∀ a ∈ h, a.Recorded := by
  intro a ha
  by_contra hnot
  obtain ⟨h₁, b, h₂, hh, hb, hbefore⟩ := exists_first (p := fun a : Attempt => ¬a.Recorded) ha hnot
  have hbefore : ∀ c ∈ h₁, c.Recorded := fun c hc => not_not.mp (hbefore c hc)
  by_cases hlong : w.retryConfig.backoffSeconds.length < h₁.length
  · have hwhole := hh
    rw [split_at hlong, List.append_assoc, List.cons_append] at hwhole
    have hnear := run.near_of_retries hmax hsize hretries hwhole
      (List.length_take_of_le (by omega)) (fun c hc => hbefore c (List.mem_of_mem_take hc))
      (hbefore _ (List.getElem_mem hlong))
    exact hb (run.recorded_of_retries hmax hretries hh hbefore (.inl (by omega)))
  · exact hb (run.recorded_of_retries hmax hretries hh hbefore (.inr (by omega)))

/-- Where the failures are recorded, each of them is counted on the row those before it
have left. -/
theorem recorded_attempt (run : FailedAttempts w id h s) (hmax : 1 ≤ w.retryConfig.maxRetries)
    (hrecorded : ∀ a ∈ h, a.Recorded) (hh : h = h₁ ++ a :: h₂)
    (hsmall : w.retryConfig.maxRetries ≤ (maxInt : Int) ∨ h₁.length < maxInt) :
    ∃ d, a.before.delivery id = some d ∧ d.attempts = h₁.length ∧
      (h₁.length : Int) < w.retryConfig.maxRetries ∧ Failed w id a d := by
  rw [hh, List.forall_mem_append] at hrecorded
  obtain ⟨d, hd, -, hattempts, hlt, hfailed⟩ := run.attempt hmax hh hrecorded.1 hsmall
  rw [if_pos (hrecorded.2 a (.head _))] at hfailed
  exact ⟨d, hd, hattempts, hlt, hfailed⟩

/-- As far as the table goes, recorded failures are followed up. -/
theorem retries_of_recorded (run : FailedAttempts w id h s) (hmax : 1 ≤ w.retryConfig.maxRetries)
    (hsize : w.retryConfig.backoffSeconds.length < maxInt)
    (hpos : ∀ delay ∈ w.retryConfig.backoffSeconds, 0 < delay)
    (hsorted : w.retryConfig.backoffSeconds.Pairwise (· ≤ ·)) (hrecorded : ∀ a ∈ h, a.Recorded)
    (hnear : w.retryConfig.maxRetries ≤ (w.retryConfig.backoffSeconds.length + 1 : Int) ∨
      h.length ≤ w.retryConfig.backoffSeconds.length) : Retries w id h := by
  have hlength : ∀ {h₁ a h₂}, h = h₁ ++ a :: h₂ → h.length = h₁.length + (h₂.length + 1) := by
    intro h₁ a h₂ hh
    rw [hh, List.length_append, List.length_cons]
  have hattempt : ∀ {h₁ a h₂}, h = h₁ ++ a :: h₂ → ∃ d, a.before.delivery id = some d ∧
      d.attempts = h₁.length ∧ (h₁.length : Int) < w.retryConfig.maxRetries ∧
        Failed w id a d := by
    intro h₁ a h₂ hh
    have := hlength hh
    exact run.recorded_attempt hmax hrecorded hh (by omega)
  constructor
  · intro h₁ a h₂ hh hlt
    obtain ⟨d, hd, hattempts, -, hfailed⟩ := hattempt hh
    have := hlength hh
    have hdelay : d.attempts < w.retryConfig.backoffSeconds.length := by omega
    refine ⟨_, ?_, (hfailed.delays_iff hd).mpr ⟨by omega, hdelay, rfl⟩⟩
    have hget := hpos _ (List.get_mem w.retryConfig.backoffSeconds ⟨d.attempts, hdelay⟩)
    omega
  · intro h₁ a h₂ b h₃ hh x y hx hy
    obtain ⟨d, hrow, hd, -, ha⟩ := hattempt hh
    rw [← List.cons_append, ← List.append_assoc] at hh
    obtain ⟨d', hrow', hd', -, hb⟩ := hattempt hh
    obtain ⟨-, hdelay, rfl⟩ := (ha.delays_iff hrow).mp hx
    obtain ⟨-, hdelay', rfl⟩ := (hb.delays_iff hrow').mp hy
    have hlt : d.attempts < d'.attempts := by
      rw [hd, hd', List.length_append, List.length_cons]
      omega
    have hle := List.pairwise_iff_get.mp hsorted ⟨d.attempts, hdelay⟩ ⟨d'.attempts, hdelay'⟩ hlt
    omega
  · intro a ha now hread attempts hattempts
    obtain ⟨h₁, h₂, hh⟩ := List.append_of_mem ha
    obtain ⟨d, hd, -, -, hfailed⟩ := hattempt hh
    rw [Store.attempts, hd, Option.map_some, Option.mem_some_iff] at hattempts
    rw [← hattempts]
    exact hfailed.clock hread
  · intro h₁ a h₂ hh
    obtain ⟨d, -, hattempts, hlt, hfailed⟩ := hattempt hh
    rw [hfailed.abandons_iff, hattempts]
    omega

/-- A table of growing delays serves recorded failures exactly as far as it goes. -/
theorem retries_iff_table (run : FailedAttempts w id h s) (hmax : 1 ≤ w.retryConfig.maxRetries)
    (hsize : w.retryConfig.backoffSeconds.length < maxInt)
    (hpos : ∀ delay ∈ w.retryConfig.backoffSeconds, 0 < delay)
    (hsorted : w.retryConfig.backoffSeconds.Pairwise (· ≤ ·)) :
    Retries w id h ↔ (∀ a ∈ h, a.Recorded) ∧
      (w.retryConfig.maxRetries ≤ (w.retryConfig.backoffSeconds.length + 1 : Int) ∨
        h.length ≤ w.retryConfig.backoffSeconds.length) := by
  constructor
  · intro hretries
    have hrecorded := run.all_recorded hmax hsize hretries
    refine ⟨hrecorded, ?_⟩
    by_contra hfar
    push Not at hfar
    obtain ⟨hmany, hlong⟩ := hfar
    have hnear := run.near_of_retries hmax hsize hretries (split_at hlong)
      (List.length_take_of_le (by omega)) (fun b hb => hrecorded b (List.mem_of_mem_take hb))
      (hrecorded _ (List.getElem_mem hlong))
    omega
  · intro hcond
    exact run.retries_of_recorded hmax hsize hpos hsorted hcond.1 hcond.2

end FailedAttempts

section Sample

/-- The delivery fails at each of these times. -/
def failuresAt (w : Worker) (id : Uuid) : List Time → Store → List Attempt × Store
  | [], s => ([], s)
  | now :: times, s =>
      match s.delivery id with
      | none => ([], s)
      | some d =>
          let a := w.attempt (fun _ => { now := now, outcome := serverError }) s d
          let (h, s') := failuresAt w id times a.after
          (a :: h, s')

/-- The delivery is due at each of these times, and its attempt fails. -/
def allFail (w : Worker) (id : Uuid) : List Time → Store → Bool
  | [], _ => true
  | now :: times, s =>
      match s.delivery id with
      | none => false
      | some d =>
          let a := w.attempt (fun _ => { now := now, outcome := serverError }) s d
          d.due now && a.Fails id && allFail w id times a.after

theorem failuresAt_run {w : Worker} {id : Uuid} {times : List Time} {h : List Attempt} {s : Store}
    (run : FailedAttempts w id h s) (hall : allFail w id times s = true) :
    FailedAttempts w id (h ++ (failuresAt w id times s).1) (failuresAt w id times s).2 := by
  induction times generalizing h s with
  | nil =>
      rw [failuresAt, List.append_nil]
      exact run
  | cons now times ih =>
      rw [allFail] at hall
      rw [failuresAt]
      cases hd : s.delivery id with
      | none =>
          rw [hd] at hall
          cases hall
      | some d =>
          rw [hd] at hall
          simp only [Bool.and_eq_true, decide_eq_true_eq] at hall
          obtain ⟨⟨hdue, hfails⟩, hrest⟩ := hall
          have hnext := ih (run.failed hd hdue _ hfails) hrest
          rw [List.append_assoc] at hnext
          exact hnext

theorem oneDelivery_failures {w : Worker} (times : List Time)
    (hall : allFail w (.repeated 2) times oneDelivery = true) :
    FailedAttempts w (.repeated 2) (failuresAt w (.repeated 2) times oneDelivery).1
      (failuresAt w (.repeated 2) times oneDelivery).2 := by
  obtain ⟨d, hd⟩ := Option.isSome_iff_exists.mp
    (show (oneDelivery.delivery (.repeated 2)).isSome = true by decide)
  have hstart : FailedAttempts w (.repeated 2) [] oneDelivery :=
    .start hd (oneDelivery_enqueued d (Table.mem_of_find hd))
  exact failuresAt_run hstart hall

def retriesSetTo (text key : String) : String :=
  if key = "WEBHOOK_DATABASE_URL" then "postgres://localhost/rcprotocol"
  else if key = "WEBHOOK_MAX_RETRIES" then text
  else ""

def configured (maxRetries : Int) : Config where
  databaseURL := "postgres://localhost/rcprotocol"
  workerCount := 5
  retryConfig := { maxRetries := maxRetries }

def poster (maxRetries : Int) : Worker :=
  newWorker default courier.unmarshal (configured maxRetries)

end Sample

end RcProtocol.Webhooks
