import Mathlib.Algebra.Group.Int.Defs
import RcProtocol.Api.WalletSnapshot
import RcProtocol.Library.Rebuild
import RcProtocol.Ownership
import Mathlib.Data.Fintype.Basic

/-!
The wallets against the owners of the assets. No write of an owner touches a wallet, so a
wallet stays right only where owners change while it is not there.
-/

namespace RcProtocol
open Library

/-- Redis has not answered. -/
def unanswered : Event wallet → Bool
  | ⟨.zcard _, .error _⟩ | ⟨.zrevrange _ _ _, .error _⟩ | ⟨.delSet _, .error _⟩
  | ⟨.delHash _, .error _⟩ | ⟨.zadd _ _ _, .error _⟩ | ⟨.hsetMultiple _ _, .error _⟩
  | ⟨.zrem _ _, .error _⟩ | ⟨.hincrby _ _, .error _⟩ | ⟨.hsetUpdatedAt _, .error _⟩ => true
  | _ => false

/-- What a rebuild of the user's wallet has in its hands after the event. -/
def nextTask (userId : String) (t : Rebuild.Stage String) : Event wallet → Rebuild.Stage String
  | ⟨.selectScores u, .ok rows⟩ => if u = userId then .holding (rows.map (·.1)) else t
  | ⟨.delSet u, .ok _⟩ =>
      if u = userId then
        match t with
        | .holding items => .adding items
        | t => t
      else t
  | ⟨.zadd u _ _, .ok _⟩ =>
      if u = userId then
        match t with
        | .adding items => .adding items.tail
        | t => t
      else t
  | _ => t

def taskOf (userId : String) (log : List (Event wallet)) : Rebuild.Stage String :=
  log.foldl (nextTask userId) .idle

theorem taskOf_append (userId : String) (log : List (Event wallet)) (e : Event wallet) :
    taskOf userId (log ++ [e]) = nextTask userId (taskOf userId log) e := by
  rw [taskOf, List.foldl_append]
  rfl

/-- An operation that neither moves a rebuild nor writes a set. -/
def WalletOp.Aside : WalletOp → Prop
  | .selectScores _ | .delSet _ | .zadd _ _ _ | .zrem _ _ => False
  | _ => True

theorem nextTask_aside {userId : String} {t : Rebuild.Stage String} {e : Event wallet}
    (h : e.op.Aside) :
    nextTask userId t e = t := by
  obtain ⟨op, answer⟩ := e
  cases op <;> first | rfl | cases h

section Moves
variable {userId : String} {a : Unit} {items : List String}

theorem nextTask_read {t : Rebuild.Stage String} {rows : List Scored} :
    nextTask userId t ⟨.selectScores userId, .ok rows⟩ = .holding (rows.map (·.1)) := if_pos rfl

theorem nextTask_clear :
    nextTask userId (.holding items) ⟨.delSet userId, .ok a⟩ = .adding items := if_pos rfl

theorem nextTask_add {assetId : String} {score : Int} :
    nextTask userId (.adding items) ⟨.zadd userId assetId score, .ok a⟩ = .adding items.tail :=
  if_pos rfl

end Moves

/-- What the list of a user's assets may call. -/
inductive WalletCall (userId : String) (log : List (Event wallet)) : WalletOp → Prop
  | aside {op : WalletOp} (h : op.Aside) : WalletCall userId log op
  | read (hidle : taskOf userId log = .idle) (assets : List String)
      (h : ⟨.respond assets, ()⟩ ∈ log) : WalletCall userId log (.selectScores userId)
  | clear {items : List String} (h : taskOf userId log = .holding items) :
      WalletCall userId log (.delSet userId)
  | add {assetId : String} {score : Int} {items : List String}
      (h : taskOf userId log = .adding (assetId :: items)) :
      WalletCall userId log (.zadd userId assetId score)

/-- Where Redis answers, what the task read is in the set. -/
def Closed (userId : String) (log : List (Event wallet)) : Prop :=
  (∃ e ∈ log, unanswered e = true) ∨ ¬(taskOf userId log).Open

section Spec
variable {userId : String} {log : List (Event wallet)} {snapshot : WalletSnapshot}

theorem closed_unanswered {e : Event wallet}
    (h : unanswered e = true) : Closed userId (log ++ [e]) :=
  .inl ⟨e, List.mem_append_right _ (List.mem_singleton_self e), h⟩

theorem closed_of_idle (h : taskOf userId log = .idle) : Closed userId log := by
  right
  rw [h]
  exact id

theorem closed_of_added (h : taskOf userId log = .adding []) : Closed userId log := by
  right
  rw [h]
  exact fun hopen => hopen rfl

theorem zaddAll_meets {pairs : List Scored} (h : taskOf userId log = .adding (pairs.map (·.1))) :
    Meets (WalletCall userId)
      (fun log r => Closed userId log ∧ (r = .ok () → taskOf userId log = .adding [])) log
      (WalletSnapshot.zaddAll userId pairs) := by
  induction pairs generalizing log with
  | nil => exact ⟨closed_of_added h, fun _ => h⟩
  | cons pair rest ih =>
      obtain ⟨assetId, score⟩ := pair
      refine ⟨.add h, fun answer => ?_⟩
      cases answer with
      | error e => exact ⟨closed_unanswered rfl, nofun⟩
      | ok a =>
          refine ih ?_
          rw [taskOf_append, h, nextTask_add]
          rfl

theorem rebuildForUser_meets {pairs : List Scored}
    (h : taskOf userId log = .holding (pairs.map (·.1))) :
    Meets (WalletCall userId) (fun log _ => Closed userId log) log
      ((WalletSnapshot.mk true).rebuildForUser userId pairs) := by
  refine ⟨.clear h, fun answer => ?_⟩
  cases answer with
  | error e => exact closed_unanswered rfl
  | ok a =>
  have hcleared : taskOf userId (log ++ [⟨.delSet userId, .ok a⟩]) = .adding (pairs.map (·.1)) := by
    rw [taskOf_append, h, nextTask_clear]
  refine ⟨.aside trivial, fun answer => ?_⟩
  cases answer with
  | error e => exact closed_unanswered rfl
  | ok a =>
  refine (meets_attempt (WalletSnapshot.zaddAll userId pairs) _ _ _).mpr
    ((zaddAll_meets ?_).mono (fun _ _ hcall => hcall) ?_)
  · rw [taskOf_append, hcleared]
    rfl
  · intro log r hr
    cases r with
    | error e => exact hr.1
    | ok a =>
        have hadded := hr.2 rfl
        refine ⟨.aside trivial, fun answer => ?_⟩
        cases answer with
        | error e => exact closed_unanswered rfl
        | ok a =>
            refine closed_of_added ?_
            rw [taskOf_append, hadded]
            rfl

theorem rebuildFromPg_meets (hidle : taskOf userId log = .idle) (assets : List String)
    (h : ⟨.respond assets, ()⟩ ∈ log) :
    Meets (WalletCall userId) (fun log _ => Closed userId log) log
      ((WalletSnapshot.mk true).rebuildFromPg userId) := by
  refine ⟨.read hidle assets h, fun answer => ?_⟩
  cases answer with
  | error e =>
      refine closed_of_idle ?_
      rw [taskOf_append, hidle]
      rfl
  | ok rows =>
      refine rebuildForUser_meets ?_
      rw [taskOf_append, nextTask_read]

/-- An aside leaves a rebuild that has not begun where it is. -/
theorem idle_append (h : taskOf userId log = .idle) {e : Event wallet} (he : e.op.Aside) :
    taskOf userId (log ++ [e]) = .idle := by
  rw [taskOf_append, nextTask_aside he, h]

theorem respond_meets (h : taskOf userId log = .idle) (assets : List String) :
    Meets (WalletCall userId) (fun log _ => Closed userId log) log (askWallet (.respond assets)) :=
  ⟨.aside trivial, fun _ => closed_of_idle (idle_append h trivial)⟩

theorem fetchAssetsFromPg_meets (h : taskOf userId log = .idle) (page pageSize : Int) :
    Meets (WalletCall userId) (fun log _ => Closed userId log) log
      ((WalletSnapshot.mk true).fetchAssetsFromPg userId page pageSize) := by
  refine ⟨.aside trivial, fun answer => ?_⟩
  have hidle := idle_append h (e := ⟨.selectAssetIds userId pageSize (mulI64 page pageSize), answer⟩)
    trivial
  cases answer with
  | error e => exact respond_meets hidle []
  | ok rows =>
      refine ⟨.aside trivial, fun answer => ?_⟩
      have hresponded := idle_append hidle (e := ⟨.respond rows, answer⟩) trivial
      change Meets _ _ _ (if rows ≠ [] ∧ (WalletSnapshot.mk true).connected = true then _ else _)
      split
      · refine (meets_map _ _ _).mpr ?_
        exact rebuildFromPg_meets hresponded rows
          (List.mem_append_right _ (List.mem_singleton_self _))
      · exact closed_of_idle hresponded

/-- A list of assets clears the set only after it has read the rows, and adds what it has
read; its rebuild begins once the caller has its answer. -/
theorem getAssets_meets (userId : String) (page pageSize : Int) :
    Meets (WalletCall userId) (fun log _ => Closed userId log) []
      ((WalletSnapshot.mk true).getAssets userId page pageSize) := by
  refine ⟨.aside trivial, fun card => ?_⟩
  have hcounted : taskOf userId ([] ++ [⟨.zcard userId, card⟩]) = .idle :=
    idle_append rfl trivial
  change Meets _ _ _ (if 0 < card.toOption.getD 0 then _ else _)
  split
  · refine ⟨.aside trivial, fun answer => ?_⟩
    have hidle := idle_append hcounted (e := ⟨.zrevrange userId (mulI64 page pageSize)
      (addI64 (addI64 (mulI64 page pageSize) pageSize) (-1)), answer⟩) trivial
    cases answer with
    | ok result => exact respond_meets hidle result
    | error e => exact fetchAssetsFromPg_meets hidle page pageSize
  · exact fetchAssetsFromPg_meets hcounted page pageSize

end Spec

/-- A rebuild begins with its read. -/
theorem taskOf_idle {userId : String} {log : List (Event wallet)}
    (h : ∀ e ∈ log, e.op ≠ .selectScores userId) : taskOf userId log = .idle := by
  induction log using List.reverseRecOn with
  | nil => rfl
  | append_singleton log e ih =>
      rw [List.forall_mem_append] at h
      rw [taskOf_append, ih h.1]
      have he := h.2 e (List.mem_singleton_self e)
      obtain ⟨op, answer⟩ := e
      cases op <;> first | rfl | (cases answer <;> first | rfl | skip)
      · exact if_neg fun hu => he (by rw [hu])
      · exact ite_self _
      · exact ite_self _

namespace WalletRequest

def Calls : WalletRequest → List (Event walleted) → walleted.Op → Prop
  | write _, _, op => ∃ op', op = .inl op'
  | read userId _ _, log, op =>
      ∃ op', op = .inr op' ∧ WalletCall userId (log.filterMap rightEvent) op'

def Answers : WalletRequest → List (Event walleted) → Option Reply → Prop
  | write _, _, _ => True
  | read userId _ _, log, _ => Closed userId (log.filterMap rightEvent)

theorem handle_meets (app : AppState) (r : WalletRequest) :
    Meets r.Calls r.Answers [] (r.handle app) := by
  cases r with
  | write r =>
      refine (meets_map _ _ _).mpr ((meets_trivial (r.handle app) []).left.mono ?_ ?_)
      · intro log op ⟨op', hop, _⟩
        exact ⟨op', hop⟩
      · exact fun _ _ _ => trivial
  | read userId page pageSize =>
      refine (meets_map _ _ _).mpr ?_
      have hread : Meets (WalletCall userId) (fun log _ => Closed userId log)
          (([] : List (Event walleted)).filterMap rightEvent)
          ((WalletSnapshot.mk true).getAssets userId page pageSize) :=
        getAssets_meets userId page pageSize
      exact hread.right

end WalletRequest

section Histories
variable {ι : Type} [DecidableEq ι] (userId : String)
  (h : List (Move walleted (Store × Wallets) ι))

/-- What a thread's rebuild of the user's wallet has in its hands. -/
def taskIn (i : ι) : Rebuild.Stage String := taskOf userId ((eventsOf i h).filterMap rightEvent)

/-- The user's wallet as a cache of the assets the user owns. -/
def walletState (s : Store × Wallets) : Rebuild.State ι String where
  source := {a | a ∈ s.1.db.ownedAssets userId}
  cache := {a | a ∈ s.2.members userId}
  tasks := taskIn userId h

/-- There is no wallet, and no rebuild that has begun and not written all of it. -/
def Unwatched (s : Store × Wallets) : Prop :=
  s.2.sets userId = [] ∧ ∀ i, ¬(taskIn userId h i).Open

instance [Fintype ι] (s : Store × Wallets) : Decidable (Unwatched userId h s) :=
  inferInstanceAs (Decidable (_ ∧ _))

/-- Whose an asset was and whose it is, where the move writes it. -/
def ownerChange (v : Move walleted (Store × Wallets) ι) : Option (Option String × Option String) := do
  let e ← leftEvent v.event
  let (assetId, write) ← custodyWrite e
  let c ← v.before.1.db.custody assetId
  some (c.ownerId, (write c).ownerId)

/-- An asset changes hands only between users without a wallet. -/
def ChangesUnwatched (v : Move walleted (Store × Wallets) ι) : Prop :=
  ∀ change ∈ ownerChange v, change.1 ≠ change.2 →
    (∀ userId ∈ change.1, Unwatched userId h v.before) ∧
      ∀ userId ∈ change.2, Unwatched userId h v.before

instance [Fintype ι] (v : Move walleted (Store × Wallets) ι) : Decidable (ChangesUnwatched h v) :=
  inferInstanceAs (Decidable (∀ _ ∈ _, _))

variable {userId h} {v : Move walleted (Store × Wallets) ι}

theorem taskIn_left (hv : rightEvent v.event = none) : taskIn userId (h ++ [v]) = taskIn userId h := by
  funext i
  unfold taskIn
  rw [eventsOf_append, List.filterMap_append]
  by_cases hi : v.thread = i
  · subst hi
    simp [eventsOf, hv]
  · rw [eventsOf_other hi, List.filterMap_nil, List.append_nil]

theorem taskIn_right {e : Event wallet} (hv : rightEvent v.event = some e) :
    taskIn userId (h ++ [v]) =
      Function.update (taskIn userId h) v.thread (nextTask userId (taskIn userId h v.thread) e) := by
  funext i
  by_cases hi : i = v.thread
  · subst hi
    rw [Function.update_self]
    unfold taskIn
    rw [eventsOf_append, List.filterMap_append, ← taskOf_append]
    simp [eventsOf, hv]
  · rw [Function.update_of_ne hi]
    unfold taskIn
    rw [eventsOf_append, eventsOf_other (Ne.symm hi), List.append_nil]

theorem mem_ownedAssets {db : Db} {a : String} :
    a ∈ db.ownedAssets userId ↔ (db.custody a).bind (·.ownerId) = some userId := by
  simp only [Db.ownedAssets, List.mem_map, List.mem_reverse, List.mem_filter, decide_eq_true_eq]
  constructor
  · intro ⟨r, ⟨hr, howner⟩, hid⟩
    subst hid
    rw [Db.custody, Db.asset_of_mem hr]
    exact howner
  · intro h
    obtain ⟨c, hc, howner⟩ := Option.bind_eq_some_iff.mp h
    obtain ⟨r, hr, rfl⟩ := Option.map_eq_some_iff.mp hc
    exact ⟨r, ⟨Db.asset_mem hr, howner⟩, Db.asset_assetId hr⟩

omit [DecidableEq ι] in
/-- The user owns afterwards what the user owned before, or an asset changes hands. -/
theorem owned_or_change (env : machine.Env) (op : Op) (s : Store) (userId : String) :
    (∀ a, a ∈ (machine.exec env op s).2.db.ownedAssets userId ↔ a ∈ s.db.ownedAssets userId) ∨
      ∃ id f c, custodyWrite ⟨op, (machine.exec env op s).1⟩ = some (id, f) ∧
        s.db.custody id = some c ∧ c.ownerId ≠ (f c).ownerId ∧
          (userId ∈ c.ownerId ∨ userId ∈ (f c).ownerId) := by
  by_contra hnot
  rw [not_or] at hnot
  obtain ⟨hdiffers, hnone⟩ := hnot
  apply hdiffers
  intro a
  rw [mem_ownedAssets, mem_ownedAssets]
  have hstep : (machine.exec env op s).2.db.custody a =
      written (custodyWrite ⟨op, (machine.exec env op s).1⟩) a (s.db.custody a) :=
    custodyView.step env op s a
  rw [hstep]
  cases hwrite : custodyWrite ⟨op, (machine.exec env op s).1⟩ with
  | none => rfl
  | some write =>
      obtain ⟨id, f⟩ := write
      dsimp only [written]
      by_cases hid : id = a
      · rw [if_pos hid]
        cases hc : s.db.custody a with
        | none => rfl
        | some c =>
            subst hid
            by_cases heq : c.ownerId = (f c).ownerId
            · simp only [Option.map_some, Option.bind_some, heq]
            · have hneither : ¬(userId ∈ c.ownerId ∨ userId ∈ (f c).ownerId) := fun howns =>
                hnone ⟨id, f, c, hwrite, hc, heq, howns⟩
              rw [not_or] at hneither
              exact iff_of_false hneither.2 hneither.1
      · rw [if_neg hid]

end Histories

section Simulation
variable {ι : Type} [DecidableEq ι] {createdAt : String → Int} {userId : String}
  {h : List (Move walleted (Store × Wallets) ι)} {v : Move walleted (Store × Wallets) ι}

/-- A step of the user's wallet, or none. -/
def Simulated (userId : String) (h : List (Move walleted (Store × Wallets) ι))
    (v : Move walleted (Store × Wallets) ι) : Prop :=
  walletState userId (h ++ [v]) v.after = walletState userId h v.before ∨
    Rebuild.Step (walletState userId h v.before) (walletState userId (h ++ [v]) v.after)

/-- An operation of a request moves no rebuild and writes no wallet. -/
theorem simulated_left {i : ι} {op : Op} {env : machine.Env} {s : Store} {w : Wallets}
    (hv : v = ⟨i, ⟨.inl op, (machine.exec env op s).1⟩, (s, w), ((machine.exec env op s).2, w)⟩)
    (hsafe : ChangesUnwatched h v) : Simulated userId h v := by
  have htasks : taskIn userId (h ++ [v]) = taskIn userId h := taskIn_left (by rw [hv]; rfl)
  obtain hsame | ⟨id, f, c, hwrite, hc, hne, howns⟩ := owned_or_change env op s userId
  · left
    refine Rebuild.State.ext ?_ (by rw [hv]; rfl) htasks
    rw [hv]
    exact Set.ext hsame
  · right
    have hchange : ownerChange v = some (c.ownerId, (f c).ownerId) := by
      simp only [ownerChange, hv, leftEvent, Option.bind_eq_bind, Option.bind_some, hwrite, hc]
    obtain ⟨hold, hnew⟩ := hsafe _ hchange hne
    have hunwatched : Unwatched userId h v.before := howns.elim (hold userId) (hnew userId)
    have hstep : walletState userId (h ++ [v]) v.after =
        { walletState userId h v.before with
          source := {a | a ∈ v.after.1.db.ownedAssets userId} } := by
      refine Rebuild.State.ext rfl ?_ htasks
      rw [hv]
      rfl
    rw [hstep]
    refine .change _ ?_ hunwatched.2
    ext a
    simp [walletState, Wallets.members, hunwatched.1]

theorem walletExec_aside {op : WalletOp} (hop : op.Aside) (env : WalletEnv) (s : Store)
    (w : Wallets) : (walletExec createdAt env op s w).2.sets = w.sets := by
  cases op with
  | delHash userId | hsetMultiple userId count | hincrby userId delta | hsetUpdatedAt userId =>
      unfold walletExec walletWrite
      cases env.fails <;> rfl
  | selectScores userId | delSet userId | zadd userId id score | zrem userId id => cases hop
  | _ => rfl

section Right
variable {i : ι} {op : WalletOp} {answer : op.Answer} {s : Store} {w w' : Wallets}

/-- What an operation on the wallets does to the state of the user's wallet. -/
theorem walletState_right (hv : v = ⟨i, ⟨.inr op, answer⟩, (s, w), (s, w')⟩) :
    walletState userId (h ++ [v]) v.after =
      { walletState userId h v.before with
        cache := {a | a ∈ w'.members userId}
        tasks := Function.update (taskIn userId h) i
          (nextTask userId (taskIn userId h i) ⟨op, answer⟩) } := by
  have htasks : taskIn userId (h ++ [v]) = Function.update (taskIn userId h) i
      (nextTask userId (taskIn userId h i) ⟨op, answer⟩) := by
    rw [taskIn_right (e := ⟨op, answer⟩) (by rw [hv]; rfl), hv]
  refine Rebuild.State.ext ?_ ?_ htasks
  · rw [hv]
    rfl
  · rw [hv]
    rfl

theorem simulated_same (hv : v = ⟨i, ⟨.inr op, answer⟩, (s, w), (s, w')⟩)
    (htask : nextTask userId (taskIn userId h i) ⟨op, answer⟩ = taskIn userId h i)
    (hsets : w'.members userId = w.members userId) : Simulated userId h v := by
  left
  rw [walletState_right hv, htask, Function.update_eq_self, hsets]
  refine Rebuild.State.ext rfl ?_ rfl
  rw [hv]
  rfl

/-- The read that begins a rebuild of the reader's set. -/
theorem simulated_read {env : WalletEnv} {reader : String}
    {answer : WalletOp.Answer (.selectScores reader)}
    (hv : v = ⟨i, ⟨.inr (.selectScores reader), answer⟩, (s, w), (s, w')⟩)
    (hexec : walletExec createdAt env (.selectScores reader) s w = (answer, w'))
    (hidle : taskIn reader h i = .idle) : Simulated userId h v := by
  unfold walletExec walletAnswer at hexec
  cases hfails : env.fails with
  | some e =>
      rw [hfails] at hexec
      cases hexec
      exact simulated_same hv rfl rfl
  | none =>
      rw [hfails] at hexec
      cases hexec
      by_cases hreader : reader = userId
      · right
        subst hreader
        rw [walletState_right hv, nextTask_read]
        have hclosed : ¬(taskIn reader h i).Open := by
          rw [hidle]
          exact id
        have hitems : ∀ a, a ∈ ((s.db.ownedAssets reader).map fun id => (id, createdAt id)).map
            (·.1) ↔ a ∈ (walletState reader h (s, w)).source := by
          intro a
          rw [List.map_map]
          simp [walletState]
        rw [hv]
        exact .read hclosed hitems
      · exact simulated_same hv (if_neg hreader) rfl

/-- A write fails and leaves the wallets, or is made. -/
theorem walletWrite_cases {env : WalletEnv} {w₁ : Wallets} {answer : Except String Unit}
    (h : walletWrite env w w₁ = (answer, w')) :
    (∃ e, answer = .error e) ∧ w' = w ∨ answer = .ok () ∧ w' = w₁ := by
  unfold walletWrite at h
  split at h
  · next e _ =>
    obtain ⟨hanswer, hsame⟩ := Prod.mk.inj h
    exact .inl ⟨⟨e, hanswer.symm⟩, hsame.symm⟩
  · obtain ⟨hanswer, hdone⟩ := Prod.mk.inj h
    exact .inr ⟨hanswer.symm, hdone.symm⟩

/-- The reader's set is emptied for what has been read. -/
theorem simulated_clear {env : WalletEnv} {reader : String} {items : List String}
    {answer : WalletOp.Answer (.delSet reader)}
    (hv : v = ⟨i, ⟨.inr (.delSet reader), answer⟩, (s, w), (s, w')⟩)
    (hexec : walletExec createdAt env (.delSet reader) s w = (answer, w'))
    (htask : taskIn reader h i = .holding items) : Simulated userId h v := by
  obtain ⟨⟨e, rfl⟩, hsame⟩ | ⟨rfl, hdone⟩ := walletWrite_cases hexec
  · exact simulated_same hv rfl (by rw [hsame])
  by_cases hreader : reader = userId
  · right
    subst hreader
    have hempty : {a | a ∈ w'.members reader} = (∅ : Set String) := by
      ext a
      simp [hdone, Wallets.members_setSet_self]
    rw [walletState_right hv, htask, nextTask_clear, hempty]
    exact .clear htask
  · refine simulated_same hv (if_neg hreader) ?_
    rw [hdone]
    exact Wallets.members_setSet_of_ne w (Ne.symm hreader) []

/-- And one of the assets read is added to it. -/
theorem simulated_add {env : WalletEnv} {reader assetId : String} {score : Int}
    {items : List String} {answer : WalletOp.Answer (.zadd reader assetId score)}
    (hv : v = ⟨i, ⟨.inr (.zadd reader assetId score), answer⟩, (s, w), (s, w')⟩)
    (hexec : walletExec createdAt env (.zadd reader assetId score) s w = (answer, w'))
    (htask : taskIn reader h i = .adding (assetId :: items)) : Simulated userId h v := by
  obtain ⟨⟨e, rfl⟩, hsame⟩ | ⟨rfl, hdone⟩ := walletWrite_cases hexec
  · exact simulated_same hv rfl (by rw [hsame])
  by_cases hreader : reader = userId
  · right
    subst hreader
    have hinsert : {a | a ∈ w'.members reader} =
        insert assetId (walletState reader h v.before).cache := by
      ext a
      rw [hv, hdone, Set.mem_ofPred_eq, Wallets.members_setSet_self, mem_zadd]
      rfl
    rw [walletState_right hv, htask, nextTask_add, hinsert]
    exact .add htask
  · refine simulated_same hv (if_neg hreader) ?_
    rw [hdone]
    exact Wallets.members_setSet_of_ne w (Ne.symm hreader) _

/-- An operation on the wallets is a step of at most the one it is called for. -/
theorem simulated_right {env : WalletEnv} {reader : String}
    (hv : v = ⟨i, ⟨.inr op, answer⟩, (s, w), (s, w')⟩)
    (hexec : walletExec createdAt env op s w = (answer, w'))
    (hcall : WalletCall reader ((eventsOf i h).filterMap rightEvent) op) :
    Simulated userId h v := by
  cases hcall with
  | aside hop =>
      refine simulated_same hv (nextTask_aside hop) ?_
      have hsets : w'.sets = w.sets := by
        have haside := @walletExec_aside createdAt op hop env s w
        rwa [hexec] at haside
      simp only [Wallets.members, hsets]
  | read hidle assets hresponded => exact simulated_read hv hexec hidle
  | clear hholding => exact simulated_clear hv hexec hholding
  | add hadding => exact simulated_add hv hexec hadding

end Right

end Simulation

section Runs
variable {ι : Type} [DecidableEq ι] {createdAt : String → Int} {userId : String} {app : AppState}
  {requests : ι → WalletRequest} {start : Store × Wallets}
  {h : List (Move walleted (Store × Wallets) ι)}
  {c : Pool walleted (Store × Wallets) ι (Option Reply)}

/-- Every move of a run is a step of the user's wallet, or none. -/
theorem simulated (run : Interleaves (walletMachine createdAt) (WalletRequest.pool app requests start) h c)
    {h₁ h₂ : List (Move walleted (Store × Wallets) ι)} {v : Move walleted (Store × Wallets) ι}
    (hh : h = h₁ ++ v :: h₂) (hsafe : ChangesUnwatched h₁ v) : Simulated userId h₁ v := by
  have hcall := run.calls (fun i => (requests i).handle_meets app) hh
  obtain ⟨env, hexec⟩ := run.move (v := v) (by rw [hh]; simp)
  obtain ⟨i, ⟨op, answer⟩, ⟨s, w⟩, after⟩ := v
  cases op with
  | inl op =>
      have hanswered : ((machine.exec env.1 op s).1, (machine.exec env.1 op s).2, w) =
          (answer, after) := hexec
      cases hanswered
      exact simulated_left rfl hsafe
  | inr op =>
      have hanswered : ((walletExec createdAt env.2 op s w).1, s,
          (walletExec createdAt env.2 op s w).2) = (answer, after) := hexec
      cases hanswered
      have hcall : (requests i).Calls (eventsOf i h₁) (.inr op) := hcall
      cases hrequest : requests i with
      | write r =>
          rw [hrequest] at hcall
          obtain ⟨op', hop⟩ := hcall
          cases hop
      | read reader page pageSize =>
          rw [hrequest] at hcall
          obtain ⟨op', hop, hcall⟩ := hcall
          cases hop
          exact simulated_right rfl rfl hcall

/-- The wallet is not there, or shows the assets of the user. -/
def Reflects (s : Store × Wallets) (userId : String) : Prop :=
  s.2.sets userId = [] ∨ ∀ a, a ∈ s.2.members userId ↔ a ∈ s.1.db.ownedAssets userId

theorem reflects_iff {s : Store × Wallets} : Reflects s userId ↔
    (walletState userId h s).cache = ∅ ∨
      (walletState userId h s).cache = (walletState userId h s).source := by
  have hempty : s.2.sets userId = [] ↔ (walletState userId h s).cache = ∅ := by
    rw [Set.eq_empty_iff_forall_notMem, ← List.map_eq_nil_iff (f := (·.1)),
      List.eq_nil_iff_forall_not_mem]
    rfl
  have hsame : (∀ a, a ∈ s.2.members userId ↔ a ∈ s.1.db.ownedAssets userId) ↔
      (walletState userId h s).cache = (walletState userId h s).source := by
    rw [Set.ext_iff]
    rfl
  rw [Reflects, hempty, hsame]

theorem wallet_inv (run : Interleaves (walletMachine createdAt)
      (WalletRequest.pool app requests start) h c)
    (hstart : Reflects start userId) (hsafe : Follows ChangesUnwatched [] h) :
    Rebuild.Inv (walletState userId h c.state) := by
  rw [follows_iff] at hsafe
  induction run with
  | start => exact Rebuild.inv_of_reflects (reflects_iff.mp hstart) fun i => rfl
  | @step h c run i op next hi env ih =>
      have hbefore := ih fun h₁ v h₂ hh =>
        hsafe h₁ v _ (by rw [hh, List.append_assoc, List.cons_append])
      obtain hsame | hstep := simulated (run.step i hi env) rfl (hsafe h _ [] rfl)
      · rw [hsame]
        exact hbefore
      · exact hstep.inv hbefore

theorem right_event {e : Event walleted} {e' : Event wallet} (h : rightEvent e = some e') :
    e = ⟨.inr e'.op, e'.answer⟩ := by
  obtain ⟨op, answer⟩ := e
  cases op with
  | inl op => cases h
  | inr op =>
      cases h
      rfl

/-- Redis has answered every call. -/
def Available (h : List (Move walleted (Store × Wallets) ι)) : Prop :=
  ∀ v ∈ h, ∀ e ∈ rightEvent v.event, unanswered e = false

instance (h : List (Move walleted (Store × Wallets) ι)) : Decidable (Available h) :=
  inferInstanceAs (Decidable (∀ v ∈ h, _))

/-- Each task that was spawned has finished. -/
def Finished (h : List (Move walleted (Store × Wallets) ι))
    (c : Pool walleted (Store × Wallets) ι (Option Reply)) : Prop :=
  ∀ i assets, ⟨.inr (.respond assets), ()⟩ ∈ eventsOf i h → ∃ r, c.threads i = .done r

theorem closed_of_finished (run : Interleaves (walletMachine createdAt)
      (WalletRequest.pool app requests start) h c) (havailable : Available h)
    (hfinished : Finished h c) (userId : String) (i : ι) : ¬(taskIn userId h i).Open := by
  by_cases hread : ∀ e ∈ (eventsOf i h).filterMap rightEvent, e.op ≠ .selectScores userId
  · rw [taskIn, taskOf_idle hread]
    exact id
  push Not at hread
  obtain ⟨e, he, hop⟩ := hread
  obtain ⟨e', he', hright⟩ := List.mem_filterMap.mp he
  obtain ⟨v, hv, rfl, rfl⟩ := mem_eventsOf.mp he'
  obtain ⟨h₁, h₂, hh⟩ := List.append_of_mem hv
  have hevent : v.event.op = .inr (.selectScores userId) :=
    (congrArg Event.op (right_event hright)).trans (congrArg Sum.inr hop)
  have hcall := run.calls (fun i => (requests i).handle_meets app) hh
  rw [hevent] at hcall
  obtain ⟨reader, page, pageSize, hrequest⟩ : ∃ reader page pageSize,
      requests v.thread = .read reader page pageSize := by
    cases hrequest : requests v.thread with
    | read reader page pageSize => exact ⟨reader, page, pageSize, rfl⟩
    | write r =>
        rw [hrequest] at hcall
        obtain ⟨op', hop'⟩ := hcall
        cases hop'
  rw [hrequest] at hcall
  obtain ⟨op', hop', hcall⟩ := hcall
  cases hop'
  cases hcall with
  | aside haside => cases haside
  | read hidle assets hresponded =>
      obtain ⟨e', he', hright'⟩ := List.mem_filterMap.mp hresponded
      have hmem : e' ∈ eventsOf v.thread h := by
        rw [hh, eventsOf_append]
        exact List.mem_append_left _ he'
      obtain ⟨r, hdone⟩ := hfinished v.thread assets (right_event hright' ▸ hmem)
      have hanswers := run.answers (fun i => (requests i).handle_meets app) hdone
      rw [hrequest] at hanswers
      obtain ⟨e'', he'', hunanswered⟩ | hclosed := hanswers
      · obtain ⟨e₁, he₁, hright₁⟩ := List.mem_filterMap.mp he''
        obtain ⟨w, hw, -, rfl⟩ := mem_eventsOf.mp he₁
        rw [havailable w hw e'' hright₁] at hunanswered
        cases hunanswered
      · exact hclosed

end Runs

section Reads
variable (createdAt : String → Int)

def responded : Event walleted → Option (List String)
  | ⟨.inr (.respond assets), _⟩ => some assets
  | _ => none

/-- What a list of assets answers when nothing else runs and both stores answer. -/
def answerOf (s : Store × Wallets) (p : Program wallet Unit) : Option (List String) :=
  ((walletMachine createdAt).run p.right (fun _ => (({} : Env), ({} : WalletEnv)))
    s).log.findSome? responded

def shownAssets (s : Store × Wallets) (userId : String) (page pageSize : Int) :
    Option (List String) :=
  answerOf createdAt s ((WalletSnapshot.mk true).getAssets userId page pageSize)

/-- The pages are those of one list of the user's assets. The number of the last item of a
page is an i64. -/
def ShowsOwned (s : Store × Wallets) (userId : String) : Prop :=
  ∃ assets, (∀ a, a ∈ assets ↔ a ∈ s.1.db.ownedAssets userId) ∧
    ∀ page pageSize : Int, 0 ≤ page → 0 < pageSize → page * pageSize + pageSize < 2 ^ 63 →
      shownAssets createdAt s userId page pageSize =
        some (slice pageSize.toNat (page * pageSize).toNat assets)

variable {createdAt} {s : Store × Wallets} {userId : String} {page pageSize : Int}

theorem mulI64_eq (hpage : 0 ≤ page) (hsize : 0 < pageSize)
    (hbound : page * pageSize + pageSize < 2 ^ 63) : mulI64 page pageSize = page * pageSize := by
  have hnonneg : 0 ≤ page * pageSize := Int.mul_nonneg hpage hsize.le
  exact Int.bmod_eq_of_le_mul_two (by omega) (by omega)

theorem zrevrange_page {start : Int} (hstart : 0 ≤ start) (hsize : 0 < pageSize)
    (set : List Scored) : zrevrange start (start + pageSize - 1) set =
      slice pageSize.toNat start.toNat (set.map (·.1)) := by
  have hlast : ¬start + pageSize - 1 < 0 := by omega
  have hcount : start + pageSize - 1 - start + 1 = pageSize := by omega
  simp only [zrevrange, if_neg hlast, if_neg (Int.not_lt.mpr hstart), hcount, slice, List.map_take,
    List.map_drop]

theorem stop_eq (hpage : 0 ≤ page) (hsize : 0 < pageSize)
    (hbound : page * pageSize + pageSize < 2 ^ 63) :
    addI64 (addI64 (page * pageSize) pageSize) (-1) = page * pageSize + pageSize - 1 := by
  have hnonneg : 0 ≤ page * pageSize := Int.mul_nonneg hpage hsize.le
  have hsum : addI64 (page * pageSize) pageSize = page * pageSize + pageSize :=
    Int.bmod_eq_of_le_mul_two (by omega) (by omega)
  rw [hsum]
  exact Int.bmod_eq_of_le_mul_two (by omega) (by omega)

/-- An operation that only reads is followed by what its answer leads to. -/
theorem answerOf_read {op : WalletOp} {answer : op.Answer} {next : op.Answer → Program wallet Unit}
    (hop : responded ⟨.inr op, answer⟩ = none)
    (hexec : walletExec createdAt {} op s.1 s.2 = (answer, s.2)) :
    answerOf createdAt s (.call op next) = answerOf createdAt s (next answer) := by
  have hstep : (walletMachine createdAt).exec (({} : Env), ({} : WalletEnv)) (.inr op) s =
      (answer, s) := by
    change ((walletExec createdAt {} op s.1 s.2).1, s.1, (walletExec createdAt {} op s.1 s.2).2) = _
    rw [hexec]
  unfold answerOf
  simp only [Program.right, Machine.run, List.findSome?_cons, hstep, hop]

/-- Without a wallet the page is read from the database. -/
theorem shownAssets_absent (hset : s.2.sets userId = []) (hpage : 0 ≤ page) (hsize : 0 < pageSize)
    (hbound : page * pageSize + pageSize < 2 ^ 63) :
    shownAssets createdAt s userId page pageSize =
      some (slice pageSize.toNat (page * pageSize).toNat (s.1.db.ownedAssets userId)) := by
  have hnonneg : ¬(pageSize < 0 ∨ page * pageSize < 0) := by
    have := Int.mul_nonneg hpage hsize.le
    omega
  have hcard : walletExec createdAt {} (.zcard userId) s.1 s.2 = (.ok 0, s.2) := by
    simp only [walletExec, walletAnswer, hset, List.length_nil]
  have hrows : walletExec createdAt {} (.selectAssetIds userId pageSize (page * pageSize)) s.1 s.2 =
      (.ok (slice pageSize.toNat (page * pageSize).toNat (s.1.db.ownedAssets userId)), s.2) := by
    simp only [walletExec, walletAnswer, if_neg hnonneg]
  unfold shownAssets WalletSnapshot.getAssets WalletSnapshot.fetchAssetsFromPg
  rw [mulI64_eq hpage hsize hbound]
  exact (answerOf_read rfl hcard).trans (answerOf_read rfl hrows)

/-- With a wallet it is a page of the set. -/
theorem shownAssets_present (hset : s.2.sets userId ≠ []) (hpage : 0 ≤ page) (hsize : 0 < pageSize)
    (hbound : page * pageSize + pageSize < 2 ^ 63) :
    shownAssets createdAt s userId page pageSize =
      some (slice pageSize.toNat (page * pageSize).toNat (s.2.members userId)) := by
  have hcard : walletExec createdAt {} (.zcard userId) s.1 s.2 =
      (.ok (s.2.sets userId).length, s.2) := rfl
  have hpositive : 0 < (Except.ok (s.2.sets userId).length : Except String Nat).toOption.getD 0 :=
    List.length_pos_iff.mpr hset
  have hrange : walletExec createdAt {}
      (.zrevrange userId (page * pageSize) (addI64 (addI64 (page * pageSize) pageSize) (-1)))
        s.1 s.2 =
          (.ok (slice pageSize.toNat (page * pageSize).toNat (s.2.members userId)), s.2) := by
    rw [stop_eq hpage hsize hbound]
    simp only [walletExec, walletAnswer, zrevrange_page (Int.mul_nonneg hpage hsize.le) hsize,
      Wallets.members]
  unfold shownAssets WalletSnapshot.getAssets
  rw [mulI64_eq hpage hsize hbound]
  refine (answerOf_read rfl hcard).trans ?_
  dsimp only [Program.bind]
  rw [if_pos hpositive]
  exact answerOf_read rfl hrange

theorem shows_of_reflects (h : Reflects s userId) : ShowsOwned createdAt s userId := by
  by_cases hset : s.2.sets userId = []
  · exact ⟨s.1.db.ownedAssets userId, fun a => Iff.rfl, fun page pageSize hpage hsize hbound =>
      shownAssets_absent hset hpage hsize hbound⟩
  · exact ⟨s.2.members userId, h.resolve_left hset, fun page pageSize hpage hsize hbound =>
      shownAssets_present hset hpage hsize hbound⟩

end Reads

/-- In a run in which assets change hands only between users without a wallet, each wallet
shows the assets of its user once the rebuilds have finished. -/
theorem wallets_shown {ι : Type} [DecidableEq ι] (createdAt : String → Int) (app : AppState)
    (requests : ι → WalletRequest) (start : Store × Wallets)
    (h : List (Move walleted (Store × Wallets) ι))
    (c : Pool walleted (Store × Wallets) ι (Option Reply))
    (run : Interleaves (walletMachine createdAt) (WalletRequest.pool app requests start) h c)
    (havailable : Available h) (hstart : ∀ userId, Reflects start userId)
    (hsafe : Follows ChangesUnwatched [] h) (hfinished : Finished h c) (userId : String) :
    Reflects c.state userId ∧ ShowsOwned createdAt c.state userId := by
  have hinv := wallet_inv run (hstart userId) hsafe
  have hreflects : Reflects c.state userId :=
    reflects_iff.mpr (hinv.reflects (closed_of_finished run havailable hfinished userId))
  exact ⟨hreflects, shows_of_reflects hreflects⟩

section Sample

/-- The owner lists its assets and consumes the one it has. -/
def walletRequests : Bool → WalletRequest
  | true => .read "owner" 0 20
  | false => .write (consumeRequest "owner")

def walletRun (turns : List (Bool × (walletMachine fun _ => 0).Env)) :
    List (Move walleted (Store × Wallets) Bool) × Pool walleted (Store × Wallets) Bool (Option Reply) :=
  (WalletRequest.pool default walletRequests (ownedStore, {})).schedule
    (walletMachine fun _ => 0) turns

theorem walletRun_interleaves (turns : List (Bool × (walletMachine fun _ => 0).Env)) :
    Interleaves (walletMachine fun _ => 0)
      (WalletRequest.pool default walletRequests (ownedStore, {})) (walletRun turns).1
      (walletRun turns).2 :=
  schedule_interleaves _ _

def turnsOf (i : Bool) (n : Nat) : List (Bool × (walletMachine fun _ => 0).Env) :=
  List.replicate n (i, ({} : Env), ({} : WalletEnv))

def hasReturned (p : Program walleted (Option Reply)) : Bool :=
  match p with
  | .done _ => true
  | .call _ _ => false

theorem finished_of_returned {ι : Type} [DecidableEq ι]
    {h : List (Move walleted (Store × Wallets) ι)}
    {c : Pool walleted (Store × Wallets) ι (Option Reply)}
    (hall : ∀ i, hasReturned (c.threads i) = true) : Finished h c := by
  intro i assets _
  have hi := hall i
  cases hp : c.threads i with
  | done r => exact ⟨r, rfl⟩
  | call op next =>
      rw [hp] at hi
      cases hi

/-- Consumed first, the asset is in no wallet when the list is made. -/
theorem wallets_shown_late :
    Reflects (walletRun (turnsOf false 10 ++ turnsOf true 10)).2.state "owner" ∧
      ShowsOwned (fun _ => 0) (walletRun (turnsOf false 10 ++ turnsOf true 10)).2.state "owner" :=
  wallets_shown _ _ _ _ _ _ (walletRun_interleaves (turnsOf false 10 ++ turnsOf true 10))
    (by decide +kernel) (fun _ => .inl rfl) (by decide +kernel)
    (finished_of_returned (by decide +kernel)) "owner"

/-- Listed first, it stays in the wallet of the user who has consumed it. -/
theorem consumed_asset_in_wallet :
    ¬∀ (ι : Type) (_ : DecidableEq ι) (createdAt : String → Int) (app : AppState)
      (requests : ι → WalletRequest) (start : Store × Wallets)
      (h : List (Move walleted (Store × Wallets) ι))
      (c : Pool walleted (Store × Wallets) ι (Option Reply)),
        Interleaves (walletMachine createdAt) (WalletRequest.pool app requests start) h c →
          Available h → (∀ userId, Reflects start userId) → Finished h c →
            ∀ userId, Reflects c.state userId := by
  intro hall
  have hreflects := hall Bool _ _ _ _ _ _ _ (walletRun_interleaves (turnsOf true 10 ++ turnsOf false 10))
    (by decide +kernel) (fun _ => .inl rfl) (finished_of_returned (by decide +kernel)) "owner"
  have hwallet : (walletRun (turnsOf true 10 ++ turnsOf false 10)).2.state.2.sets "owner" =
      [("a", 0)] := by decide +kernel
  have howned : (walletRun (turnsOf true 10 ++ turnsOf false 10)).2.state.1.db.ownedAssets "owner" =
      [] := by decide +kernel
  unfold Reflects Wallets.members at hreflects
  rw [hwallet, howned] at hreflects
  simp at hreflects

end Sample

end RcProtocol
