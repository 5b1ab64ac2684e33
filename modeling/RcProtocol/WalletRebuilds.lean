import RcProtocol.Api.WalletCli
import RcProtocol.Library.ConcurrentRebuilds
import RcProtocol.WalletConsistency
import RcProtocol.WalletPages

/-!
The wallets after the commands of the operators and the lists of the users, any number of them at
once. While no owner changes, a wallet ends as it was or with exactly the assets of its user, and
with their number; never with a part of them.
-/

namespace RcProtocol.WalletRebuilds
open Library Library.Rebuild

section Acts
variable (userId : String)

/-- What an event is to the set of the user. -/
def setAct : Event wallet → Act Scored
  | ⟨.selectScores u, .ok rows⟩ => if u = userId then .read rows else .aside
  | ⟨.delSet u, .ok _⟩ => if u = userId then .clear else .aside
  | ⟨.zadd u assetId score, .ok _⟩ => if u = userId then .add (assetId, score) else .aside
  | _ => .aside

/-- What an event is to the count of the user. -/
def countAct : Event wallet → Act Int
  | ⟨.selectScores u, .ok rows⟩ => if u = userId then .read [(rows.length : Int)] else .aside
  | ⟨.delHash u, .ok _⟩ => if u = userId then .clear else .aside
  | ⟨.hsetMultiple u assetCount, .ok _⟩ =>
      if u = userId then .add (assetCount : Int) else .aside
  | _ => .aside

/-- The operations of a rebuild and of a list. -/
def RebuildOp : WalletOp → Prop
  | .zrem _ _ | .hincrby _ _ | .hsetUpdatedAt _ => False
  | _ => True

/-- Redis has answered. -/
def Answered (e : Event wallet) : Prop := unanswered e = false

instance (e : Event wallet) : Decidable (Answered e) := inferInstanceAs (Decidable (_ = _))

instance (e : Event walletCliApi) : Decidable (OnLeft Answered e) :=
  inferInstanceAs (Decidable (∀ e' ∈ leftEvent e, Answered e'))

variable (createdAt : String → Int) (s : Store)

/-- The assets of a user as a rebuild adds them. -/
def ownedSet : Set Scored :=
  {pair | pair ∈ (s.db.newestFirst createdAt userId).map (scored createdAt)}

def ownedCount : Set Int := {((s.db.newestFirst createdAt userId).length : Int)}

def setOf (w : Wallets) : Set Scored := {pair | pair ∈ w.sets userId}

def countOf (w : Wallets) : Set Int :=
  {n | (w.hashes userId).bind (·.assetCount) = some n}

end Acts

section Views
variable {ι : Type} {createdAt : String → Int} {s : Store} {userId : String}

theorem mem_zadd_pair {assetId : String} {score : Int} {set : List Scored} {pair : Scored} :
    pair ∈ zadd assetId score set ↔ pair = (assetId, score) ∨ pair ∈ set ∧ pair.1 ≠ assetId := by
  rw [zadd, List.mem_orderedInsert, List.mem_filter, decide_eq_true_eq]

theorem setOf_setSet_self {w : Wallets} {set : List Scored} :
    setOf userId (w.setSet userId set) = {pair | pair ∈ set} := by
  simp only [setOf, Wallets.setSet, Function.update_self]

theorem setOf_setSet_other {w : Wallets} {u : String} {set : List Scored} (hu : u ≠ userId) :
    setOf userId (w.setSet u set) = setOf userId w := by
  simp only [setOf, Wallets.setSet, Function.update_of_ne (Ne.symm hu)]

/-- Into a set of assets of the user, an asset of his is only added. -/
theorem setOf_zadd {w : Wallets} {assetId : String} {score : Int}
    (howned : (assetId, score) ∈ ownedSet userId createdAt s)
    (hset : setOf userId w ⊆ ownedSet userId createdAt s) :
    setOf userId (w.setSet userId (zadd assetId score (w.sets userId))) =
      insert (assetId, score) (setOf userId w) := by
  have hscore : ∀ pair ∈ ownedSet userId createdAt s, pair = scored createdAt pair.1 := by
    intro pair hpair
    obtain ⟨id, -, rfl⟩ := List.mem_map.mp hpair
    rfl
  rw [setOf_setSet_self]
  ext pair
  rw [Set.mem_ofPred_eq, mem_zadd_pair, Set.mem_insert_iff]
  constructor
  · intro hmem
    exact hmem.imp id And.left
  · intro hmem
    cases hmem with
    | inl hsame => exact .inl hsame
    | inr hpair =>
        by_cases hid : pair.1 = assetId
        · rw [hscore pair (hset hpair), hid, ← hscore _ howned]
          exact .inl rfl
        · exact .inr ⟨hpair, hid⟩

theorem views_set : Views ι (timedMachine createdAt s) (setAct userId) RebuildOp
    (ownedSet userId createdAt s) (setOf userId) := by
  intro t env op w hop hsource hcache
  cases op with
  | selectScores u =>
      simp only [timedMachine, timedExec, walletAnswer]
      cases env.fails with
      | some e => exact hcache.symm
      | none =>
          simp only [setAct]
          split
          · next hu =>
            rw [hu]
            exact ⟨fun a => by rw [hsource]; rfl, hcache.symm⟩
          · exact hcache.symm
  | delSet u =>
      simp only [timedMachine, timedExec, walletExec, walletWrite]
      cases env.fails with
      | some e => exact hcache.symm
      | none =>
          simp only [setAct]
          split
          · next hu =>
            rw [hu, setOf_setSet_self]
            exact Set.eq_empty_of_forall_notMem fun pair hpair => List.not_mem_nil hpair
          · next hu => exact (setOf_setSet_other hu).trans hcache.symm
  | zadd u assetId score =>
      simp only [timedMachine, timedExec, walletExec, walletWrite]
      cases env.fails with
      | some e => exact hcache.symm
      | none =>
          simp only [setAct]
          split
          · next hu =>
            intro howned hset
            rw [hsource] at howned hset
            rw [hcache] at hset ⊢
            rw [hu]
            exact setOf_zadd howned hset
          · next hu => exact (setOf_setSet_other hu).trans hcache.symm
  | delHash u | hsetMultiple u n =>
      simp only [timedMachine, timedExec, walletExec, walletWrite]
      cases env.fails with
      | some e => exact hcache.symm
      | none => exact hcache.symm
  | zcard | zrevrange | selectAssetIds | respond => exact hcache.symm
  | zrem | hincrby | hsetUpdatedAt => exact hop.elim

theorem countOf_setHash_self {w : Wallets} {hash : Option WalletHash} :
    countOf userId (w.setHash userId hash) = {n | hash.bind (·.assetCount) = some n} := by
  simp only [countOf, Wallets.setHash, Function.update_self]

theorem countOf_setHash_other {w : Wallets} {u : String} {hash : Option WalletHash}
    (hu : u ≠ userId) : countOf userId (w.setHash u hash) = countOf userId w := by
  simp only [countOf, Wallets.setHash, Function.update_of_ne (Ne.symm hu)]

/-- The count that is set is the one there may be. -/
theorem count_insert {n : Int} {now : String} {count : Set Int}
    (howned : n ∈ ownedCount userId createdAt s) (hcount : count ⊆ ownedCount userId createdAt s) :
    {m | (some (WalletHash.mk (some n) (some now))).bind (·.assetCount) = some m} =
      insert n count := by
  apply Set.Subset.antisymm
  · intro m hm
    exact .inl (Option.some.inj hm).symm
  · intro m hm
    have hsame : m = n := by
      cases hm with
      | inl hsame => exact hsame
      | inr hmem => exact (hcount hmem).trans howned.symm
    rw [hsame]
    rfl

theorem views_count : Views ι (timedMachine createdAt s) (countAct userId) RebuildOp
    (ownedCount userId createdAt s) (countOf userId) := by
  intro t env op w hop hsource hcache
  cases op with
  | selectScores u =>
      simp only [timedMachine, timedExec, walletAnswer]
      cases env.fails with
      | some e => exact hcache.symm
      | none =>
          simp only [countAct]
          split
          · next hu =>
            rw [hu, List.length_map]
            exact ⟨fun a => by rw [hsource]; exact List.mem_singleton, hcache.symm⟩
          · exact hcache.symm
  | delHash u =>
      simp only [timedMachine, timedExec, walletExec, walletWrite]
      cases env.fails with
      | some e => exact hcache.symm
      | none =>
          simp only [countAct]
          split
          · next hu =>
            rw [hu, countOf_setHash_self]
            exact Set.eq_empty_of_forall_notMem fun n hn => by cases hn
          · next hu => exact (countOf_setHash_other hu).trans hcache.symm
  | hsetMultiple u n =>
      simp only [timedMachine, timedExec, walletExec, walletWrite]
      cases env.fails with
      | some e => exact hcache.symm
      | none =>
          simp only [countAct]
          split
          · next hu =>
            intro howned hset
            rw [hsource] at howned hset
            rw [hu, countOf_setHash_self]
            exact count_insert howned hset
          · next hu => exact (countOf_setHash_other hu).trans hcache.symm
  | delSet u | zadd u assetId score =>
      simp only [timedMachine, timedExec, walletExec, walletWrite]
      cases env.fails with
      | some e => exact hcache.symm
      | none => exact hcache.symm
  | zcard | zrevrange | selectAssetIds | respond => exact hcache.symm
  | zrem | hincrby | hsetUpdatedAt => exact hop.elim

end Views

/-- An operation of the rebuild of a user's wallet. -/
def OfUser (u : String) : WalletOp → Prop
  | .selectScores v | .delSet v | .delHash v | .zadd v _ _ | .hsetMultiple v _ => v = u
  | _ => False

/-- An operation of a list that rebuilds nothing. -/
def Reading : WalletOp → Prop
  | .zcard _ | .zrevrange _ _ _ | .selectAssetIds _ _ _ | .respond _ => True
  | _ => False

/-- The rebuild of the user's wallet is to the acts what they take it for, and no other one is
anything to them. -/
structure Tracks {α : Type} (act : Event wallet → Act α) (userId : String) : Prop where
  rebuild : ∀ rows log, ∃ items, act ⟨.selectScores userId, .ok rows⟩ = .read items ∧
    ((AllAnswered Answered log → stageOf act log = .holding items) →
      Meets (Allowed act Answered RebuildOp)
        (fun log _ => AllAnswered Answered log → stageOf act log = .adding []) log
        ((WalletSnapshot.mk true).rebuildForUser userId rows))
  unread : ∀ e, act ⟨.selectScores userId, .error e⟩ = .aside
  other : ∀ u, u ≠ userId → ∀ op, OfUser u op → ∀ r, act ⟨op, r⟩ = .aside
  reading : ∀ op, Reading op → ∀ r, act ⟨op, r⟩ = .aside

section Set
variable {userId : String} {log : List (Event wallet)} {pairs rows : List Scored} {a : Unit}

theorem set_clear : setAct userId ⟨.delSet userId, .ok a⟩ = .clear := if_pos rfl

theorem set_add {assetId : String} {score : Int} :
    setAct userId ⟨.zadd userId assetId score, .ok a⟩ = .add (assetId, score) := if_pos rfl

theorem set_zaddAll (h : AllAnswered Answered log → stageOf (setAct userId) log = .adding pairs) :
    Meets (Allowed (setAct userId) Answered RebuildOp)
      (fun log _ => AllAnswered Answered log → stageOf (setAct userId) log = .adding []) log
      (WalletSnapshot.zaddAll userId pairs) := by
  induction pairs generalizing log with
  | nil => exact h
  | cons pair rest ih =>
      obtain ⟨assetId, score⟩ := pair
      refine ⟨⟨trivial, fun answer hlog => ?_⟩, fun answer => ?_⟩
      · obtain ⟨hbefore, hanswered⟩ := allAnswered_append.mp hlog
        cases answer with
        | error e => cases hanswered
        | ok a =>
            rw [h hbefore, set_add]
            exact ⟨rest, rfl⟩
      · cases answer with
        | error e =>
            intro hlog
            cases (allAnswered_append.mp hlog).2
        | ok a =>
            refine ih fun hlog => ?_
            rw [stageOf_append, h (allAnswered_append.mp hlog).1, set_add]
            rfl

theorem set_rebuild (h : AllAnswered Answered log → stageOf (setAct userId) log = .holding rows) :
    Meets (Allowed (setAct userId) Answered RebuildOp)
      (fun log _ => AllAnswered Answered log → stageOf (setAct userId) log = .adding []) log
      ((WalletSnapshot.mk true).rebuildForUser userId rows) := by
  refine ⟨⟨trivial, fun answer hlog => ?_⟩, fun answer => ?_⟩
  · obtain ⟨hbefore, hanswered⟩ := allAnswered_append.mp hlog
    cases answer with
    | error e => cases hanswered
    | ok a =>
        rw [h hbefore, set_clear]
        exact ⟨rows, rfl⟩
  cases answer with
  | error e =>
      intro hlog
      cases (allAnswered_append.mp hlog).2
  | ok a =>
  have hcleared : AllAnswered Answered (log ++ [⟨.delSet userId, .ok a⟩]) →
      stageOf (setAct userId) (log ++ [⟨.delSet userId, .ok a⟩]) = .adding rows := by
    intro hlog
    rw [stageOf_append, h (allAnswered_append.mp hlog).1, set_clear]
    rfl
  refine ⟨⟨trivial, fun _ _ => trivial⟩, fun answer => ?_⟩
  cases answer with
  | error e =>
      intro hlog
      cases (allAnswered_append.mp hlog).2
  | ok a =>
  refine (meets_attempt (WalletSnapshot.zaddAll userId rows) _ _ _).mpr
    ((set_zaddAll fun hlog => ?_).mono (fun _ _ h => h) ?_)
  · rw [stageOf_append, hcleared (allAnswered_append.mp hlog).1]
    rfl
  · intro log r hadded
    cases r with
    | error e => exact hadded
    | ok a =>
        refine ⟨⟨trivial, fun _ _ => trivial⟩, fun answer => ?_⟩
        cases answer with
        | error e =>
            intro hlog
            cases (allAnswered_append.mp hlog).2
        | ok a =>
            intro hlog
            rw [stageOf_append, hadded (allAnswered_append.mp hlog).1]
            rfl

theorem set_tracks (userId : String) : Tracks (setAct userId) userId where
  rebuild rows log := ⟨rows, if_pos rfl, set_rebuild⟩
  unread _ := rfl
  other u hu op hop r := by
    cases op <;> first | exact hop.elim | skip
    all_goals (cases hop; cases r <;> first | rfl | exact if_neg hu)
  reading op hop r := by
    cases op <;> first | rfl | exact hop.elim

end Set

section Count
variable {userId : String} {log : List (Event wallet)} {pairs rows : List Scored} {a : Unit}

theorem count_clear : countAct userId ⟨.delHash userId, .ok a⟩ = .clear := if_pos rfl

theorem count_add {n : Nat} : countAct userId ⟨.hsetMultiple userId n, .ok a⟩ = .add (n : Int) :=
  if_pos rfl

/-- Adding the members is nothing to the count. -/
theorem count_zaddAll : Meets (fun _ op => RebuildOp op ∧ ∀ r, countAct userId ⟨op, r⟩ = .aside)
    (fun log r => AllAnswered Answered log → r = .ok ()) log
    (WalletSnapshot.zaddAll userId pairs) := by
  induction pairs generalizing log with
  | nil => exact fun _ => rfl
  | cons pair rest ih =>
      obtain ⟨assetId, score⟩ := pair
      refine ⟨⟨trivial, fun _ => rfl⟩, fun answer => ?_⟩
      cases answer with
      | error e =>
          intro hlog
          cases (allAnswered_append.mp hlog).2
      | ok a => exact ih

theorem count_rebuild
    (h : AllAnswered Answered log →
      stageOf (countAct userId) log = .holding [(rows.length : Int)]) :
    Meets (Allowed (countAct userId) Answered RebuildOp)
      (fun log _ => AllAnswered Answered log → stageOf (countAct userId) log = .adding []) log
      ((WalletSnapshot.mk true).rebuildForUser userId rows) := by
  refine ⟨⟨trivial, fun _ _ => trivial⟩, fun answer => ?_⟩
  cases answer with
  | error e =>
      intro hlog
      cases (allAnswered_append.mp hlog).2
  | ok a =>
  have hheld : AllAnswered Answered (log ++ [⟨.delSet userId, .ok a⟩]) →
      stageOf (countAct userId) (log ++ [⟨.delSet userId, .ok a⟩]) =
        .holding [(rows.length : Int)] := by
    intro hlog
    rw [stageOf_append, h (allAnswered_append.mp hlog).1]
    rfl
  refine ⟨⟨trivial, fun answer hlog => ?_⟩, fun answer => ?_⟩
  · obtain ⟨hbefore, hanswered⟩ := allAnswered_append.mp hlog
    cases answer with
    | error e => cases hanswered
    | ok a =>
        rw [hheld hbefore, count_clear]
        exact ⟨_, rfl⟩
  cases answer with
  | error e =>
      intro hlog
      cases (allAnswered_append.mp hlog).2
  | ok b =>
  refine (meets_attempt (WalletSnapshot.zaddAll userId rows) _ _ _).mpr
    ((meets_aside count_zaddAll).mono (fun _ _ h => h) ?_)
  intro log' r hadded
  obtain ⟨hstage, hsince, hok⟩ := hadded
  have hcleared : AllAnswered Answered log' →
      stageOf (countAct userId) log' = .adding [(rows.length : Int)] := by
    intro hlog
    have hbefore := (allAnswered_append.mp (hsince hlog)).1
    rw [hstage, stageOf_append, hheld hbefore, count_clear]
    rfl
  cases r with
  | error e =>
      intro hlog
      cases hok hlog
  | ok c =>
      refine ⟨⟨trivial, fun answer hlog => ?_⟩, fun answer => ?_⟩
      · obtain ⟨hbefore, hanswered⟩ := allAnswered_append.mp hlog
        cases answer with
        | error e => cases hanswered
        | ok a =>
            rw [hcleared hbefore, count_add]
            exact ⟨[], rfl⟩
      · cases answer with
        | error e =>
            intro hlog
            cases (allAnswered_append.mp hlog).2
        | ok a =>
            intro hlog
            rw [stageOf_append, hcleared (allAnswered_append.mp hlog).1, count_add]
            rfl

theorem count_tracks (userId : String) : Tracks (countAct userId) userId where
  rebuild rows log := ⟨[(rows.length : Int)], if_pos rfl, count_rebuild⟩
  unread _ := rfl
  other u hu op hop r := by
    cases op <;> first | exact hop.elim | skip
    all_goals (cases hop; cases r <;> first | rfl | exact if_neg hu)
  reading op hop r := by
    cases op <;> first | rfl | exact hop.elim

end Count

section Programs
variable {α : Type} {act : Event wallet → Act α} {userId u : String} {log : List (Event wallet)}

theorem zaddAll_ops {pairs : List Scored} :
    Meets (fun _ op => RebuildOp op ∧ OfUser u op) (fun _ _ => True) log
      (WalletSnapshot.zaddAll u pairs) := by
  induction pairs generalizing log with
  | nil => trivial
  | cons pair rest ih =>
      obtain ⟨assetId, score⟩ := pair
      refine ⟨⟨trivial, rfl⟩, fun answer => ?_⟩
      cases answer with
      | error e => trivial
      | ok a => exact ih

theorem rebuildFromPg_ops :
    Meets (fun _ op => RebuildOp op ∧ OfUser u op) (fun _ _ => True) log
      ((WalletSnapshot.mk true).rebuildFromPg u) := by
  refine ⟨⟨trivial, rfl⟩, fun answer => ?_⟩
  cases answer with
  | error e => trivial
  | ok rows =>
  refine ⟨⟨trivial, rfl⟩, fun answer => ?_⟩
  cases answer with
  | error e => trivial
  | ok a =>
  refine ⟨⟨trivial, rfl⟩, fun answer => ?_⟩
  cases answer with
  | error e => trivial
  | ok a =>
  refine (meets_attempt (WalletSnapshot.zaddAll u rows) _ _ _).mpr
    (zaddAll_ops.mono (fun _ _ h => h) ?_)
  intro log r _
  cases r with
  | error e => trivial
  | ok a =>
      refine ⟨⟨trivial, rfl⟩, fun answer => ?_⟩
      cases answer with
      | error e => trivial
      | ok a => trivial

theorem closes_adding (h : AllAnswered Answered log → stageOf act log = .adding []) :
    Closes act Answered log := by
  intro hlog
  rw [h hlog]
  exact fun hopen => hopen rfl

variable (tracks : Tracks act userId)
include tracks

/-- A rebuild of the user's own wallet. -/
theorem rebuild_own (h : Closes act Answered log) :
    Meets (Allowed act Answered RebuildOp)
      (fun log r => Closes act Answered log ∧
        (r = .ok () → AllAnswered Answered log → stageOf act log = .adding [])) log
      ((WalletSnapshot.mk true).rebuildFromPg userId) := by
  refine ⟨⟨trivial, fun answer hlog => ?_⟩, fun answer => ?_⟩
  · cases answer with
    | error e =>
        rw [tracks.unread]
        trivial
    | ok rows =>
        obtain ⟨items, hread, -⟩ := tracks.rebuild rows log
        rw [hread]
        exact h (allAnswered_append.mp hlog).1
  cases answer with
  | error e =>
      refine ⟨fun hlog => ?_, fun hok => by cases hok⟩
      rw [stageOf_append, tracks.unread]
      exact h (allAnswered_append.mp hlog).1
  | ok rows =>
      obtain ⟨items, hread, hrebuild⟩ :=
        tracks.rebuild rows (log ++ [⟨.selectScores userId, .ok rows⟩])
      have hheld : AllAnswered Answered (log ++ [⟨.selectScores userId, .ok rows⟩]) →
          stageOf act (log ++ [⟨.selectScores userId, .ok rows⟩]) = .holding items := by
        intro _
        rw [stageOf_append, hread]
        rfl
      exact (hrebuild hheld).mono (fun _ _ h => h) fun log _ hadded =>
        ⟨closes_adding hadded, fun _ => hadded⟩

/-- A rebuild of the wallet of another user. -/
theorem rebuild_other (hu : u ≠ userId) :
    Meets (Allowed act Answered RebuildOp)
      (fun log' _ => stageOf act log' = stageOf act log ∧
        (AllAnswered Answered log' → AllAnswered Answered log) ∧ True) log
      ((WalletSnapshot.mk true).rebuildFromPg u) :=
  meets_aside (rebuildFromPg_ops.mono
    (fun _ op hop => ⟨hop.1, tracks.other u hu op hop.2⟩) fun _ _ h => h)

theorem rebuild_closes (h : Closes act Answered log) :
    Meets (Allowed act Answered RebuildOp) (fun log _ => Closes act Answered log) log
      ((WalletSnapshot.mk true).rebuildFromPg u) := by
  by_cases hu : u = userId
  · rw [hu]
    exact (rebuild_own tracks h).mono (fun _ _ h => h) fun _ _ h => h.1
  · refine (rebuild_other tracks hu).mono (fun _ _ h => h) fun log' _ hsame hlog => ?_
    rw [hsame.1]
    exact h (hsame.2.1 hlog)

/-- The rebuild of one user after the other: where none has failed, that of this user has gone
through. -/
theorem rebuildUsers_meets {ids : List String} {success failed : Nat}
    (h : Closes act Answered log) :
    Meets (Allowed act Answered RebuildOp)
      (fun log' counts => Closes act Answered log' ∧
        counts.1 + counts.2 = success + failed + ids.length ∧ failed ≤ counts.2 ∧
        (userId ∈ ids ∨ (AllAnswered Answered log → stageOf act log = .adding []) →
          counts.2 = failed → AllAnswered Answered log' → stageOf act log' = .adding [])) log
      ((WalletSnapshot.mk true).rebuildUsers ids success failed) := by
  induction ids generalizing log success failed with
  | nil =>
      refine ⟨h, rfl, le_rfl, fun hbefore _ => ?_⟩
      cases hbefore with
      | inl hmem => cases hmem
      | inr hadded => exact hadded
  | cons u rest ih =>
      have hone : Meets (Allowed act Answered RebuildOp)
          (fun log₁ r => Closes act Answered log₁ ∧
            (r = .ok () → u = userId ∨ (AllAnswered Answered log → stageOf act log = .adding []) →
              AllAnswered Answered log₁ → stageOf act log₁ = .adding [])) log
          ((WalletSnapshot.mk true).rebuildFromPg u) := by
        by_cases hu : u = userId
        · rw [hu]
          exact (rebuild_own tracks h).mono (fun _ _ h => h) fun _ _ hr =>
            ⟨hr.1, fun hok _ => hr.2 hok⟩
        · refine (rebuild_other tracks hu).mono (fun _ _ h => h) fun log₁ r hsame => ⟨?_, ?_⟩
          · intro hlog
            rw [hsame.1]
            exact h (hsame.2.1 hlog)
          · intro _ hbefore hlog
            rw [hsame.1]
            exact hbefore.resolve_left hu (hsame.2.1 hlog)
      refine (meets_bind _ _ _).mpr (hone.mono (fun _ _ h => h) fun log₁ r hr => ?_)
      cases r with
      | ok a =>
          refine (ih hr.1).mono (fun _ _ h => h) fun log₂ counts hcounts => ?_
          obtain ⟨hcloses, hsum, hle, hadded⟩ := hcounts
          refine ⟨hcloses, ?_, hle, fun hbefore => hadded ?_⟩
          · rw [hsum, List.length_cons]
            omega
          · rw [List.mem_cons] at hbefore
            obtain (hsame | hrest) | hcleared := hbefore
            · exact .inr (hr.2 rfl (.inl hsame.symm))
            · exact .inl hrest
            · exact .inr (hr.2 rfl (.inr hcleared))
      | error e =>
          refine (ih hr.1).mono (fun _ _ h => h) fun log₂ counts hcounts => ?_
          obtain ⟨hcloses, hsum, hle, -⟩ := hcounts
          refine ⟨hcloses, ?_, by omega, fun _ hfailed => by omega⟩
          rw [hsum, List.length_cons]
          omega

theorem closes_reading (op : WalletOp) (hop : Reading op) (r : op.Answer)
    (h : Closes act Answered log) : Closes act Answered (log ++ [⟨op, r⟩]) := by
  intro hlog
  rw [stageOf_append, tracks.reading op hop r]
  exact h (allAnswered_append.mp hlog).1

theorem allowed_reading (op : WalletOp) (hop : Reading op) (hrebuild : RebuildOp op) :
    Allowed act Answered RebuildOp log op := by
  refine ⟨hrebuild, fun r _ => ?_⟩
  rw [tracks.reading op hop r]
  trivial

theorem respond_closes (h : Closes act Answered log) (assets : List String) :
    Meets (Allowed act Answered RebuildOp) (fun log _ => Closes act Answered log) log
      (askWallet (.respond assets)) :=
  ⟨allowed_reading tracks (.respond assets) trivial trivial,
    fun r => closes_reading tracks (.respond assets) trivial r h⟩

theorem fetchAssetsFromPg_closes (h : Closes act Answered log) (page pageSize : Int) :
    Meets (Allowed act Answered RebuildOp) (fun log _ => Closes act Answered log) log
      ((WalletSnapshot.mk true).fetchAssetsFromPg u page pageSize) := by
  let select := WalletOp.selectAssetIds u pageSize (mulI64 page pageSize)
  refine ⟨allowed_reading tracks select trivial trivial, fun answer => ?_⟩
  have hread := closes_reading tracks select trivial answer h
  cases answer with
  | error e => exact respond_closes tracks hread []
  | ok rows =>
      refine ⟨allowed_reading tracks (.respond rows) trivial trivial, fun answer => ?_⟩
      have hresponded := closes_reading tracks (.respond rows) trivial answer hread
      change Meets _ _ _ (if rows ≠ [] ∧ (WalletSnapshot.mk true).connected = true then _ else _)
      split
      · exact (meets_map _ _ _).mpr (rebuild_closes tracks hresponded)
      · exact hresponded

/-- A list rebuilds the wallet once its caller has the answer, or not at all. -/
theorem getAssets_closes (h : Closes act Answered log) (page pageSize : Int) :
    Meets (Allowed act Answered RebuildOp) (fun log _ => Closes act Answered log) log
      ((WalletSnapshot.mk true).getAssets u page pageSize) := by
  refine ⟨allowed_reading tracks (.zcard u) trivial trivial, fun card => ?_⟩
  have hcounted := closes_reading tracks (.zcard u) trivial card h
  change Meets _ _ _ (if 0 < card.toOption.getD 0 then _ else _)
  split
  · refine ⟨allowed_reading tracks (.zrevrange u (mulI64 page pageSize)
      (addI64 (addI64 (mulI64 page pageSize) pageSize) (-1))) trivial trivial, fun answer => ?_⟩
    have hranged := closes_reading tracks (.zrevrange u (mulI64 page pageSize)
      (addI64 (addI64 (mulI64 page pageSize) pageSize) (-1))) trivial answer hcounted
    cases answer with
    | ok result => exact respond_closes tracks hranged result
    | error e => exact fetchAssetsFromPg_closes tracks hranged page pageSize
  · exact fetchAssetsFromPg_closes tracks hcounted page pageSize

end Programs

/-- A rebuild of the operators, or a list of a user. -/
inductive Task where
  | rebuild (userId : Option String)
  | list (userId : String) (page pageSize : Int)

/-- What a rebuild reports; a list has answered its caller by the way. -/
def Task.handle : Task → Program walletCliApi (Option SnapshotReport)
  | rebuild userId => (SnapshotAction.rebuild userId).run.map some
  | list userId page pageSize =>
      ((WalletSnapshot.mk true).getAssets userId page pageSize).left.map fun _ => none

def pool {ι : Type} (tasks : ι → Task) (w : Wallets) :
    Pool walletCliApi (Wallets × Unit) ι (Option SnapshotReport) where
  state := (w, ())
  threads i := (tasks i).handle

/-- Where every call was answered, the cache was cleared and all of it added. -/
def Filled {α : Type} (act : Event wallet → Act α) (log : List (Event walletCliApi)) : Prop :=
  AllAnswered (OnLeft Answered) log → stageOf (onLeft act) log = .adding []

def Listed (log : List (Event walletCliApi)) (ids : List String) : Prop :=
  ∃ answer : Except String (List String),
    (⟨.inr .selectOwnerIds, answer⟩ : Event walletCliApi) ∈ log ∧ ids = answer.toOption.getD []

/-- What is so of a task when it reports. -/
def Task.Reports {α : Type} (act : Event wallet → Act α) (userId : String) (t : Task)
    (log : List (Event walletCliApi)) (a : Option SnapshotReport) : Prop :=
  match t with
  | .rebuild (some u) =>
      ∃ result, a = some (.rebuilt result) ∧ (u = userId → result = .ok () → Filled act log)
  | .rebuild none =>
      ∃ report ids, a = some (.rebuiltAll report) ∧ Listed log ids ∧ report.total = ids.length ∧
        report.success + report.failed = report.total ∧
        (userId ∈ ids → report.failed = 0 → Filled act log)
  | .list _ _ _ => True

section Tasks
variable {α : Type} {act : Event wallet → Act α} {userId : String}

theorem filled_left {log : List (Event walletCliApi)}
    (h : AllAnswered Answered (log.filterMap leftEvent) →
      stageOf act (log.filterMap leftEvent) = .adding []) : Filled act log := by
  intro hlog
  rw [stageOf_onLeft]
  exact h (allAnswered_left hlog)

theorem closes_nil : Closes act Answered [] := fun _ hopen => hopen

variable (tracks : Tracks act userId)
include tracks

theorem rebuildOne_meets (u : String) :
    Meets (Allowed act Answered RebuildOp)
      (fun log result => Closes act Answered log ∧ (u = userId → result = .ok () →
        AllAnswered Answered log → stageOf act log = .adding []))
      (([] : List (Event walletCliApi)).filterMap leftEvent)
      ((WalletSnapshot.mk true).rebuildFromPg u) := by
  by_cases hu : u = userId
  · rw [hu]
    exact (rebuild_own tracks closes_nil).mono (fun _ _ h => h) fun _ _ h => ⟨h.1, fun _ => h.2⟩
  · exact (rebuild_closes tracks closes_nil).mono (fun _ _ h => h) fun _ _ h =>
      ⟨h, fun hsame => absurd hsame hu⟩

theorem rebuildAll_meets :
    Meets (Allowed (onLeft act) (OnLeft Answered) fun op => ∀ op', op = .inl op' → RebuildOp op')
      (fun log report => Closes (onLeft act) (OnLeft Answered) log ∧
        ∃ ids, Listed log ids ∧ report.total = ids.length ∧
          report.success + report.failed = report.total ∧
          (userId ∈ ids → report.failed = 0 → Filled act log)) []
      (WalletSnapshot.mk true).rebuildAll := by
  refine ⟨⟨?_, fun _ _ => trivial⟩, fun answer => ?_⟩
  · intro op' hop
    cases hop
  have husers : Meets (Allowed act Answered RebuildOp)
      (fun log counts => Closes act Answered log ∧
        counts.1 + counts.2 = 0 + 0 + (answer.toOption.getD []).length ∧ 0 ≤ counts.2 ∧
        (userId ∈ answer.toOption.getD [] ∨
            (AllAnswered Answered [] → stageOf act [] = .adding []) →
          counts.2 = 0 → AllAnswered Answered log → stageOf act log = .adding []))
      (([] ++ [⟨.inr .selectOwnerIds, answer⟩] : List (Event walletCliApi)).filterMap leftEvent)
      ((WalletSnapshot.mk true).rebuildUsers (answer.toOption.getD []) 0 0) :=
    rebuildUsers_meets tracks closes_nil
  refine (meets_map _ _ _).mpr ((Allowed.left husers).extends.mono (fun _ _ h => h.1) ?_)
  intro log counts hcounts
  obtain ⟨⟨hcloses, hsum, -, hfilled⟩, hextends⟩ := hcounts
  refine ⟨hcloses.left, _, ⟨answer, ?_, rfl⟩, rfl, ?_, fun hmem hfailed => ?_⟩
  · obtain ⟨rest, hrest, -⟩ := hextends
    rw [hrest]
    exact List.mem_append_left _ (List.mem_singleton_self _)
  · change counts.1 + counts.2 = (answer.toOption.getD []).length
    omega
  · exact filled_left (hfilled (.inl hmem) hfailed)

/-- Whatever a task does to the wallet of the user, it does it in the order of a rebuild. -/
theorem task_meets (t : Task) :
    Meets (Allowed (onLeft act) (OnLeft Answered) fun op => ∀ op', op = .inl op' → RebuildOp op')
      (fun log a => Closes (onLeft act) (OnLeft Answered) log ∧ t.Reports act userId log a) []
      t.handle := by
  cases t with
  | list u page pageSize =>
      refine (meets_map _ _ _).mpr ?_
      have hlist : Meets (Allowed act Answered RebuildOp) (fun log _ => Closes act Answered log)
          (([] : List (Event walletCliApi)).filterMap leftEvent)
          ((WalletSnapshot.mk true).getAssets u page pageSize) :=
        getAssets_closes tracks closes_nil page pageSize
      exact (Allowed.left hlist).mono (fun _ _ h => h) fun _ _ h => ⟨h.left, trivial⟩
  | rebuild target =>
      refine (meets_map _ _ _).mpr ?_
      cases target with
      | none =>
          refine (meets_map _ _ _).mpr
            ((rebuildAll_meets tracks).mono (fun _ _ h => h) fun log report h => ⟨h.1, ?_⟩)
          obtain ⟨ids, hids⟩ := h.2
          exact ⟨report, ids, rfl, hids⟩
      | some u =>
          have hrebuild := Allowed.left (rebuildOne_meets tracks u)
          exact (meets_map _ _ _).mpr (hrebuild.mono (fun _ _ h => h) fun log result h =>
            ⟨h.1.left, result, rfl, fun hu hok => filled_left (h.2 hu hok)⟩)

end Tasks

/-- The wallet of the user holds the assets the user owns, and their number. -/
structure Rebuilt (createdAt : String → Int) (s : Store) (userId : String) (w : Wallets) :
    Prop where
  set : setOf userId w = ownedSet userId createdAt s
  count : countOf userId w = ownedCount userId createdAt s

section Runs
variable {ι : Type} [DecidableEq ι] {createdAt : String → Int} {s : Store} {w : Wallets}
  {tasks : ι → Task} {h : List (Move walletCliApi (Wallets × Unit) ι)}
  {c : Pool walletCliApi (Wallets × Unit) ι (Option SnapshotReport)}

/-- The list of owners has all of them, unless it has failed. -/
theorem listed_owners (run : Interleaves (walletCliMachine createdAt s) (pool tasks w) h c) {i : ι}
    {ids : List String} (hlisted : Listed (eventsOf i h) ids) (hids : 0 < ids.length)
    (userId : String) : userId ∈ ids ↔ s.db.Owns userId := by
  obtain ⟨answer, hmem, rfl⟩ := hlisted
  obtain ⟨v, hv, -, hevent⟩ := mem_eventsOf.mp hmem
  obtain ⟨env, hexec⟩ := run.move hv
  rw [hevent] at hexec
  have hanswer := congrArg Prod.fst hexec
  dsimp only [walletCliMachine, Machine.beside, ownersMachine] at hanswer
  subst hanswer
  cases hfails : env.2.fails with
  | some e =>
      rw [hfails] at hids
      exact absurd hids (lt_irrefl 0)
  | none => exact env.2.owners userId

variable {α : Type} {act : Event wallet → Act α} {userId : String} {source : Set α}
  {cache : Wallets → Set α}

/-- One part of a wallet, when all tasks have ended. -/
theorem part_settles (tracks : Tracks act userId)
    (views : Views ι (timedMachine createdAt s) act RebuildOp source cache)
    (run : Interleaves (walletCliMachine createdAt s) (pool tasks w) h c)
    (hanswered : ∀ v ∈ h, OnLeft Answered v.event) (hdone : ∀ i, ∃ a, c.threads i = .done a) :
    (cache c.state.1 = source ∨ cache c.state.1 = cache w) ∧
      ∀ i, Filled act (eventsOf i h) → cache c.state.1 = source := by
  have hmeets : ∀ i, Meets (Allowed (onLeft act) (OnLeft Answered)
      fun op => ∀ op', op = .inl op' → RebuildOp op')
      (fun log _ => Closes (onLeft act) (OnLeft Answered) log) []
      ((pool tasks w).threads i) :=
    fun i => (task_meets tracks (tasks i)).mono (fun _ _ h => h) fun _ _ h => h.1
  cases rebuilds_settle views.left run hmeets hanswered hdone with
  | inl hsource => exact ⟨.inl hsource, fun _ _ => hsource⟩
  | inr hsame =>
      refine ⟨.inr hsame.1, fun i hfilled => ?_⟩
      exact absurd (hfilled (answered_events hanswered i)) (hsame.2 i [])

theorem task_reports (tracks : Tracks act userId)
    (run : Interleaves (walletCliMachine createdAt s) (pool tasks w) h c) {i : ι}
    {a : Option SnapshotReport} (hi : c.threads i = .done a) :
    (tasks i).Reports act userId (eventsOf i h) a :=
  (run.answers (fun i => task_meets tracks (tasks i)) hi).2

/-- Rebuilds of one user and of all, and lists, at once and in any order, while no owner changes:
when all have ended and Redis has answered every call, the set of every user is the user's assets
or what it was, and so is the count. A rebuild that reports success leaves both right, and so does
one of all users for each owner where it reports no failure; its numbers add up. -/
theorem wallets_rebuilt (run : Interleaves (walletCliMachine createdAt s) (pool tasks w) h c)
    (hanswered : ∀ v ∈ h, OnLeft Answered v.event) (hdone : ∀ i, ∃ a, c.threads i = .done a)
    (userId : String) :
    (setOf userId c.state.1 = ownedSet userId createdAt s ∨
      setOf userId c.state.1 = setOf userId w) ∧
    (countOf userId c.state.1 = ownedCount userId createdAt s ∨
      countOf userId c.state.1 = countOf userId w) ∧
    (∀ i, tasks i = .rebuild (some userId) → c.threads i = .done (some (.rebuilt (.ok ()))) →
      Rebuilt createdAt s userId c.state.1) ∧
    ∀ i, tasks i = .rebuild none → ∃ report, c.threads i = .done (some (.rebuiltAll report)) ∧
      report.success + report.failed = report.total ∧
      (report.failed = 0 → 0 < report.total → s.db.Owns userId →
        Rebuilt createdAt s userId c.state.1) := by
  have hset := part_settles (set_tracks userId) views_set run hanswered hdone
  have hcount := part_settles (count_tracks userId) views_count run hanswered hdone
  refine ⟨hset.1, hcount.1, fun i htask hi => ?_, fun i htask => ?_⟩
  · have hset' := task_reports (set_tracks userId) run hi
    have hcount' := task_reports (count_tracks userId) run hi
    rw [htask] at hset' hcount'
    obtain ⟨result, hresult, hset'⟩ := hset'
    obtain ⟨result', hresult', hcount'⟩ := hcount'
    cases hresult
    cases hresult'
    exact ⟨hset.2 i (hset' rfl rfl), hcount.2 i (hcount' rfl rfl)⟩
  · obtain ⟨a, hi⟩ := hdone i
    have hset' := task_reports (set_tracks userId) run hi
    have hcount' := task_reports (count_tracks userId) run hi
    rw [htask] at hset' hcount'
    obtain ⟨report, ids, rfl, hlisted, htotal, hsum, hset'⟩ := hset'
    obtain ⟨report', ids', hreport', hlisted', htotal', -, hcount'⟩ := hcount'
    cases hreport'
    refine ⟨report, hi, hsum, fun hfailed hsome howns => ?_⟩
    rw [htotal] at hsome
    have hmem := (listed_owners run hlisted hsome userId).mpr howns
    rw [← htotal, htotal'] at hsome
    have hmem' := (listed_owners run hlisted' hsome userId).mpr howns
    exact ⟨hset.2 i (hset' hmem hfailed), hcount.2 i (hcount' hmem' hfailed)⟩

section Sample

/-- The rebuild of the owner, that of all and a list. -/
def sampleTasks : Option Bool → Task
  | some true => .rebuild (some "owner")
  | some false => .rebuild none
  | none => .list "owner" 0 20

/-- The wallet has an asset long given away. -/
def staleWallets : Wallets where
  sets := Function.update (fun _ => []) "owner" [("given", 1)]

theorem pair_owners (userId : String) : userId ∈ ["owner"] ↔ pairStore.db.Owns userId := by
  rw [List.mem_singleton]
  constructor
  · intro hu
    rw [hu]
    exact ⟨_, List.mem_cons_self .., rfl⟩
  · intro howns
    obtain ⟨a, ha, howner⟩ := howns
    have hall : ∀ a ∈ pairStore.db.assets.rows, a.ownerId = some "owner" := by decide
    exact (Option.some.inj ((hall a ha).symm.trans howner)).symm

def sampleEnv : (walletCliMachine pairTimes pairStore).Env :=
  (({} : WalletEnv), ⟨none, ["owner"], by decide, pair_owners⟩)

def sampleRun : List (Move walletCliApi (Wallets × Unit) (Option Bool)) ×
    Pool walletCliApi (Wallets × Unit) (Option Bool) (Option SnapshotReport) :=
  (pool sampleTasks staleWallets).schedule (walletCliMachine pairTimes pairStore)
    (((List.range 7).flatMap fun _ => [some true, some false, none]).map fun i => (i, sampleEnv))

theorem sample_done : ∀ i, ∃ a, sampleRun.2.threads i = .done a
  | some true => ⟨some (.rebuilt (.ok ())), rfl⟩
  | some false => ⟨some (.rebuiltAll ⟨1, 0, 1⟩), rfl⟩
  | none => ⟨none, rfl⟩

theorem wallets_rebuilt_sample :
    setOf "owner" staleWallets = {("given", 1)} ∧
      Rebuilt pairTimes pairStore "owner" sampleRun.2.state.1 :=
  ⟨by ext; simp [setOf, staleWallets],
    (wallets_rebuilt (schedule_interleaves ..) (by decide +kernel) sample_done "owner").2.2.1
      (some true) rfl rfl⟩

end Sample

end Runs

end RcProtocol.WalletRebuilds
