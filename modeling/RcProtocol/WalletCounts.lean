import RcProtocol.Api.WalletSnapshot
import RcProtocol.Library.Endings
import RcProtocol.Ownership
import Mathlib.Data.List.Dedup

/-!
The count of a wallet against its set. The set is asked to add or remove a member and the
count is moved whatever the set has answered, so that the two stay together only where each
request changes the set.
-/

namespace RcProtocol
open Library

/-- The operations on a wallet, on a Redis that answers. -/
inductive SnapshotOp where
  | addAsset (userId assetId : String) (score : Int)
  | removeAsset (userId assetId : String)
  | onAssetStateChange (assetId : String) (oldOwner newOwner : Option String) (createdAt : Int)
  | rebuildForUser (userId : String) (assetPairs : List Scored)

def SnapshotOp.program : SnapshotOp → Program wallet Unit
  | addAsset userId assetId score => (WalletSnapshot.mk true).addAsset userId assetId score
  | removeAsset userId assetId => (WalletSnapshot.mk true).removeAsset userId assetId
  | onAssetStateChange assetId oldOwner newOwner createdAt =>
      (WalletSnapshot.mk true).onAssetStateChange assetId oldOwner newOwner createdAt
  | rebuildForUser userId assetPairs =>
      ((WalletSnapshot.mk true).rebuildForUser userId assetPairs).map fun _ => ()

/-- Redis at the times it is asked; the database stays as it is. -/
def snapshotMachine (createdAt : String → Int) (s : Store) : Machine wallet Wallets where
  Env := String
  exec now op w := walletExec createdAt { now := now } op s w

/-- The sets of the wallets and their counts, where a missing count is zero. -/
@[ext]
structure Tally where
  sets : String → List Scored
  count : String → Int

def Wallets.tally (w : Wallets) : Tally := ⟨w.sets, fun userId => (w.hash userId).assetCount.getD 0⟩

namespace Tally

def members (t : Tally) (userId : String) : List String := (t.sets userId).map (·.1)

def add (t : Tally) (userId assetId : String) (score : Int) : Tally where
  sets := Function.update t.sets userId (zadd assetId score (t.sets userId))
  count := Function.update t.count userId (t.count userId + 1)

def remove (t : Tally) (userId assetId : String) : Tally where
  sets := Function.update t.sets userId (zrem assetId (t.sets userId))
  count := Function.update t.count userId (t.count userId - 1)

def zaddAll (assetPairs : List Scored) (set : List Scored) : List Scored :=
  assetPairs.foldl (fun set pair => zadd pair.1 pair.2 set) set

def rebuild (t : Tally) (userId : String) (assetPairs : List Scored) : Tally where
  sets := Function.update t.sets userId (zaddAll assetPairs [])
  count := Function.update t.count userId assetPairs.length

def change (t : Tally) (assetId : String) (oldOwner newOwner : Option String) (createdAt : Int) :
    Tally :=
  let t := oldOwner.elim t fun old => t.remove old assetId
  newOwner.elim t fun new => t.add new assetId createdAt

def step (t : Tally) : SnapshotOp → Tally
  | .addAsset userId assetId score => t.add userId assetId score
  | .removeAsset userId assetId => t.remove userId assetId
  | .onAssetStateChange assetId oldOwner newOwner createdAt =>
      t.change assetId oldOwner newOwner createdAt
  | .rebuildForUser userId assetPairs => t.rebuild userId assetPairs

end Tally

section Endings
variable {createdAt : String → Int} {s : Store} {w w' : Wallets} {userId assetId : String}
  {score : Int} {assetPairs : List Scored} {u : Unit}

theorem hash_setHash {other : String} {hash : Option WalletHash} :
    (w.setHash userId hash).hash other = if other = userId then hash.getD {} else w.hash other := by
  simp only [Wallets.hash, Wallets.setHash, Function.update_apply]
  split <;> rfl

theorem tally_incrementCount (delta : Int) :
    (w.incrementCount userId delta).tally =
      ⟨w.sets, Function.update w.tally.count userId (w.tally.count userId + delta)⟩ := by
  have hcount : (w.incrementCount userId delta).tally.count =
      Function.update w.tally.count userId (w.tally.count userId + delta) := by
    funext other
    simp only [Wallets.tally, Wallets.incrementCount, hash_setHash, Function.update_apply]
    split <;> rfl
  exact Tally.ext rfl hcount

theorem tally_setUpdatedAt (now : String) : (w.setUpdatedAt userId now).tally = w.tally := by
  have hcount : (w.setUpdatedAt userId now).tally.count = w.tally.count := by
    funext other
    simp only [Wallets.tally, Wallets.setUpdatedAt, hash_setHash]
    split
    · next h => rw [h, Option.getD_some]
    · rfl
  exact Tally.ext rfl hcount

section Commands
variable {r : Except String Unit}

theorem ends_zadd
    (h : (snapshotMachine createdAt s).Ends (askWallet (.zadd userId assetId score)) w r w') :
    r = .ok () ∧ w' = w.setSet userId (zadd assetId score (w.sets userId)) := by
  obtain ⟨now, h⟩ := Machine.ends_perform.mp h
  cases h
  exact ⟨rfl, rfl⟩

theorem ends_zrem (h : (snapshotMachine createdAt s).Ends (askWallet (.zrem userId assetId)) w r w') :
    r = .ok () ∧ w' = w.setSet userId (zrem assetId (w.sets userId)) := by
  obtain ⟨now, h⟩ := Machine.ends_perform.mp h
  cases h
  exact ⟨rfl, rfl⟩

theorem ends_hincrby {delta : Int}
    (h : (snapshotMachine createdAt s).Ends (askWallet (.hincrby userId delta)) w r w') :
    w' = w.incrementCount userId delta := by
  obtain ⟨now, h⟩ := Machine.ends_perform.mp h
  cases h
  rfl

theorem ends_hsetUpdatedAt
    (h : (snapshotMachine createdAt s).Ends (askWallet (.hsetUpdatedAt userId)) w r w') :
    ∃ now, w' = w.setUpdatedAt userId now := by
  obtain ⟨now, h⟩ := Machine.ends_perform.mp h
  cases h
  exact ⟨now, rfl⟩

theorem ends_delSet (h : (snapshotMachine createdAt s).Ends (askWallet (.delSet userId)) w r w') :
    r = .ok () ∧ w' = w.setSet userId [] := by
  obtain ⟨now, h⟩ := Machine.ends_perform.mp h
  cases h
  exact ⟨rfl, rfl⟩

theorem ends_delHash (h : (snapshotMachine createdAt s).Ends (askWallet (.delHash userId)) w r w') :
    r = .ok () ∧ w' = w.setHash userId none := by
  obtain ⟨now, h⟩ := Machine.ends_perform.mp h
  cases h
  exact ⟨rfl, rfl⟩

theorem ends_hsetMultiple {assetCount : Nat}
    (h : (snapshotMachine createdAt s).Ends (askWallet (.hsetMultiple userId assetCount)) w r w') :
    r = .ok () ∧ ∃ now, w' = w.setHash userId (some ⟨some assetCount, some now⟩) := by
  obtain ⟨now, h⟩ := Machine.ends_perform.mp h
  cases h
  exact ⟨rfl, now, rfl⟩

end Commands

theorem ends_addAsset
    (h : (snapshotMachine createdAt s).Ends ((WalletSnapshot.mk true).addAsset userId assetId score) w u
      w') : w'.tally = w.tally.add userId assetId score := by
  rw [WalletSnapshot.addAsset, if_pos rfl] at h
  obtain ⟨r, w₁, hadd, h⟩ := Machine.ends_bind.mp h
  obtain ⟨rfl, rfl⟩ := ends_zadd hadd
  obtain ⟨_, w₂, hcount, h⟩ := Machine.ends_bind.mp h
  obtain rfl := ends_hincrby hcount
  obtain ⟨_, hupdated, -⟩ := Machine.ends_map.mp h
  obtain ⟨now, rfl⟩ := ends_hsetUpdatedAt hupdated
  rw [tally_setUpdatedAt, tally_incrementCount]
  rfl

theorem ends_removeAsset
    (h : (snapshotMachine createdAt s).Ends ((WalletSnapshot.mk true).removeAsset userId assetId) w u
      w') : w'.tally = w.tally.remove userId assetId := by
  rw [WalletSnapshot.removeAsset, if_pos rfl] at h
  obtain ⟨r, w₁, hremove, h⟩ := Machine.ends_bind.mp h
  obtain ⟨rfl, rfl⟩ := ends_zrem hremove
  obtain ⟨_, hcount, -⟩ := Machine.ends_map.mp h
  obtain rfl := ends_hincrby hcount
  rw [tally_incrementCount]
  rfl

theorem ends_onAssetStateChange {oldOwner newOwner : Option String}
    (h : (snapshotMachine createdAt s).Ends
      ((WalletSnapshot.mk true).onAssetStateChange assetId oldOwner newOwner score) w u w') :
    w'.tally = w.tally.change assetId oldOwner newOwner score := by
  obtain ⟨_, w₁, hremove, hadd⟩ := Machine.ends_bind.mp h
  have hremoved : w₁.tally = oldOwner.elim w.tally fun old => w.tally.remove old assetId := by
    cases oldOwner with
    | none =>
        obtain ⟨-, rfl⟩ := hremove
        rfl
    | some old => exact ends_removeAsset hremove
  rw [Tally.change, ← hremoved]
  cases newOwner with
  | none =>
      obtain ⟨-, rfl⟩ := hadd
      rfl
  | some new => exact ends_addAsset hadd

/-- By induction on what is left to add. -/
theorem ends_zaddAll {r : Except String Unit}
    (h : (snapshotMachine createdAt s).Ends (WalletSnapshot.zaddAll userId assetPairs) w r w') :
    r = .ok () ∧ w'.hashes = w.hashes ∧
      w'.sets = Function.update w.sets userId (Tally.zaddAll assetPairs (w.sets userId)) := by
  induction assetPairs generalizing w with
  | nil =>
      obtain ⟨rfl, rfl⟩ := h
      exact ⟨rfl, rfl, (Function.update_eq_self userId w'.sets).symm⟩
  | cons pair rest ih =>
      obtain ⟨e, hadd, -⟩ | ⟨_, w₁, hadd, hrest⟩ := Machine.ends_attempt.mp h
      · obtain ⟨h, -⟩ := ends_zadd hadd
        cases h
      · obtain ⟨-, rfl⟩ := ends_zadd hadd
        obtain ⟨hr, hhashes, hsets⟩ := ih hrest
        refine ⟨hr, hhashes, hsets.trans ?_⟩
        simp only [Wallets.setSet, Function.update_idem, Function.update_self, Tally.zaddAll,
          List.foldl_cons]

theorem ends_rebuildForUser {r : Except String Unit}
    (h : (snapshotMachine createdAt s).Ends
      ((WalletSnapshot.mk true).rebuildForUser userId assetPairs) w r w') :
    w'.tally = w.tally.rebuild userId assetPairs := by
  rw [WalletSnapshot.rebuildForUser, if_pos rfl] at h
  obtain ⟨e, hset, -⟩ | ⟨_, w₁, hset, h⟩ := Machine.ends_attempt.mp h
  · cases (ends_delSet hset).1
  obtain ⟨-, rfl⟩ := ends_delSet hset
  obtain ⟨e, hhash, -⟩ | ⟨_, w₂, hhash, h⟩ := Machine.ends_attempt.mp h
  · cases (ends_delHash hhash).1
  obtain ⟨-, rfl⟩ := ends_delHash hhash
  obtain ⟨e, hadd, -⟩ | ⟨_, w₃, hadd, h⟩ := Machine.ends_attempt.mp h
  · cases (ends_zaddAll hadd).1
  obtain ⟨-, hhashes, hsets⟩ := ends_zaddAll hadd
  obtain ⟨e, hcount, -⟩ | ⟨_, w₄, hcount, h⟩ := Machine.ends_attempt.mp h
  · cases (ends_hsetMultiple hcount).1
  obtain ⟨-, now, rfl⟩ := ends_hsetMultiple hcount
  obtain ⟨-, rfl⟩ := h
  apply Tally.ext
  · show w₃.sets = _
    rw [hsets]
    simp only [Wallets.setSet, Wallets.setHash, Function.update_self, Function.update_idem]
    rfl
  · funext other
    simp only [Wallets.tally, Wallets.hash, Wallets.setHash, Tally.rebuild, Function.update_apply,
      hhashes]
    split
    · rfl
    · simp only [Wallets.setSet]

/-- On a Redis that answers, an operation is a step of the tally. -/
theorem ends_program {op : SnapshotOp} (h : (snapshotMachine createdAt s).Ends op.program w u w') :
    w'.tally = w.tally.step op := by
  cases op with
  | addAsset userId assetId score => exact ends_addAsset h
  | removeAsset userId assetId => exact ends_removeAsset h
  | onAssetStateChange assetId oldOwner newOwner createdAt => exact ends_onAssetStateChange h
  | rebuildForUser userId assetPairs =>
      obtain ⟨_, h, -⟩ := Machine.ends_map.mp h
      exact ends_rebuildForUser h

end Endings

theorem members_zrem {assetId : String} {set : List Scored} :
    (zrem assetId set).map (·.1) = (set.map (·.1)).filter (· ≠ assetId) := by
  induction set with
  | nil => rfl
  | cons pair rest ih =>
      by_cases h : pair.1 = assetId
      · have hrem : zrem assetId (pair :: rest) = zrem assetId rest :=
          List.filter_cons_of_neg (by simp [h])
        rw [hrem, List.map_cons, List.filter_cons_of_neg (by simp [h]), ih]
      · have hkeep : zrem assetId (pair :: rest) = pair :: zrem assetId rest :=
          List.filter_cons_of_pos (by simp [h])
        rw [hkeep, List.map_cons, List.map_cons, List.filter_cons_of_pos (by simp [h]), ih]

theorem members_zadd {assetId : String} {score : Int} {set : List Scored} :
    ((zadd assetId score set).map (·.1)).Perm (assetId :: (zrem assetId set).map (·.1)) :=
  (List.perm_orderedInsert Outranks _ _).map (·.1)

theorem nodup_zrem {assetId : String} {set : List Scored} (h : (set.map (·.1)).Nodup) :
    ((zrem assetId set).map (·.1)).Nodup := by
  rw [members_zrem]
  exact h.filter _

theorem nodup_zadd {assetId : String} {score : Int} {set : List Scored}
    (h : (set.map (·.1)).Nodup) : ((zadd assetId score set).map (·.1)).Nodup := by
  rw [members_zadd.nodup_iff, List.nodup_cons]
  refine ⟨?_, nodup_zrem h⟩
  rw [members_zrem, List.mem_filter]
  intro hmem
  simp at hmem

/-- What `ZREM` would answer. -/
theorem length_zrem {assetId : String} {set : List Scored} (h : (set.map (·.1)).Nodup) :
    ((zrem assetId set).length : Int) =
      set.length - if assetId ∈ set.map (·.1) then 1 else 0 := by
  have hlength : (zrem assetId set).length = ((set.map (·.1)).erase assetId).length := by
    rw [h.erase_eq_filter, ← List.length_map (·.1), members_zrem]
    congr 1
    apply List.filter_congr
    intro a _
    simp only [ne_eq, decide_not, bne, beq_eq_decide]
  rw [hlength, List.length_erase, List.length_map]
  split
  · next hmem =>
      have hpos : 0 < set.length := by simpa using List.length_pos_of_mem hmem
      omega
  · omega

/-- What `ZADD` would answer. -/
theorem length_zadd {assetId : String} {score : Int} {set : List Scored}
    (h : (set.map (·.1)).Nodup) :
    ((zadd assetId score set).length : Int) =
      set.length + if assetId ∈ set.map (·.1) then 0 else 1 := by
  have hlength : (zadd assetId score set).length = (zrem assetId set).length + 1 :=
    List.orderedInsert_length ..
  rw [hlength, Int.natCast_succ, length_zrem h]
  split <;> omega

/-- By induction on what is left to add. -/
theorem members_zaddAll {assetPairs set : List Scored} (h : (set.map (·.1)).Nodup) :
    ((Tally.zaddAll assetPairs set).map (·.1)).Nodup ∧ ∀ a : String,
      a ∈ (Tally.zaddAll assetPairs set).map (·.1) ↔
        a ∈ assetPairs.map (·.1) ∨ a ∈ set.map (·.1) := by
  induction assetPairs generalizing set with
  | nil =>
      refine ⟨h, ?_⟩
      intro a
      simp only [Tally.zaddAll, List.foldl_nil, List.map_nil, List.not_mem_nil, false_or]
  | cons pair rest ih =>
      have hadd : ((zadd pair.1 pair.2 set).map (·.1)).Nodup := nodup_zadd h
      obtain ⟨hnodup, hmem⟩ := ih hadd
      refine ⟨hnodup, ?_⟩
      intro a
      refine (hmem a).trans ?_
      rw [mem_zadd, List.map_cons, List.mem_cons]
      tauto

/-- A list of pairs makes as long a set exactly where it repeats no member. -/
theorem length_zaddAll {assetPairs : List Scored} :
    (Tally.zaddAll assetPairs []).length = assetPairs.length ↔ (assetPairs.map (·.1)).Nodup := by
  obtain ⟨hnodup, hmem⟩ := @members_zaddAll assetPairs [] List.nodup_nil
  have hperm : ((Tally.zaddAll assetPairs []).map (·.1)).Perm (assetPairs.map (·.1)).dedup := by
    rw [List.perm_ext_iff_of_nodup hnodup (List.nodup_dedup _)]
    intro a
    simpa using hmem a
  have hpairs : assetPairs.length = (assetPairs.map (·.1)).length := (List.length_map _).symm
  rw [← List.length_map (·.1), hperm.length_eq, hpairs]
  constructor
  · intro h
    exact List.dedup_eq_self.mp ((List.dedup_sublist _).eq_of_length h)
  · intro h
    rw [h.dedup]

namespace Tally
variable {t : Tally} {userId assetId : String} {score : Int}

def Distinct (t : Tally) : Prop := ∀ userId, (t.members userId).Nodup

/-- By how much the count is ahead of the set. -/
def gap (t : Tally) (userId : String) : Int := t.count userId - (t.sets userId).length

theorem gap_add (h : t.Distinct) (other : String) :
    (t.add userId assetId score).gap other =
      t.gap other + if other = userId ∧ assetId ∈ t.members userId then 1 else 0 := by
  simp only [gap, add, Function.update_apply]
  by_cases ho : other = userId
  · subst ho
    rw [if_pos rfl, if_pos rfl, length_zadd (h other)]
    simp only [members, true_and]
    split <;> omega
  · rw [if_neg ho, if_neg ho, if_neg fun h => ho h.1, Int.add_zero]

theorem gap_remove (h : t.Distinct) (other : String) :
    (t.remove userId assetId).gap other =
      t.gap other - if other = userId ∧ assetId ∉ t.members userId then 1 else 0 := by
  simp only [gap, remove, Function.update_apply]
  by_cases ho : other = userId
  · subst ho
    rw [if_pos rfl, if_pos rfl, length_zrem (h other)]
    simp only [members, true_and]
    by_cases hmem : assetId ∈ (t.sets other).map (·.1)
    · rw [if_pos hmem, if_neg (not_not_intro hmem)]
      omega
    · rw [if_neg hmem, if_pos hmem]
      omega
  · rw [if_neg ho, if_neg ho, if_neg fun h => ho h.1, Int.sub_zero]

theorem distinct_update {set : List Scored} {count : String → Int} (h : t.Distinct)
    (hset : (set.map (·.1)).Nodup) :
    Distinct ⟨Function.update t.sets userId set, count⟩ := by
  intro other
  simp only [members, Function.update_apply]
  split
  · exact hset
  · exact h other

theorem distinct_add (h : t.Distinct) : (t.add userId assetId score).Distinct :=
  distinct_update h (nodup_zadd (h userId))

theorem distinct_remove (h : t.Distinct) : (t.remove userId assetId).Distinct :=
  distinct_update h (nodup_zrem (h userId))

theorem distinct_step (h : t.Distinct) (op : SnapshotOp) : (t.step op).Distinct := by
  cases op with
  | addAsset userId assetId score => exact distinct_add h
  | removeAsset userId assetId => exact distinct_remove h
  | onAssetStateChange assetId oldOwner newOwner createdAt =>
      cases oldOwner <;> cases newOwner
      · exact h
      · exact distinct_add h
      · exact distinct_remove h
      · exact distinct_add (distinct_remove h)
  | rebuildForUser userId assetPairs =>
      exact distinct_update h (@members_zaddAll assetPairs [] List.nodup_nil).1

end Tally

/-- The operation changes the set by as many members as it moves the count. -/
def SnapshotOp.Fits (t : Tally) : SnapshotOp → Prop
  | .addAsset userId assetId _ => assetId ∉ t.members userId
  | .removeAsset userId assetId => assetId ∈ t.members userId
  | .onAssetStateChange assetId oldOwner newOwner _ =>
      (∀ old ∈ oldOwner, assetId ∈ t.members old) ∧
        ∀ new ∈ newOwner, new ∉ oldOwner → assetId ∉ t.members new
  | .rebuildForUser _ assetPairs => (assetPairs.map (·.1)).Nodup

/-- `asset_count` is the number of members, and not negative. -/
def Wallets.Counted (w : Wallets) : Prop := ∀ userId,
  (w.hash userId).assetCount.getD 0 = (w.members userId).length ∧
    0 ≤ (w.hash userId).assetCount.getD 0

theorem counted_iff {w : Wallets} : w.Counted ↔ ∀ userId, w.tally.gap userId = 0 := by
  apply forall_congr'
  intro userId
  have hlength : (w.members userId).length = (w.sets userId).length := List.length_map _
  simp only [Wallets.tally, Tally.gap, hlength]
  omega

namespace Tally
variable {t : Tally} {userId assetId : String}

theorem members_remove (other : String) : assetId ∈ (t.remove userId assetId).members other ↔
    other ≠ userId ∧ assetId ∈ t.members other := by
  by_cases ho : other = userId
  · subst ho
    simp only [members, remove, Function.update_self, members_zrem, List.mem_filter]
    simp
  · simp only [members, remove, Function.update_of_ne ho, ne_eq, ho, not_false_iff, true_and]

/-- The owner who loses the asset and the one who gets it are settled apart, except where
they are one. -/
theorem gap_change (h : t.Distinct) (hgap : ∀ other, t.gap other = 0)
    (oldOwner newOwner : Option String)
    (createdAt : Int) :
    (∀ other, (t.change assetId oldOwner newOwner createdAt).gap other = 0) ↔
      (∀ old ∈ oldOwner, assetId ∈ t.members old) ∧
        ∀ new ∈ newOwner, new ∉ oldOwner → assetId ∉ t.members new := by
  cases oldOwner with
  | none =>
      cases newOwner with
      | none => simpa [change] using hgap
      | some new => simp [change, gap_add h, hgap]
  | some old =>
      cases newOwner with
      | none => simp [change, gap_remove h, hgap]
      | some new =>
          simp only [change, Option.elim_some, gap_add (distinct_remove h), gap_remove h, hgap,
            members_remove, Option.mem_some_iff, forall_eq']
          constructor
          · intro hzero
            constructor
            · by_contra hold
              have := hzero old
              simp only [hold, not_false_iff, and_self, if_true] at this
              by_cases h : old = new ∧ new ≠ old
              · exact h.2 h.1.symm
              · rw [if_neg fun h' => h ⟨h'.1, h'.2.1⟩] at this
                omega
            · intro hne hnew
              have hne' : new ≠ old := Ne.symm hne
              have := hzero new
              simp only [hne', hnew, false_and, if_false, and_self, not_false_iff, ne_eq,
                if_true] at this
              omega
          · rintro ⟨hold, hnew⟩ other
            rw [if_neg fun h => h.2 hold, if_neg]
            · rfl
            · rintro ⟨-, hne, hmem⟩
              exact hnew (Ne.symm hne) hmem

theorem gap_step (h : t.Distinct) (hgap : ∀ other, t.gap other = 0) (op : SnapshotOp) :
    (∀ other, (t.step op).gap other = 0) ↔ op.Fits t := by
  cases op with
  | addAsset userId assetId score => simp [step, SnapshotOp.Fits, gap_add h, hgap]
  | removeAsset userId assetId => simp [step, SnapshotOp.Fits, gap_remove h, hgap]
  | onAssetStateChange assetId oldOwner newOwner createdAt => exact gap_change h hgap ..
  | rebuildForUser userId assetPairs =>
      have hother (other : String) (hne : other ≠ userId) :
          (t.rebuild userId assetPairs).gap other = 0 := by
        simp only [gap, rebuild, Function.update_of_ne hne]
        exact hgap other
      have hself : (t.rebuild userId assetPairs).gap userId = 0 ↔
          (Tally.zaddAll assetPairs []).length = assetPairs.length := by
        simp only [gap, rebuild, Function.update_self]
        omega
      rw [SnapshotOp.Fits, ← length_zaddAll, ← hself]
      constructor
      · intro hzero
        exact hzero userId
      · intro hzero other
        by_cases ho : other = userId
        · exact ho ▸ hzero
        · exact hother other ho

end Tally

section Runs
variable {createdAt : String → Int} {s : Store}

/-- Operations one after the other from empty wallets, each with the wallets it found. -/
inductive SnapshotRun (createdAt : String → Int) (s : Store) :
    List (Wallets × SnapshotOp) → Wallets → Prop
  | start : SnapshotRun createdAt s [] {}
  | step {history : List (Wallets × SnapshotOp)} {w w' : Wallets} {op : SnapshotOp} {u : Unit}
      (run : SnapshotRun createdAt s history w)
      (ends : (snapshotMachine createdAt s).Ends op.program w u w') :
      SnapshotRun createdAt s (history ++ [(w, op)]) w'

variable {history : List (Wallets × SnapshotOp)} {w : Wallets}

theorem SnapshotRun.distinct (run : SnapshotRun createdAt s history w) : w.tally.Distinct := by
  induction run with
  | start =>
      intro userId
      exact List.nodup_nil
  | step run ends ih =>
      rw [ends_program ends]
      exact Tally.distinct_step ih _

/-- The counts are right all along exactly where every operation fits what it found. -/
theorem snapshot_counts_iff (run : SnapshotRun createdAt s history w) :
    (w.Counted ∧ ∀ found ∈ history, found.1.Counted) ↔
      ∀ found ∈ history, found.2.Fits found.1.tally := by
  induction run with
  | start =>
      simp only [List.not_mem_nil, false_implies, implies_true, and_true, iff_true]
      exact counted_iff.mpr fun userId => rfl
  | @step history w w' op u run ends ih =>
      simp only [List.mem_append, List.mem_singleton, or_imp, forall_and, forall_eq]
      have hstep (hcounted : w.Counted) : w'.Counted ↔ op.Fits w.tally := by
        rw [counted_iff, ends_program ends]
        exact Tally.gap_step run.distinct (counted_iff.mp hcounted) op
      constructor
      · rintro ⟨hw', hbefore, hw⟩
        exact ⟨ih.mp ⟨hw, hbefore⟩, (hstep hw).mp hw'⟩
      · rintro ⟨hfits, hop⟩
        obtain ⟨hw, hbefore⟩ := ih.mpr hfits
        exact ⟨(hstep hw).mpr hop, hbefore, hw⟩

end Runs

/-- An asset that comes and goes. -/
theorem snapshot_counts_iff_removed :
    let empty : Wallets := {}
    let added := (snapshotMachine (fun _ => 0) ownedStore).run
      (SnapshotOp.addAsset "u" "a" 7).program (fun _ => "t") empty
    let removed := (snapshotMachine (fun _ => 0) ownedStore).run
      (SnapshotOp.removeAsset "u" "a").program (fun _ => "t") added.state
    (removed.state.Counted ∧ ∀ found ∈ [(empty, .addAsset "u" "a" 7),
      (added.state, SnapshotOp.removeAsset "u" "a")], found.1.Counted) ↔
      ∀ found ∈ [(empty, .addAsset "u" "a" 7), (added.state, SnapshotOp.removeAsset "u" "a")],
        found.2.Fits found.1.tally :=
  snapshot_counts_iff ((SnapshotRun.start.step (Machine.ends_run ..)).step (Machine.ends_run ..))

/-- The same asset added twice: two are counted and one is there. -/
theorem twice_added_counts_two :
    ∃ history w, SnapshotRun (fun _ => 0) ownedStore history w ∧
      history.map (·.2) = [.addAsset "u" "a" 7, .addAsset "u" "a" 7] ∧
      (w.hash "u").assetCount = some 2 ∧ w.members "u" = ["a"] ∧ ¬ w.Counted := by
  have once := @SnapshotRun.step (fun _ => 0) ownedStore [] {} _ (.addAsset "u" "a" 7) _ .start
    (Machine.ends_run _ (fun _ => "t") _)
  have twice := @SnapshotRun.step _ _ _ _ _ (.addAsset "u" "a" 7) _ once
    (Machine.ends_run _ (fun _ => "t") _)
  refine ⟨_, _, twice, rfl, rfl, rfl, ?_⟩
  intro h
  have hcount := (h "u").1
  revert hcount
  decide

end RcProtocol
