import Mathlib.Algebra.Group.Int.Defs
import RcProtocol.WalletCounts
import RcProtocol.Library.Ranks

/-!
The pages of a wallet against those of the database. Redis sorts by the second of an asset
and then by its id, the database by the time itself, so that the two part only among assets
of one second.
-/

namespace RcProtocol
open Library

theorem outranks_trans {a b c : Scored} (hab : Outranks a b) (hbc : Outranks b c) :
    Outranks a c := by
  simp only [Outranks] at *
  obtain hab | ⟨hab, hab'⟩ := hab <;> obtain hbc | ⟨hbc, hbc'⟩ := hbc
  · exact .inl (by omega)
  · exact .inl (by omega)
  · exact .inl (by omega)
  · exact .inr ⟨by omega, String.lt_trans hbc' hab'⟩

theorem outranks_asymm {a b : Scored} (hab : Outranks a b) : ¬Outranks b a := by
  simp only [Outranks] at *
  obtain hab | ⟨hab, hab'⟩ := hab
  · omega
  · rintro (hba | ⟨-, hba⟩)
    · omega
    · exact String.lt_asymm hab' hba

theorem outranks_connex {a b : Scored} (hne : a.1 ≠ b.1) (hab : ¬Outranks a b) : Outranks b a := by
  simp only [Outranks, not_or, not_and] at *
  by_cases hscore : a.2 = b.2
  · refine .inr ⟨hscore.symm, ?_⟩
    by_contra hlt
    exact hne (String.le_antisymm (String.not_lt.mp (hab.2 hscore)) (String.not_lt.mp hlt))
  · exact .inl (by omega)

theorem zadd_sorted {assetId : String} {score : Int} {set : List Scored}
    (h : set.Pairwise Outranks) : (zadd assetId score set).Pairwise Outranks := by
  refine pairwise_orderedInsert (fun _ _ _ => outranks_trans) (h.filter _) ?_
  intro b hb
  have hne : b.1 ≠ assetId := by simpa using (List.mem_filter.mp hb).2
  exact outranks_connex (Ne.symm hne)

theorem zaddAll_sorted {assetPairs set : List Scored} (h : set.Pairwise Outranks) :
    (Tally.zaddAll assetPairs set).Pairwise Outranks := by
  induction assetPairs generalizing set with
  | nil => exact h
  | cons pair rest ih => exact ih (zadd_sorted h)

theorem zaddAll_perm {assetPairs set : List Scored} (h : ((assetPairs ++ set).map (·.1)).Nodup) :
    (Tally.zaddAll assetPairs set).Perm (assetPairs ++ set) := by
  induction assetPairs generalizing set with
  | nil => exact .refl _
  | cons pair rest ih =>
      rw [List.cons_append, List.map_cons, List.nodup_cons, List.map_append, List.mem_append,
        not_or] at h
      have hkeep : set.filter (·.1 ≠ pair.1) = set := by
        rw [List.filter_eq_self]
        intro b hb
        have hne : b.1 ≠ pair.1 := fun hb' => h.1.2 (hb' ▸ List.mem_map_of_mem hb)
        simpa using hne
      have hadd : (zadd pair.1 pair.2 set).Perm (pair :: set) := by
        rw [zadd, hkeep]
        exact List.perm_orderedInsert Outranks _ _
      have hperm : (rest ++ zadd pair.1 pair.2 set).Perm (pair :: (rest ++ set)) :=
        (hadd.append_left rest).trans List.perm_middle
      refine (ih ?_).trans hperm
      rw [(hperm.map (·.1)).nodup_iff, List.map_cons, List.nodup_cons, List.map_append,
        List.mem_append, not_or]
      exact h

section Orders
variable {createdAt : String → Int} {ids : List String} {a b x : String}

/-- An asset with the score that a rebuild gives it. -/
def scored (createdAt : String → Int) (id : String) : Scored := (id, epochSeconds (createdAt id))

/-- How many of the assets are newer. -/
def newer (createdAt : String → Int) (ids : List String) (x : String) : Nat :=
  ids.countP fun a => createdAt x < createdAt a

/-- How many of the assets of its second are newer. -/
def newerInSecond (createdAt : String → Int) (ids : List String) (x : String) : Nat :=
  ids.countP fun a => epochSeconds (createdAt a) = epochSeconds (createdAt x) ∧
    createdAt x < createdAt a

/-- How many of the assets of its second have a greater id. -/
def greaterInSecond (createdAt : String → Int) (ids : List String) (x : String) : Nat :=
  ids.countP fun a => epochSeconds (createdAt a) = epochSeconds (createdAt x) ∧ x < a

theorem epochSeconds_mono {m n : Int} (h : m ≤ n) : epochSeconds m ≤ epochSeconds n := by
  simp only [epochSeconds]
  split <;> split <;> omega

theorem newer_iff : createdAt x < createdAt a ↔
    epochSeconds (createdAt x) < epochSeconds (createdAt a) ∨
      (epochSeconds (createdAt a) = epochSeconds (createdAt x) ∧ createdAt x < createdAt a) := by
  constructor
  · intro h
    have hmono := epochSeconds_mono h.le
    omega
  · rintro (h | ⟨-, h⟩)
    · by_contra hle
      have hmono := epochSeconds_mono (Int.not_lt.mp hle)
      omega
    · exact h

/-- Before an asset both orders have the assets of later seconds. -/
theorem newer_eq : newer createdAt ids x =
    ids.countP (fun a => epochSeconds (createdAt x) < epochSeconds (createdAt a)) +
      newerInSecond createdAt ids x := by
  rw [newerInSecond, ← countP_or fun a hlater heq => by omega]
  exact List.countP_congr fun a _ => by simpa using newer_iff

theorem countP_outranks :
    ids.countP (fun a => Outranks (scored createdAt a) (scored createdAt x)) =
      ids.countP (fun a => epochSeconds (createdAt x) < epochSeconds (createdAt a)) +
        greaterInSecond createdAt ids x := by
  rw [greaterInSecond, ← countP_or fun a hlater heq => by omega]
  rfl

theorem idxOf_newest {rows : List String} (hperm : rows.Perm ids)
    (hsorted : rows.Pairwise fun a b => createdAt b < createdAt a) (hx : x ∈ rows) :
    rows.idxOf x = newer createdAt ids x := by
  rw [idxOf_eq_countP hsorted (fun a b hab hba => by omega) hx, hperm.countP_eq]
  rfl

theorem idxOf_ranked {members : List String} (hperm : members.Perm ids)
    (hsorted : (members.map (scored createdAt)).Pairwise Outranks) (hx : x ∈ members) :
    members.idxOf x =
      ids.countP (fun a => epochSeconds (createdAt x) < epochSeconds (createdAt a)) +
        greaterInSecond createdAt ids x := by
  rw [idxOf_eq_countP (List.pairwise_map.mp hsorted) (fun a b hab => outranks_asymm hab) hx,
    hperm.countP_eq, countP_outranks]

/-- The two orders agree on a page exactly where each of its assets has as many newer as
greater assets in its second. -/
theorem slice_orders_iff {rows members : List String} {size offset : Nat} (hnodup : ids.Nodup)
    (hrows : rows.Perm ids) (hnewest : rows.Pairwise fun a b => createdAt b < createdAt a)
    (hmembers : members.Perm ids) (hranked : (members.map (scored createdAt)).Pairwise Outranks) :
    slice size offset members = slice size offset rows ↔
      ∀ x ∈ ids, offset ≤ newer createdAt ids x → newer createdAt ids x < offset + size →
        newerInSecond createdAt ids x = greaterInSecond createdAt ids x := by
  rw [eq_comm, slice_eq_iff (hrows.nodup_iff.mpr hnodup) (hrows.trans hmembers.symm)]
  have hplaces (x : String) (hx : x ∈ ids) : rows.idxOf x = newer createdAt ids x ∧
      (rows.idxOf x = members.idxOf x ↔
        newerInSecond createdAt ids x = greaterInSecond createdAt ids x) := by
    have hrow := idxOf_newest hrows hnewest (hrows.mem_iff.mpr hx)
    refine ⟨hrow, ?_⟩
    rw [hrow, newer_eq, idxOf_ranked hmembers hranked (hmembers.mem_iff.mpr hx)]
    omega
  constructor
  · intro h x hx hfrom hto
    obtain ⟨hplace, hiff⟩ := hplaces x hx
    exact hiff.mp (h x (hrows.mem_iff.mpr hx) (by omega) (by omega))
  · intro h x hx hfrom hto
    obtain ⟨hplace, hiff⟩ := hplaces x (hrows.mem_iff.mp hx)
    exact hiff.mpr (h x (hrows.mem_iff.mp hx) (by omega) (by omega))

end Orders

section Rebuilt
variable {createdAt : String → Int} {s : Store} {w w' : Wallets} {userId : String}

theorem walletAnswer_ok {α : Type} {env : WalletEnv} {a b : α} {v v' : Wallets}
    (h : (walletAnswer env a, v) = (.ok b, v')) : b = a ∧ v' = v := by
  unfold walletAnswer at h
  split at h
  · cases h
  · cases h
    exact ⟨rfl, rfl⟩

theorem walletWrite_ok {env : WalletEnv} {v v' : Wallets} {u : Unit}
    (h : walletWrite env w v = (.ok u, v')) : v' = v := by
  unfold walletWrite at h
  split at h
  · cases h
  · cases h
    rfl

theorem ends_zaddAll_ok {assetPairs : List Scored} {u : Unit}
    (h : (timedMachine createdAt s).Ends (WalletSnapshot.zaddAll userId assetPairs) w (.ok u) w') :
    w'.sets userId = Tally.zaddAll assetPairs (w.sets userId) := by
  induction assetPairs generalizing w with
  | nil =>
      obtain ⟨-, rfl⟩ := h
      rfl
  | cons pair rest ih =>
      obtain ⟨_, w₁, hadd, hrest⟩ := Machine.ends_attempt_ok.mp h
      obtain ⟨env, hadd⟩ := Machine.ends_perform.mp hadd
      obtain rfl := walletWrite_ok hadd
      rw [ih hrest]
      simp only [Wallets.setSet, Function.update_self, Tally.zaddAll, List.foldl_cons]

theorem ends_rebuildForUser_ok {assetPairs : List Scored} {u : Unit}
    (h : (timedMachine createdAt s).Ends
      ((WalletSnapshot.mk true).rebuildForUser userId assetPairs) w (.ok u) w') :
    w'.sets userId = Tally.zaddAll assetPairs [] := by
  rw [WalletSnapshot.rebuildForUser, if_pos rfl] at h
  obtain ⟨_, w₁, hset, h⟩ := Machine.ends_attempt_ok.mp h
  obtain ⟨_, w₂, hhash, h⟩ := Machine.ends_attempt_ok.mp h
  obtain ⟨_, w₃, hadd, h⟩ := Machine.ends_attempt_ok.mp h
  obtain ⟨_, w₄, hcount, h⟩ := Machine.ends_attempt_ok.mp h
  obtain ⟨env, hset⟩ := Machine.ends_perform.mp hset
  obtain rfl := walletWrite_ok hset
  obtain ⟨env, hhash⟩ := Machine.ends_perform.mp hhash
  obtain rfl := walletWrite_ok hhash
  obtain ⟨env, hcount⟩ := Machine.ends_perform.mp hcount
  obtain rfl := walletWrite_ok hcount
  obtain ⟨-, rfl⟩ := h
  have hadded := ends_zaddAll_ok hadd
  simpa only [Wallets.sets_setHash, Wallets.setSet, Function.update_self] using hadded

/-- The set of a rebuild that has gone through. -/
theorem ends_rebuildFromPg_ok {u : Unit}
    (h : (timedMachine createdAt s).Ends ((WalletSnapshot.mk true).rebuildFromPg userId) w
      (.ok u) w') :
    w'.sets userId =
      Tally.zaddAll ((s.db.newestFirst createdAt userId).map (scored createdAt)) [] := by
  obtain ⟨rows, w₁, hrows, hrebuilt⟩ := Machine.ends_attempt_ok.mp h
  obtain ⟨env, hrows⟩ := Machine.ends_perform.mp hrows
  obtain ⟨rfl, -⟩ := walletAnswer_ok hrows
  exact ends_rebuildForUser_ok hrebuilt

theorem ownedAssets_nodup (db : Db) (userId : String) : (db.ownedAssets userId).Nodup := by
  rw [Db.ownedAssets, List.Nodup, List.pairwise_map, List.pairwise_reverse]
  refine (db.assets.unique.filter _).imp ?_
  intro a b hclash heq
  exact hclash (.inl heq.symm)

theorem newestFirst_perm (db : Db) (userId : String) :
    (db.newestFirst createdAt userId).Perm (db.ownedAssets userId) :=
  List.perm_insertionSort _ _

instance : Std.Total (NotOlder createdAt) := ⟨fun a b => Int.le_total (createdAt b) (createdAt a)⟩

instance : IsTrans String (NotOlder createdAt) := ⟨fun _ _ _ hab hbc => Int.le_trans hbc hab⟩

/-- Assets of distinct times are listed the newer one first. -/
theorem newestFirst_sorted {db : Db}
    (hdistinct : ((db.ownedAssets userId).map createdAt).Nodup) :
    (db.newestFirst createdAt userId).Pairwise fun a b => createdAt b < createdAt a := by
  have hsorted := List.pairwise_insertionSort (NotOlder createdAt) (db.ownedAssets userId)
  have hne : (db.newestFirst createdAt userId).Pairwise fun a b => createdAt a ≠ createdAt b :=
    List.pairwise_map.mp (((newestFirst_perm db userId).map createdAt).nodup_iff.mpr hdistinct)
  refine (hsorted.and hne).imp ?_
  rintro a b ⟨hle, hne⟩
  have hle' : createdAt b ≤ createdAt a := hle
  omega

/-- After a rebuild the set has the assets of the user in the order of Redis. -/
theorem rebuilt_members
    (h : w'.sets userId =
      Tally.zaddAll ((s.db.newestFirst createdAt userId).map (scored createdAt)) []) :
    (w'.members userId).Perm (s.db.ownedAssets userId) ∧
      ((w'.members userId).map (scored createdAt)).Pairwise Outranks := by
  have hids : ((s.db.newestFirst createdAt userId).map (scored createdAt)).map (·.1) =
      s.db.newestFirst createdAt userId := by
    rw [List.map_map]
    exact List.map_id _
  have hperm : (w'.sets userId).Perm ((s.db.newestFirst createdAt userId).map (scored createdAt)) := by
    rw [h]
    refine (zaddAll_perm ?_).trans (List.Perm.of_eq (List.append_nil _))
    rw [List.append_nil, hids]
    exact (newestFirst_perm _ _).nodup_iff.mpr (ownedAssets_nodup _ _)
  have hmembers : (w'.members userId).map (scored createdAt) = w'.sets userId := by
    rw [Wallets.members, List.map_map]
    conv_rhs => rw [← List.map_id (w'.sets userId)]
    apply List.map_congr_left
    intro pair hpair
    obtain ⟨id, -, rfl⟩ := List.mem_map.mp (hperm.mem_iff.mp hpair)
    rfl
  constructor
  · have hmapped := hperm.map (·.1)
    rw [hids] at hmapped
    exact hmapped.trans (newestFirst_perm _ _)
  · rw [hmembers, h]
    exact zaddAll_sorted .nil

end Rebuilt

section Shown
variable (createdAt : String → Int) (s : Store) (w : Wallets)

def listed : Event wallet → Option (List String)
  | ⟨.respond assets, _⟩ => some assets
  | _ => none

/-- The list a caller gets where both stores answer. -/
def shownBy (p : Program wallet Unit) : Option (List String) :=
  ((timedMachine createdAt s).run p (fun _ => ({} : WalletEnv)) w).log.findSome? listed

variable {createdAt s w} {userId : String} {page pageSize : Int}

/-- An operation that is no answer is followed by what its own answer leads to. -/
theorem shownBy_call {op : WalletOp} {next : op.Answer → Program wallet Unit} {answer : op.Answer}
    (hop : listed ⟨op, answer⟩ = none) (hexec : timedExec createdAt {} op s w = (answer, w)) :
    shownBy createdAt s w (.call op next) = shownBy createdAt s w (next answer) := by
  have hstep : (timedMachine createdAt s).exec ({} : WalletEnv) op w = (answer, w) := hexec
  unfold shownBy
  simp only [Machine.run, List.findSome?_cons, hstep, hop]

/-- The page of the database. -/
theorem shownBy_fetchAssetsFromPg (hsize : 0 < pageSize) :
    shownBy createdAt s w ((WalletSnapshot.mk true).fetchAssetsFromPg userId page pageSize) =
      some (if mulI64 page pageSize < 0 then []
        else slice pageSize.toNat (mulI64 page pageSize).toNat
          (s.db.newestFirst createdAt userId)) := by
  have hlimit : ¬pageSize < 0 := by omega
  unfold WalletSnapshot.fetchAssetsFromPg
  by_cases hstart : mulI64 page pageSize < 0
  · have hrows : timedExec createdAt {}
        (.selectAssetIds userId pageSize (mulI64 page pageSize)) s w =
          (.error "LIMIT and OFFSET must not be negative", w) := by
      simp only [timedExec, hstart, or_true, if_true]
    rw [if_pos hstart]
    exact shownBy_call rfl hrows
  · have hrows : timedExec createdAt {}
        (.selectAssetIds userId pageSize (mulI64 page pageSize)) s w =
          (.ok (slice pageSize.toNat (mulI64 page pageSize).toNat
            (s.db.newestFirst createdAt userId)), w) := by
      simp only [timedExec, walletAnswer, hlimit, hstart, or_self, if_false]
    rw [if_neg hstart]
    exact shownBy_call rfl hrows

/-- The last place of the page. -/
def pageStop (page pageSize : Int) : Int := addI64 (addI64 (mulI64 page pageSize) pageSize) (-1)

/-- The page of Redis, where there is a set. -/
theorem shownBy_getAssets (hset : w.sets userId ≠ []) :
    shownBy createdAt s w ((WalletSnapshot.mk true).getAssets userId page pageSize) =
      some (zrevrange (mulI64 page pageSize) (pageStop page pageSize) (w.sets userId)) := by
  have hcard : timedExec createdAt {} (.zcard userId) s w = (.ok (w.sets userId).length, w) := rfl
  have hpositive : 0 < (Except.ok (w.sets userId).length : Except String Nat).toOption.getD 0 :=
    List.length_pos_iff.mpr hset
  have hrange : timedExec createdAt {}
      (.zrevrange userId (mulI64 page pageSize) (pageStop page pageSize)) s w =
        (.ok (zrevrange (mulI64 page pageSize) (pageStop page pageSize) (w.sets userId)), w) := rfl
  unfold WalletSnapshot.getAssets
  refine (shownBy_call rfl hcard).trans ?_
  dsimp only [Program.bind]
  rw [if_pos hpositive]
  exact shownBy_call rfl hrange

theorem shownBy_getAssets_absent (hset : w.sets userId = []) :
    shownBy createdAt s w ((WalletSnapshot.mk true).getAssets userId page pageSize) =
      shownBy createdAt s w ((WalletSnapshot.mk true).fetchAssetsFromPg userId page pageSize) := by
  have hcard : timedExec createdAt {} (.zcard userId) s w = (.ok 0, w) := by
    simp only [timedExec, walletExec, walletAnswer, hset, List.length_nil]
  unfold WalletSnapshot.getAssets
  exact shownBy_call rfl hcard

end Shown

section Agreement
variable {createdAt : String → Int} {s : Store} {w w' : Wallets} {userId : String}
  {page pageSize start stop : Int} {set : List Scored}

/-- The two orders agree on the page. Where its numbers are beyond an i64 the wallet has
to show nothing, and the database too. -/
def PageAgrees (createdAt : String → Int) (ids : List String) (page pageSize : Int) : Prop :=
  if 0 ≤ mulI64 page pageSize ∧ 0 ≤ pageStop page pageSize then
    ∀ x ∈ ids, mulI64 page pageSize ≤ newer createdAt ids x →
      newer createdAt ids x < mulI64 page pageSize + pageSize →
        newerInSecond createdAt ids x = greaterInSecond createdAt ids x
  else if 0 ≤ mulI64 page pageSize then ids.length ≤ mulI64 page pageSize
  else ids = [] ∨ if pageStop page pageSize < 0 then pageStop page pageSize + ids.length < 0
    else pageStop page pageSize < mulI64 page pageSize + ids.length

theorem mulI64_range (a b : Int) : -2 ^ 63 ≤ mulI64 a b ∧ mulI64 a b < 2 ^ 63 := by
  have hle := Int.le_bmod (x := a * b) (m := 2 ^ 64) (by decide)
  have hlt := Int.bmod_lt (x := a * b) (m := 2 ^ 64) (by decide)
  unfold mulI64
  constructor <;> omega

theorem pageStop_eq (hsize : 0 < pageSize) (hbound : pageSize < 2 ^ 63) :
    pageStop page pageSize =
      if mulI64 page pageSize + pageSize ≤ 2 ^ 63 then mulI64 page pageSize + pageSize - 1
      else mulI64 page pageSize + pageSize - 1 - 2 ^ 64 := by
  have hrange := mulI64_range page pageSize
  have hsum : pageStop page pageSize = (mulI64 page pageSize + pageSize - 1).bmod (2 ^ 64) :=
    Int.bmod_add_bmod
  rw [hsum]
  generalize mulI64 page pageSize = start at *
  split
  · exact Int.bmod_eq_of_le_mul_two (by omega) (by omega)
  · have hshift : (start + pageSize - 1).bmod (2 ^ 64) =
        (start + pageSize - 1 - 2 ^ 64).bmod (2 ^ 64) := (Int.sub_bmod_right _ _).symm
    rw [hshift]
    exact Int.bmod_eq_of_le_mul_two (by omega) (by omega)

theorem zrevrange_forward (hstart : 0 ≤ start) (hstop : 0 ≤ stop) :
    zrevrange start stop set = slice (stop - start + 1).toNat start.toNat (set.map (·.1)) := by
  simp only [zrevrange, if_neg (Int.not_lt.mpr hstart), if_neg (Int.not_lt.mpr hstop), slice,
    List.map_take, List.map_drop]

/-- A range that ends before it begins. -/
theorem zrevrange_wrapped (hstart : 0 ≤ start) (hstop : stop < 0)
    (hlength : stop + set.length < start) : zrevrange start stop set = [] := by
  have hcount : (stop + set.length - start + 1).toNat = 0 := by omega
  simp only [zrevrange, if_neg (Int.not_lt.mpr hstart), if_pos hstop, hcount, slice,
    List.take_zero, List.map_nil]

/-- A range that begins before the set. -/
theorem zrevrange_behind (hstart : start < 0) (hle : start ≤ stop) (hset : set ≠ []) :
    zrevrange start stop set = [] ↔
      if stop < 0 then stop + set.length < 0 else stop < start + set.length := by
  have hpos : 0 < set.length := List.length_pos_iff.mpr hset
  simp only [zrevrange, if_pos hstart, List.map_eq_nil_iff, slice, List.take_eq_nil_iff,
    List.drop_eq_nil_iff]
  split <;> omega

/-- After a rebuild, a page of the wallet is that of the database exactly where each of its
assets has as many newer as greater assets in its second. -/
theorem pages_agree_iff (createdAt : String → Int) (s : Store) (w w' : Wallets) (userId : String)
    (hdistinct : ((s.db.ownedAssets userId).map createdAt).Nodup)
    (hcard : (s.db.ownedAssets userId).length < 2 ^ 63)
    (hrebuilt : (timedMachine createdAt s).Ends ((WalletSnapshot.mk true).rebuildFromPg userId) w
      (.ok ()) w')
    (page pageSize : Int) (hsize : 0 < pageSize) (hbound : pageSize < 2 ^ 63) :
    shownBy createdAt s w' ((WalletSnapshot.mk true).getAssets userId page pageSize) =
        shownBy createdAt s w' ((WalletSnapshot.mk true).fetchAssetsFromPg userId page pageSize) ↔
      PageAgrees createdAt (s.db.ownedAssets userId) page pageSize := by
  obtain ⟨hmembers, hranked⟩ := rebuilt_members (ends_rebuildFromPg_ok hrebuilt)
  have hlength : (w'.sets userId).length = (s.db.ownedAssets userId).length := by
    rw [← hmembers.length_eq, Wallets.members, List.length_map]
  have hrange := mulI64_range page pageSize
  have hstop := @pageStop_eq page pageSize hsize hbound
  by_cases hset : w'.sets userId = []
  · have howned : s.db.ownedAssets userId = [] := by
      rw [← List.length_eq_zero_iff, ← hlength, hset, List.length_nil]
    rw [shownBy_getAssets_absent hset, PageAgrees, howned]
    simp
  rw [shownBy_getAssets hset, shownBy_fetchAssetsFromPg hsize, Option.some_inj, PageAgrees]
  have howned : s.db.ownedAssets userId ≠ [] := by
    rw [← List.length_pos_iff, ← hlength]
    exact List.length_pos_iff.mpr hset
  generalize mulI64 page pageSize = start at *
  generalize pageStop page pageSize = stop at *
  by_cases hstart : 0 ≤ start
  · rw [if_neg (Int.not_lt.mpr hstart)]
    by_cases hforward : 0 ≤ stop
    · rw [if_pos ⟨hstart, hforward⟩, zrevrange_forward hstart hforward]
      have hcount : stop - start + 1 = pageSize := by
        split at hstop <;> omega
      rw [hcount, show (w'.sets userId).map (·.1) = w'.members userId from rfl,
        slice_orders_iff (ownedAssets_nodup _ _) (newestFirst_perm _ _)
          (newestFirst_sorted hdistinct) hmembers hranked]
      constructor
      · intro h x hx hfrom hto
        exact h x hx (by omega) (by omega)
      · intro h x hx hfrom hto
        exact h x hx (by omega) (by omega)
    · rw [if_neg fun h => hforward h.2, if_pos hstart,
        zrevrange_wrapped hstart (Int.not_le.mp hforward) (by split at hstop <;> omega), eq_comm,
        slice_eq_nil_iff (by omega), (newestFirst_perm s.db userId).length_eq]
      omega
  · have hle : start ≤ stop := by
      split at hstop <;> omega
    rw [if_pos (Int.not_le.mp hstart), if_neg fun h => hstart h.1, if_neg hstart,
      zrevrange_behind (Int.not_le.mp hstart) hle hset, hlength]
    simp only [howned, false_or]

section Sample

/-- Two assets of one second, of which the newer has the smaller id. -/
def pairStore : Store where
  db :=
    { brands := ["brand"]
      assets :=
        { rows :=
            [{ assetId := "b", brandId := "brand", currentState := .legallySold,
               ownerId := some "owner" },
             { assetId := "a", brandId := "brand", currentState := .legallySold,
               ownerId := some "owner" }]
          unique := by decide } }

def pairTimes (id : String) : Int := if id = "a" then 1700000000200000 else 1700000000100000

/-- The wallets after a rebuild in which both stores answer. -/
def rebuiltWallets (createdAt : String → Int) (s : Store) : Wallets :=
  ((timedMachine createdAt s).run ((WalletSnapshot.mk true).rebuildFromPg "owner")
    (fun _ => ({} : WalletEnv)) {}).state

theorem rebuiltWallets_ends {createdAt : String → Int} {s : Store}
    (h : ((timedMachine createdAt s).run ((WalletSnapshot.mk true).rebuildFromPg "owner")
      (fun _ => ({} : WalletEnv)) {}).answer = .ok ()) :
    (timedMachine createdAt s).Ends ((WalletSnapshot.mk true).rebuildFromPg "owner") {} (.ok ())
      (rebuiltWallets createdAt s) := by
  rw [← h]
  exact Machine.ends_run _ _ _

/-- The same two assets in two seconds. -/
def spacedTimes (id : String) : Int := if id = "a" then 1700000002000000 else 1700000001000000

/-- The second page of two of one asset each. -/
theorem pages_agree_iff_pair :
    shownBy spacedTimes pairStore (rebuiltWallets spacedTimes pairStore)
        ((WalletSnapshot.mk true).getAssets "owner" 1 1) = some ["b"] ∧
      (shownBy spacedTimes pairStore (rebuiltWallets spacedTimes pairStore)
          ((WalletSnapshot.mk true).getAssets "owner" 1 1) =
          shownBy spacedTimes pairStore (rebuiltWallets spacedTimes pairStore)
            ((WalletSnapshot.mk true).fetchAssetsFromPg "owner" 1 1) ↔
        PageAgrees spacedTimes (pairStore.db.ownedAssets "owner") 1 1) :=
  ⟨by decide +kernel, pages_agree_iff _ _ {} _ _ (by decide) (by decide)
    (rebuiltWallets_ends (by decide +kernel)) 1 1 (by decide) (by decide)⟩

/-- The older of two assets of one second is shown first. -/
theorem second_shared_swaps :
    ((pairStore.db.ownedAssets "owner").map pairTimes).Nodup ∧
      (timedMachine pairTimes pairStore).Ends ((WalletSnapshot.mk true).rebuildFromPg "owner") {}
        (.ok ()) (rebuiltWallets pairTimes pairStore) ∧
      shownBy pairTimes pairStore (rebuiltWallets pairTimes pairStore)
        ((WalletSnapshot.mk true).getAssets "owner" 0 20) = some ["b", "a"] ∧
      shownBy pairTimes pairStore (rebuiltWallets pairTimes pairStore)
        ((WalletSnapshot.mk true).fetchAssetsFromPg "owner" 0 20) = some ["a", "b"] :=
  ⟨by decide, rebuiltWallets_ends (by decide +kernel), by decide +kernel, by decide +kernel⟩

end Sample

end Agreement

end RcProtocol
