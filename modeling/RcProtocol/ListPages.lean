import RcProtocol.Api.ListStatements
import RcProtocol.Workorders.Lists

/-!
The pages of the three lists. Their statements select what the filters ask for and number
their arguments right, but the column they sort by is not unique, so that a page that ends
among rows of one time may repeat a row or lose one.
-/

namespace RcProtocol
open Library

section Pages
variable (s : Catalogue) (brandId batchId currentState : Option String) (pageSize : Option Int)

/-- The rows that a request for this page size gets at most. -/
def pageSizeOf : Nat := (PaginationParams.mk none pageSize).getPageSize.toNat

/-- The ids on page `i + 1` and the total. -/
def assetPage (createdAt : AssetRow → Int) (i : Nat) (found : List AssetRow) :
    Option (List String × Nat) :=
  let params : PaginationParams := ⟨some (i + 1), pageSize⟩
  (listAssetRows (fun _ => none) s createdAt found brandId batchId currentState params.getPageSize
    params.offset).toOption.join.map fun (items, total) => (items.map (·.assetId), total)

def batchPage (createdAt : Batch → Int) (i : Nat) (found : List Batch) :
    Option (List String × Nat) :=
  let params : PaginationParams := ⟨some (i + 1), pageSize⟩
  (listBatchRows (fun _ => none) s createdAt found brandId params.getPageSize
    params.offset).toOption.map fun (items, total) => (items.map (·.batchId), total)

def workorderPage (workorders : Workorders.Repo) (createdAt : Workorders.Workorder → Int)
    (filterStatus filterType assigneeID orgID brandID : String) (size i : Nat)
    (found : List Workorders.Workorder) : Option (List Uuid × Nat) :=
  (workorders.list (fun _ => none) createdAt found filterStatus filterType assigneeID orgID brandID
    (i + 1) size).toOption.map fun (items, total) => (items.map (·.id), total)

end Pages

/-- So many pages, one at least, have room for the rows. The last of them begins within an
i64. -/
structure Covers {ρ : Type} (rows : List ρ) (size n : Nat) : Prop where
  first : 0 < n
  room : rows.length ≤ n * size
  bound : n * size < 2 ^ 63

section Bounds
variable {ρ : Type} {rows : List ρ} {pageSize : Option Int} {size n i : Nat}

theorem Covers.offset (h : Covers rows size n) (hi : i < n) :
    ((i : Int) * size).bmod (2 ^ 64) = (i * size : Nat) := by
  have hle : i * size ≤ n * size := Nat.mul_le_mul_right size hi.le
  have hbound := h.bound
  rw [← Int.natCast_mul]
  exact Int.bmod_eq_of_le_mul_two (by omega) (by omega)

theorem getPageSize_eq (page : Option Int) :
    (PaginationParams.mk page pageSize).getPageSize = (pageSizeOf pageSize : Int) := by
  have hpos : 0 ≤ (PaginationParams.mk none pageSize).getPageSize := by
    unfold PaginationParams.getPageSize
    omega
  exact (Int.toNat_of_nonneg hpos).symm

theorem offset_eq (h : Covers rows (pageSizeOf pageSize) n) (hi : i < n) :
    (PaginationParams.mk (some (i + 1)) pageSize).offset = (i * pageSizeOf pageSize : Nat) := by
  have hpage : (PaginationParams.mk (some (i + 1)) pageSize).getPage - 1 = i := by
    unfold PaginationParams.getPage
    simp only [Option.getD_some]
    omega
  rw [PaginationParams.offset, hpage, getPageSize_eq, mulI64]
  exact h.offset hi

end Bounds

section Assets
variable {s : Catalogue}

/-- Where the statements answer, only a missing uid keeps an item from the list. -/
theorem listedAsset_answer (row : AssetRow) : ∃ item,
    listedAsset (fun _ => none) s row = .ok item ∧
      item.map (·.assetId) = row.uid.map fun _ => row.assetId := by
  unfold listedAsset
  cases row.assetCommitmentId with
  | none =>
      refine ⟨_, rfl, ?_⟩
      rw [Option.map_map]
      rfl
  | some commitmentId =>
      refine ⟨_, rfl, ?_⟩
      rw [Option.map_map]
      rfl

theorem listedAssets_answer (rows : List AssetRow) : ∃ items,
    listedAssets (fun _ => none) s rows = .ok items ∧
      items.map (·.map (·.assetId)) =
        if ∀ r ∈ rows, r.uid.isSome = true then some (rows.map (·.assetId)) else none := by
  induction rows with
  | nil => exact ⟨_, rfl, rfl⟩
  | cons row rows ih =>
      obtain ⟨item, hitem, hid⟩ := @listedAsset_answer s row
      obtain ⟨items, hitems, hids⟩ := ih
      cases huid : row.uid with
      | none =>
          rw [huid, Option.map_none, Option.map_eq_none_iff] at hid
          subst hid
          refine ⟨none, ?_, ?_⟩
          · rw [listedAssets, hitem]
            rfl
          · rw [if_neg, Option.map_none]
            intro h
            have hsome := h row List.mem_cons_self
            rw [huid] at hsome
            cases hsome
      | some uid =>
          rw [huid, Option.map_some] at hid
          obtain ⟨detail, rfl, hdetail⟩ := Option.map_eq_some_iff.mp hid
          refine ⟨items.map (detail :: ·), ?_, ?_⟩
          · rw [listedAssets, hitem]
            simp only [bind, Except.bind, hitems]
            rfl
          · have hcons : (items.map (detail :: ·)).map (·.map (·.assetId)) =
                (items.map (·.map (·.assetId))).map (row.assetId :: ·) := by
              cases items <;> simp [hdetail]
            have hhead : (∀ r ∈ row :: rows, r.uid.isSome = true) ↔
                ∀ r ∈ rows, r.uid.isSome = true := by
              simp [huid]
            rw [hcons, hids]
            simp only [hhead]
            split <;> rfl

/-- A page of assets: its ids, where each of its rows has a uid. -/
theorem assetPage_eq {brandId batchId currentState : Option String} {pageSize : Option Int}
    {createdAt : AssetRow → Int} {n i : Nat} {found : List AssetRow}
    (h : Covers (s.assetsOf brandId batchId currentState) (pageSizeOf pageSize) n) (hi : i < n) :
    assetPage s brandId batchId currentState pageSize createdAt i found =
      let rows := slice (pageSizeOf pageSize) (i * pageSizeOf pageSize)
        (orderByDesc createdAt (found.filter (AssetRow.meets brandId batchId currentState)))
      if ∀ r ∈ rows, r.uid.isSome = true then
        some (rows.map (·.assetId), (s.assetsOf brandId batchId currentState).length)
      else none := by
  rw [assetPage, getPageSize_eq, offset_eq h hi,
    listAssetRows_eq (Int.natCast_nonneg _) (Int.natCast_nonneg _), Int.toNat_natCast,
    Int.toNat_natCast]
  dsimp only
  generalize slice (pageSizeOf pageSize) (i * pageSizeOf pageSize)
    (orderByDesc createdAt (found.filter (AssetRow.meets brandId batchId currentState))) = rows
  obtain ⟨items, hitems, hids⟩ := @listedAssets_answer s rows
  simp only [runQuery, bind, Except.bind, hitems]
  by_cases hall : ∀ r ∈ rows, r.uid.isSome = true
  · rw [if_pos hall] at hids ⊢
    obtain ⟨details, rfl, hdetails⟩ := Option.map_eq_some_iff.mp hids
    rw [← hdetails]
    rfl
  · rw [if_neg hall] at hids ⊢
    rw [Option.map_eq_none_iff.mp hids]
    rfl

theorem batchPage_eq {brandId : Option String} {pageSize : Option Int} {createdAt : Batch → Int}
    {n i : Nat} {found : List Batch} (h : Covers (s.batchesOf brandId) (pageSizeOf pageSize) n)
    (hi : i < n) :
    batchPage s brandId pageSize createdAt i found =
      some ((slice (pageSizeOf pageSize) (i * pageSizeOf pageSize)
        (orderByDesc createdAt (found.filter fun b => brandId.all (b.brandId = ·)))).map
          (·.batchId), (s.batchesOf brandId).length) := by
  rw [batchPage, getPageSize_eq, offset_eq h hi,
    listBatchRows_eq (Int.natCast_nonneg _) (Int.natCast_nonneg _), Int.toNat_natCast,
    Int.toNat_natCast]
  rfl

end Assets

section Workorders
variable {workorders : Workorders.Repo} {createdAt : Workorders.Workorder → Int}
  {filterStatus filterType assigneeID orgID brandID : String} {size n i : Nat}
  {found : List Workorders.Workorder}

theorem workorderPage_eq (h : Covers (workorders.rows.filter
      (Workorders.Matches filterStatus filterType assigneeID orgID brandID)) size n) (hi : i < n) :
    workorderPage workorders createdAt filterStatus filterType assigneeID orgID brandID size i
        found =
      if Workorders.ListTyped assigneeID orgID then
        some ((slice size (i * size) (orderByDesc createdAt (found.filter
          (Workorders.Matches filterStatus filterType assigneeID orgID brandID)))).map (·.id),
          (workorders.rows.filter
            (Workorders.Matches filterStatus filterType assigneeID orgID brandID)).length)
      else none := by
  have hoffset : (((i : Int) + 1 - 1) * size).bmod (2 ^ 64) = (i * size : Nat) := by
    rw [Int.add_sub_cancel]
    exact h.offset hi
  rw [workorderPage, Workorders.list_eq (Int.natCast_nonneg _)
    (by rw [hoffset]; exact Int.natCast_nonneg _), hoffset, Int.toNat_natCast, Int.toNat_natCast]
  split <;> rfl

end Workorders

section Complete
variable {n size : Nat}

theorem nodup_ids {ρ κ : Type} [Keyed ρ] {rows : List ρ} {p : ρ → Bool} {id : ρ → κ}
    (hrows : rows.Pairwise fun a b => ¬Keyed.Clash (Keyed.key a) (Keyed.key b))
    (hid : ∀ a b, id a = id b → Keyed.Clash (Keyed.key a) (Keyed.key b)) :
    ((rows.filter p).map id).Nodup := by
  rw [List.Nodup, List.pairwise_map]
  refine (hrows.filter p).imp ?_
  intro a b hclash heq
  exact hclash (hid a b heq)

/-- Every asset is on some page, so that a missing uid keeps a page from answering. -/
theorem uids_of_listsOnce {s : Catalogue} {brandId batchId currentState : Option String}
    {pageSize : Option Int} {createdAt : AssetRow → Int}
    (hcovers : Covers (s.assetsOf brandId batchId currentState) (pageSizeOf pageSize) n)
    (h : ListsOnce (assetPage s brandId batchId currentState pageSize createdAt) s.db.assets.rows
      ((s.assetsOf brandId batchId currentState).map (·.assetId)) n) :
    ∀ r ∈ s.assetsOf brandId batchId currentState, r.uid.isSome = true := by
  obtain ⟨pages, hpages, -⟩ := h (fun _ => s.db.assets.rows) fun _ => .refl _
  intro r hr
  have hperm : (orderByDesc createdAt (s.assetsOf brandId batchId currentState)).Perm _ :=
    orderByDesc_perm _
  have hroom : (orderByDesc createdAt (s.assetsOf brandId batchId currentState)).length ≤
      n * pageSizeOf pageSize := by
    rw [hperm.length_eq]
    exact hcovers.room
  rw [← hperm.mem_iff, ← flatMap_slice_all hroom] at hr
  obtain ⟨i, hi, hr⟩ := List.mem_flatMap.mp hr
  have hread := hpages i (List.mem_range.mp hi)
  rw [assetPage_eq hcovers (List.mem_range.mp hi)] at hread
  dsimp only at hread
  split at hread
  · next huids => exact huids r hr
  · cases hread

theorem assets_once_iff (s : Catalogue) (brandId batchId currentState : Option String)
    (pageSize : Option Int) (createdAt : AssetRow → Int)
    (hcovers : Covers (s.assetsOf brandId batchId currentState) (pageSizeOf pageSize) n) :
    ListsOnce (assetPage s brandId batchId currentState pageSize createdAt) s.db.assets.rows
        ((s.assetsOf brandId batchId currentState).map (·.assetId)) n ↔
      (∀ r ∈ s.assetsOf brandId batchId currentState, r.uid.isSome = true) ∧
        ∀ i, ¬Splits createdAt (s.assetsOf brandId batchId currentState)
          (i * pageSizeOf pageSize) := by
  have hid : ((s.assetsOf brandId batchId currentState).map (·.assetId)).Nodup :=
    nodup_ids s.db.assets.unique fun a b heq => .inl heq
  have hpage (huids : ∀ r ∈ s.assetsOf brandId batchId currentState, r.uid.isSome = true) (i : Nat)
      (hi : i < n) (found : List AssetRow) (hfound : found.Perm s.db.assets.rows) :
      assetPage s brandId batchId currentState pageSize createdAt i found =
        some ((slice (pageSizeOf pageSize) (i * pageSizeOf pageSize)
          (orderByDesc createdAt (found.filter (AssetRow.meets brandId batchId currentState)))).map
            (·.assetId), (s.assetsOf brandId batchId currentState).length) := by
    rw [assetPage_eq hcovers hi]
    dsimp only
    rw [if_pos]
    intro r hr
    have hmem := (orderByDesc_perm _).mem_iff.mp (mem_of_mem_slice hr)
    exact huids r ((hfound.filter _).mem_iff.mp hmem)
  have hiff (huids : ∀ r ∈ s.assetsOf brandId batchId currentState, r.uid.isSome = true) :=
    listsOnce_iff hid hcovers.room (hpage huids)
  constructor
  · intro h
    have huids := uids_of_listsOnce hcovers h
    exact ⟨huids, (hiff huids).mp h⟩
  · rintro ⟨huids, hsplits⟩
    exact (hiff huids).mpr hsplits

theorem batches_once_iff (s : Catalogue) (brandId : Option String) (pageSize : Option Int)
    (createdAt : Batch → Int) (hcovers : Covers (s.batchesOf brandId) (pageSizeOf pageSize) n) :
    ListsOnce (batchPage s brandId pageSize createdAt) s.batches.rows
        ((s.batchesOf brandId).map (·.batchId)) n ↔
      ∀ i, ¬Splits createdAt (s.batchesOf brandId) (i * pageSizeOf pageSize) := by
  have hid : ((s.batchesOf brandId).map (·.batchId)).Nodup :=
    nodup_ids s.batches.unique fun a b heq => heq
  refine listsOnce_iff hid hcovers.room ?_
  intro i hi found _
  exact batchPage_eq hcovers hi

theorem workorders_once_iff (workorders : Workorders.Repo)
    (filterStatus filterType assigneeID orgID brandID : String)
    (createdAt : Workorders.Workorder → Int)
    (hcovers : Covers (workorders.rows.filter
      (Workorders.Matches filterStatus filterType assigneeID orgID brandID)) size n) :
    ListsOnce (workorderPage workorders createdAt filterStatus filterType assigneeID orgID brandID
        size) workorders.rows
        ((workorders.rows.filter
          (Workorders.Matches filterStatus filterType assigneeID orgID brandID)).map (·.id)) n ↔
      Workorders.ListTyped assigneeID orgID ∧
        ∀ i, ¬Splits createdAt (workorders.rows.filter
          (Workorders.Matches filterStatus filterType assigneeID orgID brandID)) (i * size) := by
  by_cases htyped : Workorders.ListTyped assigneeID orgID
  · rw [and_iff_right htyped]
    refine listsOnce_iff (nodup_ids workorders.unique fun a b heq => heq) hcovers.room ?_
    intro i hi found _
    rw [workorderPage_eq hcovers hi, if_pos htyped]
  · constructor
    · intro h
      obtain ⟨pages, hpages, -⟩ := h (fun _ => workorders.rows) fun _ => .refl _
      have hfirst := hpages 0 hcovers.first
      rw [workorderPage_eq hcovers hcovers.first, if_neg htyped] at hfirst
      cases hfirst
    · intro h
      exact absurd h.1 htyped

/-- The pages of a list have every matching row once, in whatever order PostgreSQL finds the
rows of one time, exactly where no page ends among rows of one time. A list of assets also needs
their uids, one of workorders its UUIDs. -/
theorem lists_once_iff (s : Catalogue) (workorders : Workorders.Repo) (assetTime : AssetRow → Int)
    (batchTime : Batch → Int) (workorderTime : Workorders.Workorder → Int)
    (brandId batchId currentState : Option String)
    (filterStatus filterType assigneeID orgID brandID : String) (pageSize : Option Int)
    (size n : Nat) :
    (Covers (s.assetsOf brandId batchId currentState) (pageSizeOf pageSize) n →
      (ListsOnce (assetPage s brandId batchId currentState pageSize assetTime) s.db.assets.rows
          ((s.assetsOf brandId batchId currentState).map (·.assetId)) n ↔
        (∀ r ∈ s.assetsOf brandId batchId currentState, r.uid.isSome = true) ∧
          ∀ i, ¬Splits assetTime (s.assetsOf brandId batchId currentState)
            (i * pageSizeOf pageSize))) ∧
      (Covers (s.batchesOf brandId) (pageSizeOf pageSize) n →
        (ListsOnce (batchPage s brandId pageSize batchTime) s.batches.rows
            ((s.batchesOf brandId).map (·.batchId)) n ↔
          ∀ i, ¬Splits batchTime (s.batchesOf brandId) (i * pageSizeOf pageSize))) ∧
      (Covers (workorders.rows.filter
          (Workorders.Matches filterStatus filterType assigneeID orgID brandID)) size n →
        (ListsOnce (workorderPage workorders workorderTime filterStatus filterType assigneeID orgID
            brandID size) workorders.rows
            ((workorders.rows.filter
              (Workorders.Matches filterStatus filterType assigneeID orgID brandID)).map (·.id)) n ↔
          Workorders.ListTyped assigneeID orgID ∧
            ∀ i, ¬Splits workorderTime (workorders.rows.filter
              (Workorders.Matches filterStatus filterType assigneeID orgID brandID))
                (i * size))) :=
  ⟨assets_once_iff s brandId batchId currentState pageSize assetTime,
    batches_once_iff s brandId pageSize batchTime,
    workorders_once_iff workorders filterStatus filterType assigneeID orgID brandID workorderTime⟩

end Complete

section Sample

def firstBatch : Batch := { batchId := "batch_1", brandId := "brand", createdAt := "2026-04-09" }

def secondBatch : Batch := { batchId := "batch_2", brandId := "brand", createdAt := "2026-04-09" }

/-- Two batches of one time. -/
def twoBatches : Catalogue where
  db := { brands := ["brand"] }
  times := fun _ => ⟨none, none, "", ""⟩
  batches := ⟨[firstBatch, secondBatch], by decide⟩

/-- Two bound assets beside the batches. -/
def twoEach : Catalogue :=
  { twoBatches with
    db :=
      { brands := ["brand"]
        assets :=
          ⟨[{ assetId := "a", brandId := "brand", uid := some "04A31B2C3D4E5F",
              currentState := .activated },
            { assetId := "b", brandId := "brand", uid := some "04B31B2C3D4E5F",
              currentState := .activated }], by decide⟩ } }

def reviewOf (digit : Nat) : Workorders.Workorder where
  id := .repeated digit
  type := "dispute"
  status := .opened
  title := "复核"
  creatorID := .repeated 7
  creatorRole := "Platform"
  creatorOrgID := .repeated 8

def twoWorkorders : Workorders.Repo := ⟨[reviewOf 1, reviewOf 2], by decide⟩

/-- The rows of each list in two pages of one, no two of them of one time. -/
theorem lists_once_iff_pairs :
    (ListsOnce (assetPage twoEach none none none (some 1) fun r => if r.assetId = "a" then 1 else 2)
        twoEach.db.assets.rows ["a", "b"] 2 ↔
      (∀ r ∈ twoEach.assetsOf none none none, r.uid.isSome = true) ∧
        ∀ i, ¬Splits (fun r => if r.assetId = "a" then (1 : Int) else 2)
          (twoEach.assetsOf none none none) (i * 1)) ∧
      (ListsOnce (batchPage twoEach none (some 1) fun b => if b.batchId = "batch_1" then 1 else 2)
          [firstBatch, secondBatch] ["batch_1", "batch_2"] 2 ↔
        ∀ i, ¬Splits (fun b => if b.batchId = "batch_1" then (1 : Int) else 2)
          (twoEach.batchesOf none) (i * 1)) ∧
      (ListsOnce (workorderPage twoWorkorders (fun w => if w.id = .repeated 1 then 1 else 2)
          "" "" "" "" "" 1) [reviewOf 1, reviewOf 2] [.repeated 1, .repeated 2] 2 ↔
        Workorders.ListTyped "" "" ∧
          ∀ i, ¬Splits (fun w => if w.id = .repeated 1 then (1 : Int) else 2)
            [reviewOf 1, reviewOf 2] (i * 1)) := by
  obtain ⟨hassets, hbatches, hworkorders⟩ := lists_once_iff twoEach twoWorkorders
    (fun r => if r.assetId = "a" then 1 else 2) (fun b => if b.batchId = "batch_1" then 1 else 2)
    (fun w => if w.id = .repeated 1 then 1 else 2) none none none "" "" "" "" "" (some 1) 1 2
  exact ⟨hassets ⟨by decide, by decide, by decide⟩, hbatches ⟨by decide, by decide, by decide⟩,
    hworkorders ⟨by decide, by decide, by decide⟩⟩

/-- Found in one order for the first page and in the other for the second, one batch is on
both pages and one on none. -/
theorem tied_batches_repeated :
    batchPage twoBatches none (some 1) (fun _ => 0) 0 [firstBatch, secondBatch] =
        some (["batch_1"], 2) ∧
      batchPage twoBatches none (some 1) (fun _ => 0) 1 [secondBatch, firstBatch] =
        some (["batch_1"], 2) ∧
      ¬ListsOnce (batchPage twoBatches none (some 1) fun _ => 0) [firstBatch, secondBatch]
        ["batch_1", "batch_2"] 2 := by
  have hfirst : batchPage twoBatches none (some 1) (fun _ => 0) 0 [firstBatch, secondBatch] =
      some (["batch_1"], 2) := by decide +kernel
  have hsecond : batchPage twoBatches none (some 1) (fun _ => 0) 1 [secondBatch, firstBatch] =
      some (["batch_1"], 2) := by decide +kernel
  refine ⟨hfirst, hsecond, ?_⟩
  intro h
  let found : Nat → List Batch := fun i =>
    if i = 0 then [firstBatch, secondBatch] else [secondBatch, firstBatch]
  have hfound (i : Nat) : (found i).Perm [firstBatch, secondBatch] := by
    dsimp only [found]
    split
    · exact .refl _
    · exact .swap _ _ _
  obtain ⟨pages, hpages, hkeys⟩ := h found hfound
  have hzero := (Prod.mk.inj (Option.some.inj (hfirst.symm.trans (hpages 0 (by decide))))).1
  have hone := (Prod.mk.inj (Option.some.inj (hsecond.symm.trans (hpages 1 (by decide))))).1
  have hlist : (List.range 2).flatMap pages = pages 0 ++ pages 1 := by
    simp [List.range_succ]
  rw [hlist, ← hzero, ← hone] at hkeys
  revert hkeys
  decide

end Sample

end RcProtocol
