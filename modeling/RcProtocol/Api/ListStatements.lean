import RcProtocol.Api.Listings
import RcProtocol.Library.Select

/-!
The statements of `list_assets` and `list_batches` (db/assets.rs, db/batches.rs) with the
arguments they number. The rows of a table are found in any order.
-/

namespace RcProtocol
open Library

inductive AssetColumn where
  | brandId | batchId | currentState

def AssetColumn.equals : AssetColumn → String → Option (AssetRow → Bool)
  | .brandId, s => some fun r => r.brandId = s
  | .batchId, s => some fun r => r.batchId = some s
  | .currentState, s => some fun r => r.currentState.asDbStr = s

inductive BatchColumn where
  | brandId

def BatchColumn.equals : BatchColumn → String → Option (Batch → Bool)
  | .brandId, s => some fun b => b.brandId = s

section Statements
variable (brandId batchId currentState : Option String)

/-- `condition_strings`: a condition has the number that comes after those before it. -/
def assetConditions : Conditions AssetColumn :=
  let conditions := if brandId.isSome then [[(AssetColumn.brandId, 1)]] else []
  let conditions :=
    if batchId.isSome then conditions ++ [[(.batchId, conditions.length + 1)]] else conditions
  if currentState.isSome then conditions ++ [[(.currentState, conditions.length + 1)]]
  else conditions

def assetArgs : List Arg := (brandId.toList ++ batchId.toList ++ currentState.toList).map .text

def assetSelect : Select AssetColumn where
  conditions := assetConditions brandId batchId currentState
  limit := (assetConditions brandId batchId currentState).length + 1
  offset := (assetConditions brandId batchId currentState).length + 2

def batchConditions : Option String → Conditions BatchColumn
  | some _ => [[(.brandId, 1)]]
  | none => []

def batchSelect : Option String → Select BatchColumn
  | some brand => ⟨batchConditions (some brand), 2, 3⟩
  | none => ⟨batchConditions none, 1, 2⟩

end Statements

section Queries
variable (fails : ReadQuery → Option String) (s : Catalogue)

/-- A statement that PostgreSQL refuses is an error like one that fails. -/
def runStatement {α : Type} (q : ReadQuery) : Option α → Except RcError α
  | none => .error (.database "invalid statement")
  | some a => runQuery fails q a

/-- `list_assets`, on the rows in the order in which its second statement finds them. -/
def listAssetRows (createdAt : AssetRow → Int) (found : List AssetRow)
    (brandId batchId currentState : Option String) (limit offset : Int) :
    Except RcError (Option (List AssetDetail × Nat)) := do
  let args := assetArgs brandId batchId currentState
  let total ← runStatement fails .countAssets
    (selectCount AssetColumn.equals args (assetConditions brandId batchId currentState)
      s.db.assets.rows)
  let rows ← runStatement fails .assets
    ((assetSelect brandId batchId currentState).run AssetColumn.equals
      (args ++ [.int limit, .int offset]) createdAt found)
  (listedAssets fails s rows).map (Option.map (·, total))

/-- `list_batches`, likewise. -/
def listBatchRows (createdAt : Batch → Int) (found : List Batch) (brandId : Option String)
    (limit offset : Int) : Except RcError (List Batch × Nat) := do
  let args := brandId.toList.map Arg.text
  let total ← runStatement fails .countBatches
    (selectCount BatchColumn.equals args (batchConditions brandId) s.batches.rows)
  let rows ← runStatement fails .batches
    ((batchSelect brandId).run BatchColumn.equals (args ++ [.int limit, .int offset]) createdAt
      found)
  .ok (rows, total)

end Queries

section Answers
variable {fails : ReadQuery → Option String} {s : Catalogue}
  {brandId batchId currentState : Option String} {limit offset : Int} {rest : List Arg}

/-- The numbers name the arguments the conditions were made for. -/
theorem whereTest_assets :
    whereTest AssetColumn.equals (assetArgs brandId batchId currentState ++ rest)
        (assetConditions brandId batchId currentState) =
      some (AssetRow.meets brandId batchId currentState) := by
  have hrow (p : AssetRow → Bool)
      (h : ∀ r, p r = AssetRow.meets brandId batchId currentState r) :
      some p = some (AssetRow.meets brandId batchId currentState) := congrArg some (funext h)
  cases brandId <;> cases batchId <;> cases currentState <;>
    exact hrow _ fun r => by simp [AssetRow.meets, Bool.and_assoc]

theorem whereTest_batches :
    whereTest BatchColumn.equals (brandId.toList.map Arg.text ++ rest) (batchConditions brandId) =
      some fun b : Batch => brandId.all (b.brandId = ·) := by
  cases brandId with
  | none => rfl
  | some brand =>
      apply congrArg some
      funext b
      simp

theorem arguments_assets :
    argument (assetArgs brandId batchId currentState ++ [.int limit, .int offset])
        (assetSelect brandId batchId currentState).limit = some (.int limit) ∧
      argument (assetArgs brandId batchId currentState ++ [.int limit, .int offset])
        (assetSelect brandId batchId currentState).offset = some (.int offset) := by
  cases brandId <;> cases batchId <;> cases currentState <;> exact ⟨rfl, rfl⟩

theorem arguments_batches :
    argument (brandId.toList.map Arg.text ++ [.int limit, .int offset]) (batchSelect brandId).limit =
        some (.int limit) ∧
      argument (brandId.toList.map Arg.text ++ [.int limit, .int offset])
        (batchSelect brandId).offset = some (.int offset) := by
  cases brandId <;> exact ⟨rfl, rfl⟩

theorem run_assets {createdAt : AssetRow → Int} {found : List AssetRow} (hlimit : 0 ≤ limit)
    (hoffset : 0 ≤ offset) :
    (assetSelect brandId batchId currentState).run AssetColumn.equals
        (assetArgs brandId batchId currentState ++ [.int limit, .int offset]) createdAt found =
      some (slice limit.toNat offset.toNat
        (orderByDesc createdAt (found.filter (AssetRow.meets brandId batchId currentState)))) := by
  have harguments := @arguments_assets brandId batchId currentState limit offset
  have hvalid : ¬(limit < 0 ∨ offset < 0) := by omega
  have htest : whereTest AssetColumn.equals
      (assetArgs brandId batchId currentState ++ [.int limit, .int offset])
      (assetSelect brandId batchId currentState).conditions =
        some (AssetRow.meets brandId batchId currentState) := whereTest_assets
  simp only [Select.run, htest, harguments.1, harguments.2, if_neg hvalid]

theorem run_batches {createdAt : Batch → Int} {found : List Batch} (hlimit : 0 ≤ limit)
    (hoffset : 0 ≤ offset) :
    (batchSelect brandId).run BatchColumn.equals
        (brandId.toList.map Arg.text ++ [.int limit, .int offset]) createdAt found =
      some (slice limit.toNat offset.toNat
        (orderByDesc createdAt (found.filter fun b => brandId.all (b.brandId = ·)))) := by
  have harguments := @arguments_batches brandId limit offset
  have hvalid : ¬(limit < 0 ∨ offset < 0) := by omega
  have hconditions : (batchSelect brandId).conditions = batchConditions brandId := by
    cases brandId <;> rfl
  simp only [Select.run, hconditions, whereTest_batches, harguments.1, harguments.2, if_neg hvalid]

theorem listAssetRows_eq {createdAt : AssetRow → Int} {found : List AssetRow} (hlimit : 0 ≤ limit)
    (hoffset : 0 ≤ offset) :
    listAssetRows fails s createdAt found brandId batchId currentState limit offset =
      (do
        let total ← runQuery fails .countAssets (s.assetsOf brandId batchId currentState).length
        let rows ← runQuery fails .assets (slice limit.toNat offset.toNat
          (orderByDesc createdAt (found.filter (AssetRow.meets brandId batchId currentState))))
        (listedAssets fails s rows).map (Option.map (·, total))) := by
  have htest : whereTest AssetColumn.equals (assetArgs brandId batchId currentState)
      (assetConditions brandId batchId currentState) =
        some (AssetRow.meets brandId batchId currentState) := by
    conv_lhs => rw [← List.append_nil (assetArgs brandId batchId currentState)]
    exact whereTest_assets
  simp only [listAssetRows, selectCount, htest, run_assets hlimit hoffset]
  rfl

theorem listBatchRows_eq {createdAt : Batch → Int} {found : List Batch} (hlimit : 0 ≤ limit)
    (hoffset : 0 ≤ offset) :
    listBatchRows fails s createdAt found brandId limit offset =
      (do
        let total ← runQuery fails .countBatches (s.batchesOf brandId).length
        let rows ← runQuery fails .batches (slice limit.toNat offset.toNat
          (orderByDesc createdAt (found.filter fun b => brandId.all (b.brandId = ·))))
        .ok (rows, total)) := by
  have htest : whereTest BatchColumn.equals (brandId.toList.map Arg.text)
      (batchConditions brandId) = some fun b : Batch => brandId.all (b.brandId = ·) := by
    conv_lhs => rw [← List.append_nil (brandId.toList.map Arg.text)]
    exact whereTest_batches
  simp only [listBatchRows, selectCount, htest, run_batches hlimit hoffset]
  rfl

theorem orderByDesc_reverse {ρ τ : Type} [LinearOrder τ] {key : ρ → τ} {rows : List ρ}
    {p : ρ → Bool} (h : rows.Pairwise fun a b => key a ≤ key b) :
    orderByDesc key (rows.reverse.filter p) = (rows.filter p).reverse := by
  rw [List.filter_reverse]
  apply orderByDesc_of_sortedBy
  rw [SortedBy, List.pairwise_reverse]
  exact h.filter p

theorem selectPage_eq {α : Type} {q : ReadQuery} {rows : List α} (hoffset : 0 ≤ offset) :
    selectPage fails q limit offset rows =
      runQuery fails q (slice limit.toNat offset.toNat rows.reverse) :=
  if_neg (Int.not_lt.mpr hoffset)

/-- Where the rows are stored in the order of their times and found the last one first, the
lists are those of the handlers. -/
theorem selectAssets_eq {createdAt : AssetRow → Int} (hlimit : 0 ≤ limit) (hoffset : 0 ≤ offset)
    (htimes : s.db.assets.rows.Pairwise fun a b => createdAt a ≤ createdAt b) :
    selectAssets fails s brandId batchId currentState limit offset =
      listAssetRows fails s createdAt s.db.assets.rows.reverse brandId batchId currentState limit
        offset := by
  rw [listAssetRows_eq hlimit hoffset, orderByDesc_reverse htimes, selectAssets]
  simp only [selectPage_eq hoffset]
  rfl

theorem selectBatches_eq {createdAt : Batch → Int} (hlimit : 0 ≤ limit) (hoffset : 0 ≤ offset)
    (htimes : s.batches.rows.Pairwise fun a b => createdAt a ≤ createdAt b) :
    selectBatches fails s brandId limit offset =
      listBatchRows fails s createdAt s.batches.rows.reverse brandId limit offset := by
  rw [listBatchRows_eq hlimit hoffset, orderByDesc_reverse htimes, selectBatches]
  simp only [selectPage_eq hoffset]
  rfl

end Answers

end RcProtocol
