import RcProtocol.Api.Effects
import RcProtocol.Library.View

/-!
The columns of an asset the protocol is about: its brand, its state, the state
it was frozen from, and its owner. Only two operations write them.
-/

namespace RcProtocol
open Library

structure Custody where
  brandId : String
  currentState : AssetState
  previousState : Option AssetState
  ownerId : Option String
  deriving DecidableEq

def AssetRow.custody (r : AssetRow) : Custody :=
  ⟨r.brandId, r.currentState, r.previousState, r.ownerId⟩

def Db.custody (db : Db) (assetId : String) : Option Custody :=
  (db.asset assetId).map AssetRow.custody

def PersistAction.custody (w : PersistAction) (c : Custody) : Custody :=
  { c with
    currentState := w.nextRecord.currentState
    previousState := w.nextRecord.previousState
    ownerId := w.owner c.ownerId }

/-- The asset whose custody an event writes, and what it makes of it. -/
def custodyWrite : Event api → Option (String × (Custody → Custody))
  | ⟨.persistAction w, .ok _⟩ => some (w.nextRecord.assetId, w.custody)
  | ⟨.updateTransferredAsset assetId current previous owner, .ok _⟩ =>
      some (assetId, fun c =>
        { c with
          currentState := current
          previousState := some previous
          ownerId := some owner })
  | _ => none

theorem Changes.custody {e : Event api} {db db' : Db} (h : Changes e db db') (assetId : String) :
    db'.custody assetId = written (custodyWrite e) assetId (db.custody assetId) := by
  have hasset := h.asset assetId
  obtain ⟨op, r⟩ := e
  simp only [Db.custody, hasset]
  cases op <;> first | rfl | (cases r <;> first | rfl | skip)
  all_goals
    simp only [assetWrite, custodyWrite, written]
    split
    · cases db.asset assetId <;> rfl
    · rfl

/-- The custody of each asset, as a view of the state. -/
def custodyView : View machine String Custody where
  get s := s.db.custody
  write := custodyWrite
  step env op s := (machine_changes env op s).custody

/-- The row of each asset, as a view of the state. -/
def assetView : View machine String AssetRow where
  get s := s.db.asset
  write := assetWrite
  step env op s k := by
    rw [(machine_changes env op s).asset k]
    cases assetWrite ⟨op, (machine.exec env op s).1⟩ <;> rfl

/-- The log has an operation that wrote custody. -/
abbrev Committed (log : Log) : Prop := custodyView.Wrote log

/-- What is fetched of an asset is part of its custody. -/
theorem Db.custody_of_selectAssetRecord {db : Db} {assetId : String} {stored : AssetRecord}
    (h : db.selectAssetRecord assetId = some stored) :
    ∃ c, db.custody assetId = some c ∧ c.brandId = stored.brandId ∧
      c.currentState = stored.currentState ∧ c.previousState = stored.previousState := by
  obtain ⟨r, hr, rfl⟩ := Option.map_eq_some_iff.mp h
  exact ⟨r.custody, by rw [Db.custody, hr, Option.map_some], rfl, rfl, rfl⟩

theorem Db.custody_of_selectOwner {db : Db} {assetId : String} {owner : Option String}
    (h : db.selectOwner assetId = some owner) :
    ∃ c, db.custody assetId = some c ∧ c.ownerId = owner := by
  obtain ⟨r, hr, rfl⟩ := Option.map_eq_some_iff.mp h
  exact ⟨r.custody, by rw [Db.custody, hr, Option.map_some], rfl⟩

end RcProtocol
