import RcProtocol.Api.Effects
import RcProtocol.Library.View
import Mathlib

/-!
The counter an asset was last verified with and the tag the asset is bound to.
One statement writes the counter, none the binding.
-/

namespace RcProtocol
open Library

/-- The asset whose counter an event updates, and the new counter. -/
def ctrUpdate : Event api → Option (String × Int32)
  | ⟨.updateAssetCtr assetId ctr, .ok _⟩ => some (assetId, ctr)
  | _ => none

theorem ctrUpdate_eq {e : Event api} {assetId : String} {ctr : Int32}
    (h : ctrUpdate e = some (assetId, ctr)) : e = ⟨.updateAssetCtr assetId ctr, .ok ()⟩ := by
  obtain ⟨op, r⟩ := e
  cases op <;> first | cases h | (cases r <;> first | cases h; rfl | cases h)

namespace Db
variable (db : Db) (assetId : String)

def storedCtr : Option (Option Int32) := (db.asset assetId).map (·.lastVerifiedCtr)

/-- The stored counter as a number; an asset that was never verified is below all. -/
def lastCtr : WithBot ℤ := (db.storedCtr assetId).join.map Int32.toInt

def boundUid : Option (Option String) := (db.asset assetId).map (·.uid)

variable {db assetId} {id id' uid : String} {row : AssetVerifyRow}

theorem boundUid_of_selectAssetByUid (h : db.selectAssetByUid uid = some row) :
    db.boundUid row.assetId = some (some uid) := by
  obtain ⟨r, hr, rfl⟩ := Option.map_eq_some_iff.mp h
  rw [boundUid, asset_of_mem (assetByUid_mem hr), Option.map_some, assetByUid_uid hr]

theorem selectLastVerifiedCtr_eq (h : db.selectAssetByUid uid = some row) :
    db.selectLastVerifiedCtr uid = db.storedCtr row.assetId := by
  obtain ⟨r, hr, rfl⟩ := Option.map_eq_some_iff.mp h
  rw [selectLastVerifiedCtr, hr, storedCtr, asset_of_mem (assetByUid_mem hr)]

theorem selectLastVerifiedCtr_bound (h : db.boundUid id = some (some uid)) :
    db.selectLastVerifiedCtr uid = db.storedCtr id := by
  obtain ⟨r, hr, hu⟩ := Option.map_eq_some_iff.mp h
  rw [selectLastVerifiedCtr, assetByUid_of_mem (asset_mem hr) hu, storedCtr, hr]

/-- No two assets are bound to one tag. -/
theorem boundUid_injective (h : db.boundUid id = some (some uid))
    (h' : db.boundUid id' = some (some uid)) : id = id' := by
  obtain ⟨r, hr, hu⟩ := Option.map_eq_some_iff.mp h
  obtain ⟨r', hr', hu'⟩ := Option.map_eq_some_iff.mp h'
  have hfound := assetByUid_of_mem (asset_mem hr) hu
  rw [assetByUid_of_mem (asset_mem hr') hu'] at hfound
  rw [← asset_assetId hr, ← asset_assetId hr', Option.some.inj hfound]

end Db

namespace Changes
variable {e : Event api} {db db' : Db}

theorem storedCtr (h : Changes e db db') (assetId : String) :
    db'.storedCtr assetId =
      written ((ctrUpdate e).map fun w => (w.1, fun _ => some w.2)) assetId
        (db.storedCtr assetId) := by
  have hasset := h.asset assetId
  obtain ⟨op, r⟩ := e
  simp only [Db.storedCtr, hasset]
  cases op <;> first | rfl | (cases r <;> first | rfl | skip)
  all_goals
    simp only [assetWrite, ctrUpdate, written, Option.map_some, Option.map_none]
    split
    · cases db.asset assetId <;> rfl
    · rfl

theorem boundUid (h : Changes e db db') (assetId : String) :
    db'.boundUid assetId = db.boundUid assetId := by
  have hasset := h.asset assetId
  simp only [Db.boundUid, hasset]
  split
  · next id f hw =>
    split
    · rw [Option.map_map]
      congr 1
      funext r
      exact congrArg Prod.snd (assetWrite_key hw r)
    · rfl
  · rfl

end Changes

def counterView : View machine String (Option Int32) where
  get s := s.db.storedCtr
  write e := (ctrUpdate e).map fun w => (w.1, fun _ => some w.2)
  step env op s := (machine_changes env op s).storedCtr

def tagView : View machine String (Option String) where
  get s := s.db.boundUid
  write _ := none
  step env op s := (machine_changes env op s).boundUid

section Arithmetic
variable {stored : Int32} {ctr cached : UInt32}

theorem toInt_of_toUInt32_lt (h : stored.toUInt32.toNat < 2 ^ 31) :
    stored.toInt = stored.toUInt32.toNat := by
  apply BitVec.toInt_eq_toNat_of_lt
  show 2 * stored.toUInt32.toNat < 2 ^ 32
  omega

/-- A counter of three bytes that passes the replay check is above the one it was
checked against, zero apart. -/
theorem toInt_lt_of_fresh (hctr : ctr.toNat < 2 ^ 24)
    (hfresh : ¬(ctr ≤ stored.toUInt32 ∧ stored.toUInt32 > 0)) (hzero : stored = 0 → ctr ≠ 0) :
    stored.toInt < ctr.toInt32.toInt := by
  have hnew : ctr.toInt32.toInt = ctr.toNat := by
    apply toInt_of_toUInt32_lt
    rw [UInt32.toUInt32_toInt32]
    omega
  rw [hnew]
  by_cases hs : stored = 0
  · have hpos : ctr.toNat ≠ 0 := fun h => hzero hs (UInt32.toNat_inj.mp h)
    rw [hs, Int32.toInt_zero]
    omega
  · have hpos : stored.toUInt32 > 0 := by
      rw [gt_iff_lt, UInt32.pos_iff_ne_zero]
      intro h
      exact hs (by rw [← Int32.toInt32_toUInt32 stored, h]; rfl)
    have hlt : stored.toUInt32.toNat < ctr.toNat := by
      rw [← UInt32.lt_iff_toNat_lt]
      by_contra hle
      exact hfresh ⟨UInt32.not_lt.mp hle, hpos⟩
    rw [toInt_of_toUInt32_lt (by omega)]
    omega

/-- A counter that passes the replay check against the stored one raises it, zero
apart. -/
theorem Db.lastCtr_lt {db : Db} {assetId : String} (hctr : ctr.toNat < 2 ^ 24)
    (hfresh : ∀ stored, db.storedCtr assetId = some (some stored) →
      ¬(ctr ≤ stored.toUInt32 ∧ stored.toUInt32 > 0))
    (hzero : ctr = 0 → db.storedCtr assetId ≠ some (some 0)) :
    db.lastCtr assetId < (ctr.toInt32.toInt : WithBot ℤ) := by
  unfold Db.lastCtr
  cases hs : (db.storedCtr assetId).join with
  | none => exact WithBot.bot_lt_coe _
  | some stored =>
      have hs := Option.join_eq_some_iff.mp hs
      apply WithBot.coe_lt_coe.mpr
      refine toInt_lt_of_fresh hctr (hfresh stored hs) ?_
      rintro rfl hctr
      exact hzero hctr hs

end Arithmetic

end RcProtocol
