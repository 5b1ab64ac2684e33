import RcProtocol.Api.TransferRun
import RcProtocol.Replay

/-!
Which tag a transfer authenticates. The asset is looked up by the id in the path
and the tag by the uid in the body, and nothing compares the two.
-/

namespace RcProtocol
open Library

namespace TransferCall

/-- The tag that was presented is the one bound to the asset, and authenticates
under the asset's own brand and epoch. -/
def PresentsOwnTag (app : AppState) (call : TransferCall) (db : Db) : Prop :=
  ∃ row message key, db.asset call.assetId = some row ∧
    row.uid = some call.payload.childUid ∧
    decodeSunMessage "child_" call.payload.childUid call.payload.childCtr
      call.payload.childCmac = .ok message ∧
    app.kms.deriveChipKey row.brandId message.uid row.epoch.toUInt32 = .ok key ∧
    app.crypto.verifySunMessage key message.uid message.ctr message.cmac = true

section Transfers
variable {app : AppState} {call : TransferCall} {db : Db}

theorem Authentic.presentsOwnTag {message : SunMessage} (h : call.Authentic app db message)
    (hbound : db.boundUid call.assetId = some (some call.payload.childUid)) :
    call.PresentsOwnTag app db := by
  obtain ⟨stored, epoch, hstored, hepoch, hdecoded, htag⟩ := h
  obtain ⟨row, hrow, rfl⟩ := Option.map_eq_some_iff.mp hstored
  obtain ⟨row', hrow', huid⟩ := Option.map_eq_some_iff.mp hbound
  obtain rfl := Option.some.inj (hrow.symm.trans hrow')
  have hfound : db.selectEpochByUid call.payload.childUid = some row.epoch := by
    rw [Db.selectEpochByUid, Db.assetByUid_of_mem (Db.asset_mem hrow) huid, Option.map_some]
  obtain rfl := Option.some.inj (hepoch.symm.trans hfound)
  obtain ⟨key, hkey, hvalid⟩ := checkTag_ok htag
  exact ⟨row, message, key, hrow, huid, hdecoded, hkey, hvalid⟩

/-- A transfer that succeeds has authenticated the asset's own tag exactly when the
request names the uid the asset is bound to. -/
theorem transfer_presentsOwnTag_iff (app : AppState) (call : TransferCall)
    (env : Nat → machine.Env) (s : Store)
    (h : (machine.run (call.handle app) env s).answer.status = 200) :
    call.PresentsOwnTag app s.db ↔
      s.db.boundUid call.assetId = some (some call.payload.childUid) := by
  obtain ⟨stored, owner, epoch, message, hstored, -, hepoch, -, hpresents⟩ :=
    run_transferred app call env s h
  constructor
  · rintro ⟨row, _, _, hrow, huid, -⟩
    rw [Db.boundUid, hrow, Option.map_some, huid]
  · exact Authentic.presentsOwnTag ⟨stored, epoch, hstored, hepoch, hpresents⟩

end Transfers

end TransferCall

section Sample

/-- The primitives on the scans of two tags and on one virtual mother card; the
second bytes tell the tags apart. -/
def transferPrimitives : Primitives :=
  { (default : Primitives) with
    hmacSha256 := fun key message =>
      if key = rootKey.toList then
        hexBytes 32 "ff3d31562e2bfcc1e061d8e8319f5a8d0ae03f691d9e739f4237066a4374a76f"
      else if message[1]? = some 0xA3 then
        hexBytes 32 "6198eb2aa5d101305b792758e66ba4952e118b37a92adc88be9901738de7fbea"
      else if message[1]? = some 0xB3 then
        hexBytes 32 "9525fc3c656b92732fbad1bdbd3b9f80c94cc7c0da23de1e38432f2850416f2f"
      else if key.length = 32 then
        hexBytes 32 "83f30b39d20f2527cecccec6502e1903622180e308f164a266e9b4879bff63a4"
      else hexBytes 32 "5724756a581e95f3e7eb56cc542b649e9172a7791ecf65fc155188136f14db8c"
    cmacAes128 := fun _ message =>
      if message[3]? = some 0xB3 then hexBytes 16 "336aa2f23ee99221d79d552bd0c04f82"
      else if message[9]? = some 0x0A then hexBytes 16 "78e5814521ab8592562aed4ef0317440"
      else hexBytes 16 "c76aeb4a5546b3cb9b01c3cf0a1c3b05" }

def transferApp : AppState where
  crypto := transferPrimitives
  kms := softwareKms transferPrimitives rootKey "test-system"

def credential : String := "5724756a581e95f3e7eb56cc542b649e9172a7791ecf65fc155188136f14db8c"

/-- Two sold assets of one owner, the first with a virtual mother card. -/
def soldPairStore : Store where
  db :=
    { brands := ["brand"]
      assets :=
        ⟨[{ assetId := "a", brandId := "brand", uid := some "04A31B2C3D4E5F",
            currentState := .legallySold, ownerId := some "owner" },
          { assetId := "b", brandId := "brand", uid := some "04B31B2C3D4E5F",
            currentState := .legallySold, ownerId := some "owner" }], by decide⟩
      authorityDevices :=
        .single
          { authorityId := .repeated 1, authorityUid := "vauth-x", authorityType := "VIRTUAL_APP",
            brandId := "brand", virtualCredentialHash := some credential,
            boundUserId := some "owner" }
      entanglements :=
        .single
          { entanglementId := .repeated 2, assetId := "a", childUid := "04A31B2C3D4E5F",
            authorityId := .repeated 1, authorityUid := "vauth-x", boundBy := "owner" }
      entangled := by
        intro e he
        obtain rfl := List.mem_singleton.mp he
        exact ⟨_, List.mem_singleton_self _, rfl⟩ }

/-- The owner transfers the first asset with this scan as its child tag. -/
def transferWith (childUid childCtr childCmac : String) : TransferCall where
  assetId := "a"
  actor := { actorId := "owner", actorRole := .consumer }
  headers := .ofList [("X-Idempotency-Key", "k")]
  payload :=
    { newOwnerId := "friend"
      childUid := childUid
      childCtr := childCtr
      childCmac := childCmac
      authorityProof := .virtualToken "owner" credential }
  draws := { eventId := .repeated 3 }

def ownTagTransfer : TransferCall := transferWith "04A31B2C3D4E5F" "0A0000" "e545ab922a4e3140"

def otherTagTransfer : TransferCall := transferWith "04B31B2C3D4E5F" "0A0000" "6af2e9219d2bc082"

theorem transfer_presentsOwnTag_iff_own :
    ownTagTransfer.PresentsOwnTag transferApp soldPairStore.db ↔
      soldPairStore.db.boundUid "a" = some (some "04A31B2C3D4E5F") :=
  TransferCall.transfer_presentsOwnTag_iff transferApp ownTagTransfer (fun _ => {}) soldPairStore
    (by decide +kernel)

/-- The scan of another asset of the owner's is enough. -/
theorem other_tag_transfers :
    ¬∀ (app : AppState) (call : TransferCall) (env : Nat → machine.Env) (s : Store),
      (machine.run (call.handle app) env s).answer.status = 200 →
        call.PresentsOwnTag app s.db := by
  intro hall
  obtain ⟨row, _, _, hrow, huid, -⟩ :=
    hall transferApp otherTagTransfer (fun _ => {}) soldPairStore (by decide +kernel)
  have hbound : soldPairStore.db.boundUid "a" = some (some "04B31B2C3D4E5F") := by
    rw [Db.boundUid, show soldPairStore.db.asset "a" = some row from hrow, Option.map_some, huid]
    rfl
  exact absurd hbound (by decide)

end Sample

end RcProtocol
