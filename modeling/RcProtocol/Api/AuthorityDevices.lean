import RcProtocol.Api.WriteSpec

/-!
Registration of a physical mother card (routes/authority_devices.rs). Both of
its statements name the column `device_id`, which no migration declares.
-/

namespace RcProtocol
open Library

def isAsciiHexdigit (c : Char) : Bool := (hexDigit c).isSome

def registerPhysicalMotherCard (app : AppState) (draws : Draws) (actor : ActorContext)
    (req : RegisterPhysicalMotherCardRequest) : Service Reply :=
  if actor.actorRole ≠ .brand ∧ actor.actorRole ≠ .platform then
    .done (errorResponse (.forbidden
      "Only Brand or Platform users can register physical mother cards"))
  else if (utf8 req.chipUid).length ≠ 14 then
    .done (errorResponse (.invalidInput "chip_uid must be exactly 14 characters"))
  else if !req.chipUid.toList.all isAsciiHexdigit then
    .done (errorResponse (.invalidInput "chip_uid must contain only hexadecimal characters"))
  else
    let chipUidUpper := upper app.unicodeUpper req.chipUid
    ((ask (.selectDeviceIdByChip chipUidUpper)).map orDatabase).attempt errorResponse fun existing =>
    if existing.isSome then
      .done (errorResponse (.duplicateResource
        ("Physical chip UID " ++ chipUidUpper ++ " is already registered")))
    else
      let deviceId := "phys-" ++ draws.nanoid
      ((ask (.insertPhysicalDevice deviceId chipUidUpper req.brandId req.keyEpoch
        req.assetId)).map orDatabase).attempt errorResponse fun _ =>
      .done ⟨201, .registered deviceId chipUidUpper "active"⟩

/-- A registration only looks the chip up and inserts its rows. -/
inductive RegisterCall : Op → Prop
  | lookup {chipUid : String} : RegisterCall (.selectDeviceIdByChip chipUid)
  | insert {deviceId chipUid brandId assetId : String} {keyEpoch : Int32} :
      RegisterCall (.insertPhysicalDevice deviceId chipUid brandId keyEpoch assetId)

theorem registerPhysicalMotherCard_meets (app : AppState) (draws : Draws) (actor : ActorContext)
    (req : RegisterPhysicalMotherCardRequest) :
    Meets (fun _ => RegisterCall) (fun _ _ => True) []
      (registerPhysicalMotherCard app draws actor req) := by
  unfold registerPhysicalMotherCard
  split
  · exact True.intro
  split
  · exact True.intro
  split
  · exact True.intro
  refine meets_attempt_ask .lookup (fun r existing _ => ?_) fun _ _ _ => True.intro
  split
  · exact True.intro
  · exact meets_attempt_ask .insert (fun _ _ _ => True.intro) fun _ _ _ => True.intro

end RcProtocol
